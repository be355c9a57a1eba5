import Qlaster.Hosting
import Qlaster.Progress

/-!
A host some of whose tasks only pass calls on. Such a task stands in the host where it stands
inside, and whatever the inner system can do by steps of these tasks, the host can do.
-/

namespace Interleaving

variable {Op Op' : Type → Type} {Task Task' State State' Choice Choice' Call Call' : Type}
  {α : Type}

namespace Program

theorem lift_injective {embed : {β : Type} → Op β → Op' β}
    (injective : ∀ {β : Type} {op op' : Op β}, embed op = embed op' → op = op')
    {program other : Program Op α}
    (same : program.lift embed = other.lift embed) : program = other := by
  induction program with
  | done value =>
      cases other with
      | done value' =>
          cases same
          rfl
      | request op next => cases same
      | loop turn body next => cases same
  | request op next ih =>
      cases other with
      | done value => cases same
      | request op' next' =>
          simp only [lift] at same
          injection same with _ replies ops nexts
          subst replies
          rw [injective (eq_of_heq ops)]
          congr 1
          funext reply
          exact ih reply (congrFun (eq_of_heq nexts) reply)
      | loop turn body next => cases same
  | loop turn body next ihBody ih =>
      cases other with
      | done value => cases same
      | request op next => cases same
      | loop turn' body' next' =>
          simp only [lift] at same
          injection same with _ turns results starts bodies nexts
          subst turns results
          rw [eq_of_heq starts]
          congr 1
          · funext turn
            exact ihBody turn (congrFun (eq_of_heq bodies) turn)
          · funext result
            exact ih result (congrFun (eq_of_heq nexts) result)

end Program

section
variable (own : {β : Type} → Op β → Prop)

/-- With the right replies, operations of one sort bring the program to its end. -/
inductive Quits : Program Op α → Prop
  | done (value : α) : Quits (.done value)
  | request {β : Type} {op : Op β} {next : β → Program Op α} (mine : own op) (reply : β)
      (rest : Quits (next reply)) : Quits (.request op next)

end

section
variable {inner : System Op Task State Choice Call} {embed : {β : Type} → Op β → Op' β}
  {own : {β : Type} → Op' β → Prop} {task : Task}

theorem plays_lift (inside : Program Op Unit) :
    Plays inner embed own task (inside.lift embed) inside :=
  ⟨Unit, inside.lift embed, .done, (Program.bind_done _).symm,
    (follows_lift inside).mono fun _ _ _ => trivial, .done⟩

theorem Plays.quits (apart : ∀ {β : Type} (op : Op β), ¬ own (embed op))
    {outside : Program Op' Unit}
    {inside : Program Op Unit} (plays : Plays inner embed own task outside inside)
    (quits : Quits own outside) : inside = .done () := by
  induction quits with
  | done value => exact plays.idle
  | request mine reply _ ih =>
      obtain ⟨α, program, rest, whole, follows, serves⟩ := plays
      cases program with
      | done value =>
          obtain ⟨_, rfl, _⟩ := follows
          rfl
      | loop turn body next => cases whole
      | request op next =>
          cases whole
          rcases follows with ⟨_, continues⟩ | ⟨op', next', rfl, _⟩
          · exact ih ⟨α, next reply, rest, rfl, continues reply, serves⟩
          · exact absurd mine (apart op')

end

/-- The host executes the operations of the inner system on the part of its state that this sees. -/
structure Hosting.Carries (outer : System Op' Task' State' Choice' Call')
    (inner : System Op Task State Choice Call)
    (view : State' → State) (put : State → State' → State') (actor : Task → Task')
    (embed : {β : Type} → Op β → Op' β) (narrow : Choice' → Choice) (wrap : Call → Call') :
    Prop where
  seen : ∀ inside whole, view (put inside whole) = inside
  unchanged : ∀ whole, put (view whole) whole = whole
  replaced : ∀ later inside whole, put later (put inside whole) = put later whole
  executed : ∀ {choice task} {β : Type} {op : Op β} {whole reply after},
    inner.exec (narrow choice) task op (view whole) = some (reply, after) →
    outer.exec choice (actor task) (embed op) whole = some (reply, put after whole)
  program : ∀ call, outer.program (wrap call) = (inner.program call).lift embed

/-- These tasks pass calls on and do nothing else. -/
def Hosting.Echoes (outer : System Op' Task' State' Choice' Call')
    (inner : System Op Task State Choice Call)
    (actor : Task → Task') (wrap : Call → Call') (echoing : Task → Prop) : Prop :=
  ∀ {task}, echoing task → ∀ call', outer.mayStart (actor task) call' = true ↔
    ∃ call, call' = wrap call ∧ inner.mayStart task call = true

section
variable {outer : System Op' Task' State' Choice' Call'} {inner : System Op Task State Choice Call}
  {view : State' → State} {put : State → State' → State'} {actor : Task → Task'}
  {embed : {β : Type} → Op β → Op' β}
  {own : {β : Type} → Op' β → Prop} {narrow : Choice' → Choice} {wrap : Call → Call'}
  {echoing : Task → Prop} {task : Task}

theorem Hosting.Carries.alone
    (carries : Hosting.Carries outer inner view put actor embed narrow wrap)
    {choices : Nat → Choice'} {program : Program Op α} {tick : Nat} {whole : State'}
    {post : α → Nat → State → Prop}
    (alone : inner.Alone task (fun n => narrow (choices n)) program tick (view whole) post) :
    outer.Alone (actor task) choices (program.lift embed) tick whole
      fun value later after => post value later (view after) ∧ after = put (view after) whole := by
  refine System.Alone.lift embed view (fun before after => after = put (view after) before) ?_ ?_
    (carries.unchanged whole).symm alone
  · intro first second third earlier later
    rw [later, earlier, carries.replaced, carries.seen]
  · intro β op tick now reply after _ executed
    refine ⟨put after now, carries.executed executed, carries.seen _ _, ?_⟩
    rw [carries.seen]

variable [DecidableEq Task]

theorem Hosting.Carries.tracks
    (carries : Hosting.Carries outer inner view put actor embed narrow wrap)
    (hosting : Hosting outer inner view actor embed own)
    (echoes : Hosting.Echoes outer inner actor wrap echoing) :
    Hosting.Tracks outer inner view actor fun task outside inside =>
      Plays inner embed own task outside inside ∧ (echoing task → outside = inside.lift embed) where
  resting := fun task => ⟨(Serves.done ()).plays, fun _ => rfl⟩
  started := by
    intro task call config may resting
    by_cases echo : echoing task
    · obtain ⟨call', rfl, may'⟩ := (echoes echo call).mp may
      rw [carries.program]
      exact ⟨_, .step .initial (.start task call' resting.1.idle may'), plays_lift _, fun _ => rfl⟩
    · obtain ⟨inside, reached, plays⟩ := hosting.tracks.started may resting.1
      exact ⟨inside, reached, plays, fun echo' => absurd echo' echo⟩
  advanced := by
    intro task config program later before after same related advances
    by_cases echo : echoing task
    · have place := related.2 echo
      cases running : config.pool task with
      | done value =>
          rw [place, running] at advances
          exact advances.elim
      | request op next =>
          rw [place, running] at advances
          obtain ⟨choice, reply, executed, rfl⟩ := advances
          obtain ⟨choice', ran⟩ := hosting.executed executed
          exact ⟨next reply,
            .step .initial (.exec choice' task op next reply (view after) running (same ▸ ran)),
            plays_lift _, fun _ => rfl⟩
      | loop turn body next =>
          rw [place, running] at advances
          obtain ⟨rfl, rfl⟩ := advances
          refine ⟨.unrolled turn body next, ?_, ?_, fun _ =>
            (Program.unrolled_lift embed turn body next).symm⟩
          · rw [← same]
            exact .step .initial (.unroll task turn body next running)
          · rw [← Program.unrolled_lift]
            exact plays_lift _
    · obtain ⟨inside, reached, plays⟩ := hosting.tracks.advanced same related.1 advances
      exact ⟨inside, reached, plays, fun echo' => absurd echo' echo⟩

/-- Where the host has a run of the inner system under way: the same state, and these tasks at the
same place. -/
structure Replays (view : State' → State) (actor : Task → Task') (embed : {β : Type} → Op β → Op' β)
    (tasks : List Task) (outside : Config Op' Task' State') (inside : Config Op Task State) :
    Prop where
  shared : view outside.shared = inside.shared
  pool : ∀ task ∈ tasks, outside.pool (actor task) = (inside.pool task).lift embed

variable [DecidableEq Task'] {tasks : List Task} {outside : Config Op' Task' State'}
  {inside next final : Config Op Task State}

theorem Replays.update (replays : Replays view actor embed tasks outside inside)
    (injective : Function.Injective actor)
    {whole : State'} {shared : State} (same : view whole = shared) (program : Program Op Unit) :
    Replays view actor embed tasks
      ⟨whole, Function.update outside.pool (actor task) (program.lift embed)⟩
      ⟨shared, Function.update inside.pool task program⟩ := by
  refine ⟨same, fun role member => ?_⟩
  by_cases mine : role = task
  · subst role
    simp only [Function.update_self]
  · have apart : actor role ≠ actor task := fun clash => mine (injective clash)
    simpa only [Function.update_of_ne mine, Function.update_of_ne apart] using replays.pool
      role member

theorem Hosting.Carries.step
    (carries : Hosting.Carries outer inner view put actor embed narrow wrap)
    (injective : Function.Injective actor) (named : task ∈ tasks) {choice : Choice'}
    (ran : inner.command inside (.step task (narrow choice)) = some next)
    (replays : Replays view actor embed tasks outside inside) :
    ∃ after, outer.command outside (.step (actor task) choice) = some after ∧
      after.shared = put next.shared outside.shared ∧
        Replays view actor embed tasks after next := by
  have place := replays.pool task named
  simp only [System.command] at ran
  split at ran
  · cases ran
  · rename_i turn body following running
    obtain rfl := Option.some.inj ran
    rw [running] at place
    refine ⟨⟨outside.shared, Function.update outside.pool (actor task)
      ((Program.unrolled turn body following).lift embed)⟩, ?_,
        ?_, replays.update injective replays.shared _⟩
    · simp only [System.command, place, Program.lift, Program.unrolled_lift]
    · rw [← replays.shared, carries.unchanged]
  · rename_i op following running
    split at ran
    · cases ran
    · rename_i reply shared executed
      obtain rfl := Option.some.inj ran
      rw [running] at place
      rw [← replays.shared] at executed
      refine ⟨⟨put shared outside.shared, Function.update outside.pool (actor task)
        ((following reply).lift embed)⟩, ?_, rfl, replays.update injective (carries.seen _ _) _⟩
      simp only [System.command, place, Program.lift, carries.executed executed]

theorem Hosting.Carries.leads
    (carries : Hosting.Carries outer inner view put actor embed narrow wrap)
    (echoes : Hosting.Echoes outer inner actor wrap echoing) (injective : Function.Injective actor)
    (among : ∀ task ∈ tasks, echoing task) {choices : Nat → Choice'} {tick later : Nat}
    (leads : inner.Leads tasks (fun n => narrow (choices n)) tick inside later final)
    (replays : Replays view actor embed tasks outside inside) :
    ∃ after, outer.Leads (tasks.map actor) choices tick outside later after ∧
      after.shared = put final.shared outside.shared ∧
        Replays view actor embed tasks after final := by
  induction leads with
  | refl => exact ⟨outside, .refl, by rw [← replays.shared, carries.unchanged], replays⟩
  | @start _ mid task call _ named idle may ih =>
      obtain ⟨after, leads, shared, replays⟩ := ih
      have may' : outer.mayStart (actor task) (wrap call) = true :=
        (echoes (among task named) (wrap call)).mpr ⟨call, rfl, may⟩
      have resting : after.pool (actor task) = .done () := by
        rw [replays.pool task named, idle]
        rfl
      refine ⟨_, .start leads (List.mem_map_of_mem named) resting may', shared, ?_⟩
      rw [carries.program]
      exact replays.update injective replays.shared _
  | step _ named stepped ih =>
      obtain ⟨mid, leads, shared, replays⟩ := ih
      obtain ⟨after, ran, shared', replays⟩ := carries.step injective named stepped replays
      refine ⟨after, .step leads (List.mem_map_of_mem named) ran, ?_, replays⟩
      rw [shared', shared, carries.replaced]

end

end Interleaving
