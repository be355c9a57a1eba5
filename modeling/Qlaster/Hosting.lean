import Qlaster.Sequential
import Qlaster.Simulation

/-!
A system whose tasks make the calls of another one. Its programs are calls of the inner
system with operations of their own before, between and within them; leaving those out, a
run of the host is a run of the inner system.
-/

namespace Interleaving

variable {Op Op' : Type → Type} {Task Task' State State' Choice Choice' Call Call' : Type}

/-! Programs with additional operations. -/

section
variable (embed : {β : Type} → Op β → Op' β) (own : {β : Type} → Op' β → Prop)

/-- Without the operations that are the host's own, the first program is the second. -/
def Follows {γ : Type} : {α : Type} → Program Op' α → (α → γ → Prop) → Program Op γ → Prop
  | _, .done value, leaf, inner => ∃ result, inner = .done result ∧ leaf value result
  | _, .request (β := β) op next, leaf, inner =>
      (own op ∧ ∀ reply, Follows (next reply) leaf inner) ∨
      ∃ (op' : Op β) (next' : β → Program Op γ), op = embed op' ∧ inner = .request op' next' ∧
        ∀ reply, Follows (next reply) leaf (next' reply)
  | _, .loop (σ := σ) (β := β) turn body next, leaf, inner =>
      ∃ (body' : σ → Program Op (Sum σ β)) (next' : β → Program Op γ),
        inner = .loop turn body' next' ∧ (∀ turn, Follows (body turn) Eq (body' turn)) ∧
          ∀ result, Follows (next result) leaf (next' result)

variable {embed} {own} {α β γ δ : Type}

theorem Follows.bind {program : Program Op' α} {leaf : α → γ → Prop} {inner : Program Op γ}
    {rest : α → Program Op' β} {leaf' : β → δ → Prop} {rest' : γ → Program Op δ}
    (first : Follows embed own program leaf inner)
    (second : ∀ value result, leaf value result →
      Follows embed own (rest value) leaf' (rest' result)) :
    Follows embed own (program.bind rest) leaf' (inner.bind rest') := by
  induction program generalizing γ inner with
  | done value =>
      obtain ⟨result, rfl, holds⟩ := first
      exact second value result holds
  | request op next ih =>
      rcases first with ⟨mine, continues⟩ | ⟨op', next', rfl, rfl, continues⟩
      · exact .inl ⟨mine, fun reply => ih reply (continues reply) second⟩
      · exact .inr ⟨op', _, rfl, rfl, fun reply => ih reply (continues reply) second⟩
  | loop turn body next _ ih =>
      obtain ⟨body', next', rfl, turns, continues⟩ := first
      exact ⟨body', _, rfl, turns, fun result => ih result (continues result) second⟩

theorem Follows.mono {program : Program Op' α} {leaf leaf' : α → γ → Prop} {inner : Program Op γ}
    (follows : Follows embed own program leaf inner) (weaker : ∀ value result, leaf value result →
      leaf' value result) :
    Follows embed own program leaf' inner := by
  induction program generalizing γ inner with
  | done value =>
      obtain ⟨result, rfl, holds⟩ := follows
      exact ⟨result, rfl, weaker value result holds⟩
  | request op next ih =>
      rcases follows with ⟨mine, continues⟩ | ⟨op', next', rfl, rfl, continues⟩
      · exact .inl ⟨mine, fun reply => ih reply (continues reply) weaker⟩
      · exact .inr ⟨op', next', rfl, rfl, fun reply => ih reply (continues reply) weaker⟩
  | loop turn body next _ ih =>
      obtain ⟨body', next', rfl, turns, continues⟩ := follows
      exact ⟨body', next', rfl, turns, fun result => ih result (continues result) weaker⟩

theorem follows_lift (program : Program Op α) :
    Follows embed own (program.lift embed) Eq program := by
  induction program with
  | done value => exact ⟨value, rfl, rfl⟩
  | request op next ih => exact .inr ⟨op, next, rfl, rfl, ih⟩
  | loop turn body next ihBody ih => exact ⟨body, next, rfl, ihBody, ih⟩

theorem Follows.unrolled {σ : Type} {turn : σ} {body : σ → Program Op' (Sum σ β)}
    {next : β → Program Op' α}
    {body' : σ → Program Op (Sum σ β)} {next' : β → Program Op γ} {leaf : α → γ → Prop}
    (turns : ∀ turn, Follows embed own (body turn) Eq (body' turn))
    (after : ∀ result, Follows embed own (next result) leaf (next' result)) :
    Follows embed own (.unrolled turn body next) leaf (.unrolled turn body' next') := by
  refine (turns turn).bind ?_
  rintro outcome _ rfl
  cases outcome with
  | inl again => exact ⟨body', next', rfl, turns, after⟩
  | inr result => exact after result

end

/-! Programs made of calls. -/

section
variable (inner : System Op Task State Choice Call) (embed : {β : Type} → Op β → Op' β)
  (own : {β : Type} → Op' β → Prop) (task : Task)

/-- Between operations of the host's own, the program makes calls of the inner system as the task.
-/
inductive Serves : {α : Type} → Program Op' α → Prop
  | done {α : Type} (value : α) : Serves (.done value)
  | own {α β : Type} {op : Op' β} {next : β → Program Op' α} (mine : own op)
      (rest : ∀ reply, Serves (next reply)) : Serves (.request op next)
  | loop {α β σ : Type} {turn : σ} {body : σ → Program Op' (Sum σ β)} {next : β → Program Op' α}
      (turns : ∀ turn, Serves (body turn)) (rest : ∀ result, Serves (next result)) :
      Serves (.loop turn body next)
  | call {α β : Type} (call : Call) {program : Program Op' β} {next : β → Program Op' α}
      (may : inner.mayStart task call = true)
      (follows : Follows embed own program (fun _ _ => True) (inner.program call))
      (rest : ∀ value, Serves (next value)) : Serves (program.bind next)

inductive Begins : {α : Type} → Program Op' α → Prop
  | done {α : Type} (value : α) : Begins (.done value)
  | own {α β : Type} {op : Op' β} {next : β → Program Op' α} (mine : own op)
      (rest : ∀ reply, Serves inner embed own task (next reply)) : Begins (.request op next)
  | loop {α β σ : Type} {turn : σ} {body : σ → Program Op' (Sum σ β)} {next : β → Program Op' α}
      (turns : ∀ turn, Serves inner embed own task (body turn))
      (rest : ∀ result, Serves inner embed own task (next result)) : Begins (.loop turn body next)
  | call {α β : Type} (call : Call) {program : Program Op' β} {next : β → Program Op' α}
      (may : inner.mayStart task call = true)
      (follows : Follows embed own program (fun _ _ => True) (inner.program call))
      (busy : program.isDone = false)
      (rest : ∀ value, Serves inner embed own task (next value)) : Begins (program.bind next)

variable {inner} {embed} {own} {task} {α β : Type}

theorem Serves.bind {program : Program Op' α} {rest : α → Program Op' β}
    (first : Serves inner embed own task program)
    (second : ∀ value, Serves inner embed own task (rest value)) :
    Serves inner embed own task (program.bind rest) := by
  induction first with
  | done value => exact second value
  | own mine _ ih => exact .own mine fun reply => ih reply second
  | loop turns _ _ ih => exact .loop turns fun result => ih result second
  | call call may follows _ ih =>
      rw [Program.bind_assoc]
      exact .call call may follows fun value => ih value second

theorem Serves.iterate {σ : Type} {turn : σ} {body : σ → Program Op' (Sum σ β)}
    (turns : ∀ turn, Serves inner embed own task (body turn)) :
    Serves inner embed own task (.iterate turn body) :=
  .loop turns .done

theorem Serves.unrolled {σ : Type} {turn : σ} {body : σ → Program Op' (Sum σ β)}
    {next : β → Program Op' α} (turns : ∀ turn, Serves inner embed own task (body turn))
    (rest : ∀ result, Serves inner embed own task (next result)) :
    Serves inner embed own task (.unrolled turn body next) := by
  refine (turns turn).bind fun outcome => ?_
  cases outcome with
  | inl again => exact .loop turns rest
  | inr result => exact rest result

theorem Serves.ofOnly {program : Program Op' α} (only : program.Only own) :
    Serves inner embed own task program := by
  induction program with
  | done value => exact .done value
  | request op next ih => exact .own only.1 fun reply => ih reply (only.2 reply)
  | loop turn body next ihBody ih =>
      exact .loop (fun turn => ihBody turn (only.1 turn)) fun result => ih result (only.2 result)

theorem Serves.ofCall (call : Call) {program : Program Op' α}
    (may : inner.mayStart task call = true)
    (follows : Follows embed own program (fun _ _ => True) (inner.program call)) :
    Serves inner embed own task program := by
  rw [← Program.bind_done program]
  exact .call call may follows .done

theorem Serves.begins {program : Program Op' α} (serves : Serves inner embed own task program) :
    Begins inner embed own task program := by
  induction serves with
  | done value => exact .done value
  | own mine rest _ => exact .own mine rest
  | loop turns rest _ _ => exact .loop turns rest
  | @call _ _ call program next may follows rest ih =>
      cases ended : program.isDone with
      | false => exact .call call may follows ended rest
      | true =>
          cases program with
          | done value => exact ih value
          | request op next => simp [Program.isDone] at ended
          | loop turn body next => simp [Program.isDone] at ended

end

/-! Runs. -/

section

/-- How the host executes the operations, and which of its tasks make calls. -/
structure Hosting (outer : System Op' Task' State' Choice' Call')
    (inner : System Op Task State Choice Call)
    (view : State' → State) (actor : Task → Task') (embed : {β : Type} → Op β → Op' β)
    (own : {β : Type} → Op' β → Prop) : Prop where
  injective : Function.Injective actor
  apart : ∀ {choice task} {β : Type} {op : Op' β} {before reply after}, own op →
    outer.exec choice task op before = some (reply, after) → view after = view before
  executed : ∀ {choice task} {β : Type} {op : Op β} {before reply after},
    outer.exec choice (actor task) (embed op) before = some (reply, after) →
    ∃ choice', inner.exec choice' task op (view before) = some (reply, view after)
  serves : ∀ {task call}, outer.mayStart (actor task) call = true →
    Serves inner embed own task (outer.program call)
  bystands : ∀ {task call}, (∀ inside, actor inside ≠ task) → outer.mayStart task call = true →
    (outer.program call).Only own

/-- The host's program of a task, and what the inner task has left to do of its call. -/
def Plays (inner : System Op Task State Choice Call) (embed : {β : Type} → Op β → Op' β)
    (own : {β : Type} → Op' β → Prop) (task : Task) (outside : Program Op' Unit)
    (inside : Program Op Unit) : Prop :=
  ∃ (α : Type) (program : Program Op' α) (rest : α → Program Op' Unit),
    outside = program.bind rest ∧ Follows embed own program (fun _ _ => True) inside ∧
      ∀ value, Serves inner embed own task (rest value)

variable {outer : System Op' Task' State' Choice' Call'} {inner : System Op Task State Choice Call}
  {view : State' → State} {actor : Task → Task'} {embed : {β : Type} → Op β → Op' β}
  {own : {β : Type} → Op' β → Prop} {task : Task}

theorem Serves.plays {program : Program Op' Unit} (serves : Serves inner embed own task program) :
    Plays inner embed own task program (.done ()) :=
  ⟨Unit, .done (), fun _ => program, rfl, ⟨(), rfl, trivial⟩, fun _ => serves⟩

theorem Plays.idle {inside : Program Op Unit}
    (plays : Plays inner embed own task (.done ()) inside) : inside = .done () := by
  obtain ⟨α, program, rest, whole, follows, _⟩ := plays
  cases program with
  | done value =>
      obtain ⟨_, rfl, _⟩ := follows
      rfl
  | request op next => simp [Program.bind] at whole
  | loop turn body next => simp [Program.bind] at whole

variable [DecidableEq Task]

def Hosting.Matched (inner : System Op Task State Choice Call)
    (related : Program Op' Unit → Program Op Unit → Prop)
    (task : Task) (before : Config Op Task State) (after : State) (later : Program Op' Unit) :
    Prop :=
  ∃ inside, inner.Reachable before ⟨after, Function.update before.pool task inside⟩ ∧
    related later inside

theorem Hosting.within (hosting : Hosting outer inner view actor embed own) {α : Type}
    {program : Program Op' α}
    {rest : α → Program Op' Unit} {config : Config Op Task State} {before after : State'}
    {later : Program Op' Unit} (busy : program.isDone = false) (same : config.shared = view before)
    (follows : Follows embed own program (fun _ _ => True) (config.pool task))
    (serves : ∀ value, Serves inner embed own task (rest value))
    (advances : outer.Advances (actor task) (program.bind rest) before later after) :
    Hosting.Matched inner (Plays inner embed own task) task config (view after) later := by
  cases program with
  | done value => simp [Program.isDone] at busy
  | request op next =>
      obtain ⟨choice, reply, executed, rfl⟩ := advances
      rcases follows with ⟨mine, continues⟩ | ⟨op', next', rfl, running, continues⟩
      · refine ⟨config.pool task, ?_, _, next reply, rest, rfl, continues reply, serves⟩
        rw [hosting.apart mine executed, ← same, Function.update_eq_self]
        exact .initial
      · obtain ⟨choice', ran⟩ := hosting.executed executed
        refine ⟨next' reply, .step .initial ?_, _, next reply, rest, rfl, continues reply, serves⟩
        exact .exec choice' task op' next' reply (view after) running (same ▸ ran)
  | loop turn body next =>
      obtain ⟨rfl, rfl⟩ := advances
      obtain ⟨body', next', running, turns, continues⟩ := follows
      refine ⟨.unrolled turn body' next', ?_, _, .unrolled turn body next, rest, ?_,
        Follows.unrolled turns continues, serves⟩
      · rw [← same]
        exact .step .initial (.unroll task turn body' next' running)
      · exact (System.unrolled_bind turn body next rest).symm

theorem Hosting.advance (hosting : Hosting outer inner view actor embed own)
    {config : Config Op Task State}
    {program later : Program Op' Unit} {before after : State'} (same : config.shared = view before)
    (plays : Plays inner embed own task program (config.pool task))
    (advances : outer.Advances (actor task) program before later after) :
    Hosting.Matched inner (Plays inner embed own task) task config (view after) later := by
  obtain ⟨α, front, rest, rfl, follows, serves⟩ := plays
  cases busy : front.isDone with
  | false => exact hosting.within busy same follows serves advances
  | true =>
      cases front with
      | request op next => simp [Program.isDone] at busy
      | loop turn body next => simp [Program.isDone] at busy
      | done value =>
          obtain ⟨_, idle, _⟩ := follows
          -- The inner task stays idle until the host comes to a call.
          have stays : ∀ {outside : Program Op' Unit}, view after = view before →
              Serves inner embed own task outside →
              Hosting.Matched inner (Plays inner embed own task) task config (view after)
                outside := by
            intro outside unchanged next
            refine ⟨.done (), ?_, next.plays⟩
            rw [unchanged, ← same, ← idle, Function.update_eq_self]
            exact .initial
          have begins := (serves value).begins
          simp only [Program.bind] at advances
          generalize rest value = outside at begins advances
          cases begins with
          | done value => exact advances.elim
          | own mine continues =>
              obtain ⟨choice, reply, executed, rfl⟩ := advances
              exact stays (hosting.apart mine executed) (continues reply)
          | loop turns continues =>
              obtain ⟨rfl, rfl⟩ := advances
              exact stays rfl (Serves.unrolled turns continues)
          | @call _ call program next may follows busy continues =>
              let begun : Config Op Task State :=
                { config with pool := Function.update config.pool task (inner.program call) }
              have started : inner.Step config begun := .start task call idle may
              have follows' : Follows embed own program (fun _ _ => True) (begun.pool task) := by
                simpa only [begun, Function.update_self] using follows
              have same' : begun.shared = view before := same
              obtain ⟨inside, reached, plays⟩ := hosting.within busy same' follows'
                continues advances
              refine ⟨inside, (System.Reachable.initial.step started).trans ?_, plays⟩
              simpa only [begun, Function.update_idem] using reached

/-- A relation between the programs of a task in the two systems that the steps of the host keep. -/
structure Hosting.Tracks (outer : System Op' Task' State' Choice' Call')
    (inner : System Op Task State Choice Call) (view : State' → State) (actor : Task → Task')
    (related : Task → Program Op' Unit → Program Op Unit → Prop) :
    Prop where
  resting : ∀ task, related task (.done ()) (.done ())
  started : ∀ {task call} {config : Config Op Task State}, outer.mayStart (actor task) call = true →
    related task (.done ()) (config.pool task) →
    Hosting.Matched inner (related task) task config config.shared (outer.program call)
  advanced :
    ∀ {task} {config : Config Op Task State} {program later : Program Op' Unit} {before
    after : State'},
    config.shared = view before → related task program (config.pool task) →
    outer.Advances (actor task) program before later after →
    Hosting.Matched inner (related task) task config (view after) later

theorem Hosting.tracks (hosting : Hosting outer inner view actor embed own) :
    Hosting.Tracks outer inner view actor (Plays inner embed own) where
  resting := fun _ => (Serves.done ()).plays
  started := by
    intro task call config may resting
    refine ⟨.done (), ?_, (hosting.serves may).plays⟩
    rw [← resting.idle, Function.update_eq_self]
    exact .initial
  advanced := hosting.advance

/-- The two pools, task by task; tasks that make no calls keep to the host's own operations. -/
structure Hosting.Mirrors (view : State' → State) (actor : Task → Task')
    (own : {β : Type} → Op' β → Prop)
    (related : Task → Program Op' Unit → Program Op Unit → Prop) (outside : Config Op' Task' State')
    (inside : Config Op Task State) : Prop where
  shared : inside.shared = view outside.shared
  related : ∀ task, related task (outside.pool (actor task)) (inside.pool task)
  bystands : ∀ task, (∀ inside, actor inside ≠ task) → (outside.pool task).Only own

variable [DecidableEq Task'] {related : Task → Program Op' Unit → Program Op Unit → Prop}

theorem Hosting.simulates (hosting : Hosting outer inner view actor embed own)
    (tracks : Hosting.Tracks outer inner view actor related) :
    System.Simulation outer inner (Hosting.Mirrors view actor own related) where
  matched := by
    intro before after other mirrors step
    -- The pools of the others stay as they are.
    have elsewhere : ∀ {task : Task} {program : Program Op' Unit} {inside : Program Op Unit},
        related task program inside → ∀ shared shared', shared' = view shared →
        Hosting.Mirrors view actor own related
          ⟨shared, Function.update before.pool (actor task) program⟩
            ⟨shared', Function.update other.pool task inside⟩ := by
      intro task program inside kept shared shared' same
      refine ⟨same, fun role => ?_, fun role outsider => ?_⟩
      · by_cases mine : role = task
        · subst role
          simpa only [Function.update_self] using kept
        · have apart : actor role ≠ actor task := fun clash => mine (hosting.injective clash)
          simpa only [Function.update_of_ne mine, Function.update_of_ne apart] using mirrors.related
            role
      · have apart : role ≠ actor task := fun clash => outsider task clash.symm
        simpa only [Function.update_of_ne apart] using mirrors.bystands role outsider
    have aside : ∀ {role : Task'} {program : Program Op' Unit}, (∀ inside, actor inside ≠ role) →
        program.Only own → ∀ shared, other.shared = view shared →
        Hosting.Mirrors view actor own related ⟨shared, Function.update before.pool role program⟩
          other := by
      intro role program outsider only shared same
      refine ⟨same, fun task => ?_, fun another outsider' => ?_⟩
      · simpa only [Function.update_of_ne (outsider task)] using mirrors.related task
      · by_cases mine : another = role
        · subst another
          simpa only [Function.update_self] using only
        · simpa only [Function.update_of_ne mine] using mirrors.bystands another outsider'
    rcases step.advances with ⟨role, call, idle, may, rfl⟩ | ⟨role, later, shared, advances, rfl⟩
    · by_cases inhabited : ∃ task, actor task = role
      · obtain ⟨task, rfl⟩ := inhabited
        have resting := mirrors.related task
        rw [idle] at resting
        obtain ⟨inside, reached, kept⟩ := tracks.started may resting
        exact ⟨_, reached, elsewhere kept _ _ mirrors.shared⟩
      · have outsider : ∀ inside, actor inside ≠ role := fun inside same => inhabited ⟨inside, same⟩
        exact ⟨other, .initial, aside outsider (hosting.bystands outsider may) _ mirrors.shared⟩
    · by_cases inhabited : ∃ task, actor task = role
      · obtain ⟨task, rfl⟩ := inhabited
        obtain ⟨inside, reached, kept⟩ := tracks.advanced mirrors.shared
          (mirrors.related task) advances
        exact ⟨_, reached, elsewhere kept shared _ rfl⟩
      · have outsider : ∀ inside, actor inside ≠ role := fun inside same => inhabited ⟨inside, same⟩
        have only := mirrors.bystands role outsider
        refine ⟨other, .initial, ?_⟩
        generalize before.pool role = program at only advances
        cases program with
        | done value => exact advances.elim
        | request op next =>
            obtain ⟨choice, reply, executed, rfl⟩ := advances
            refine aside outsider (only.2 reply) shared ?_
            rw [hosting.apart only.1 executed]
            exact mirrors.shared
        | loop turn body next =>
            obtain ⟨rfl, rfl⟩ := advances
            exact aside outsider (Program.Only.unrolled only.1 only.2) _ mirrors.shared

/-- Every run of the host is a run of the inner system, seen through the view. -/
theorem Hosting.Tracks.reachable (tracks : Hosting.Tracks outer inner view actor related)
    (hosting : Hosting outer inner view actor embed own)
    {initial config : Config Op' Task' State'} (idle : ∀ task, initial.pool task = .done ())
    (run : outer.Reachable initial config) : ∃ pool,
      inner.Reachable ⟨view initial.shared, fun _ => .done ()⟩ ⟨view config.shared, pool⟩ ∧
        ∀ task, related task (config.pool (actor task)) (pool task) := by
  have start :
      Hosting.Mirrors view actor own related initial ⟨view initial.shared, fun _ => .done ()⟩ := by
    refine ⟨rfl, fun task => ?_, fun task _ => ?_⟩
    · rw [idle]
      exact tracks.resting task
    · rw [idle]
      trivial
  obtain ⟨inside, reached, mirrors⟩ := (hosting.simulates tracks).reachable start run
  exact ⟨inside.pool, mirrors.shared ▸ reached, mirrors.related⟩

theorem Hosting.reachable (hosting : Hosting outer inner view actor embed own)
    {initial config : Config Op' Task' State'} (idle : ∀ task, initial.pool task = .done ())
    (run : outer.Reachable initial config) : ∃ pool,
      inner.Reachable ⟨view initial.shared, fun _ => .done ()⟩ ⟨view config.shared, pool⟩ ∧
        ∀ task, Plays inner embed own task (config.pool (actor task)) (pool task) :=
  hosting.tracks.reachable hosting idle run

end

end Interleaving
