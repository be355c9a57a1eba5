import Qlaster.Program

/-!
Rely-guarantee reasoning about pools of tasks. A discipline gives every operation
a guard under which a task may execute it; a triple says that a program keeps to
the guards whatever the other tasks do within theirs.
-/

namespace Interleaving

variable {Op : Type → Type} {Task State Choice Call : Type}

structure Discipline (system : System Op Task State Choice Call) where
  inv : State → Prop
  guard : Task → ∀ {β : Type}, Op β → State → Prop
  -- What a task can count on while it is between two calls.
  rest : Task → State → Prop
  preserved : ∀ {choice task} {β : Type} {op : Op β} {state reply after},
    inv state → guard task op state →
    system.exec choice task op state = some (reply, after) → inv after
  rest_stable : ∀ {choice task other} {β : Type} {op : Op β} {state reply after},
    other ≠ task → inv state → guard other op state →
    system.exec choice other op state = some (reply, after) → rest task state → rest task after

namespace Discipline

variable {system : System Op Task State Choice Call} (discipline : Discipline system)

/-- One step of another task that keeps to its guard. -/
def Interferes (task : Task) (before after : State) : Prop :=
  discipline.inv before ∧ ∃ other choice, ∃ (β : Type) (op : Op β) (reply : β), other ≠ task ∧
    discipline.guard other op before ∧ system.exec choice other op before = some (reply, after)

def Later (task : Task) : State → State → Prop :=
  Relation.ReflTransGen (discipline.Interferes task)

/-- An assertion of a task that no other task can break. -/
def Stable (task : Task) (assertion : State → Prop) : Prop :=
  ∀ before after, discipline.Interferes task before after → assertion before → assertion after

/-- The program keeps to the guards for `steps` of its own steps, under any interference. -/
def Safe (task : Task) {α : Type} (post : α → State → Prop) :
    Nat → Program Op α → State → Prop
  | 0 => fun _ _ => True
  | steps + 1 => fun program state =>
      match program with
      | .done value => ∀ now, discipline.Later task state now → post value now
      | .request op next => ∀ now, discipline.Later task state now →
          discipline.guard task op now ∧
            ∀ choice reply after, system.exec choice task op now = some (reply, after) →
              Safe task post steps (next reply) after
      | .loop turn body next => Safe task post steps (.unrolled turn body next) state

def Triple (task : Task) {α : Type} (pre : State → Prop) (program : Program Op α)
    (post : α → State → Prop) : Prop :=
  ∀ steps state, discipline.inv state → pre state → discipline.Safe task post steps program state

variable {discipline} {task : Task} {α β : Type}

theorem Interferes.inv {before after : State}
    (step : discipline.Interferes task before after) : discipline.inv after := by
  obtain ⟨inv, other, choice, _, op, reply, _, guarded, executed⟩ := step
  exact discipline.preserved inv guarded executed

theorem Later.inv {before after : State} (later : discipline.Later task before after)
    (inv : discipline.inv before) : discipline.inv after := by
  induction later with
  | refl => exact inv
  | tail _ step _ => exact step.inv

theorem Stable.later {assertion : State → Prop} (stable : discipline.Stable task assertion)
    {before after : State} (later : discipline.Later task before after)
    (holds : assertion before) : assertion after := by
  induction later with
  | refl => exact holds
  | tail _ step ih => exact stable _ _ step ih

theorem Stable.and {first second : State → Prop} (left : discipline.Stable task first)
    (right : discipline.Stable task second) :
    discipline.Stable task fun state => first state ∧ second state :=
  fun before after step holds => ⟨left before after step holds.1, right before after step holds.2⟩

theorem Stable.exists {ι : Type} {assertion : ι → State → Prop}
    (each : ∀ index, discipline.Stable task (assertion index)) :
    discipline.Stable task fun state => ∃ index, assertion index state :=
  fun before after step ⟨index, holds⟩ => ⟨index, each index before after step holds⟩

theorem Stable.const (proposition : Prop) : discipline.Stable task fun _ => proposition :=
  fun _ _ _ holds => holds

theorem stable_rest : discipline.Stable task (discipline.rest task) := by
  intro before after step holds
  obtain ⟨inv, other, choice, _, op, reply, different, guarded, executed⟩ := step
  exact discipline.rest_stable different inv guarded executed holds

theorem Safe.later {post : α → State → Prop} {steps : Nat} {program : Program Op α}
    {before after : State} (later : discipline.Later task before after)
    (safe : discipline.Safe task post steps program before) :
    discipline.Safe task post steps program after := by
  induction steps generalizing program with
  | zero => trivial
  | succ steps ih =>
      cases program with
      | done value => exact fun now further => safe now (later.trans further)
      | request op next => exact fun now further => safe now (later.trans further)
      | loop turn body next => exact ih safe

theorem Safe.mono {first second : α → State → Prop} {steps : Nat} {program : Program Op α}
    {state : State} (inv : discipline.inv state)
    (weaker : ∀ value state, discipline.inv state → first value state → second value state)
    (safe : discipline.Safe task first steps program state) :
    discipline.Safe task second steps program state := by
  induction steps generalizing program state with
  | zero => trivial
  | succ steps ih =>
      cases program with
      | done value =>
          exact fun now later => weaker value now (later.inv inv) (safe now later)
      | request op next =>
          intro now later
          obtain ⟨guarded, continues⟩ := safe now later
          refine ⟨guarded, fun choice reply after executed => ?_⟩
          exact ih (discipline.preserved (later.inv inv) guarded executed)
            (continues choice reply after executed)
      | loop turn body next => exact ih inv safe

theorem Safe.bind {mid : α → State → Prop} {post : β → State → Prop} {steps : Nat}
    {program : Program Op α} {rest : α → Program Op β} {state : State}
    (inv : discipline.inv state) (safe : discipline.Safe task mid steps program state)
    (continues : ∀ value fewer state, fewer ≤ steps → discipline.inv state → mid value state →
      discipline.Safe task post fewer (rest value) state) :
    discipline.Safe task post steps (program.bind rest) state := by
  -- Sequencing inside the step bound: the continuation only has to be safe for as many steps as
  -- are left.
  induction steps generalizing program state with
  | zero => trivial
  | succ steps ih =>
      cases program with
      | done value =>
          exact continues value (steps + 1) state (Nat.le_refl _) inv
            (safe state Relation.ReflTransGen.refl)
      | request op next =>
          intro now later
          obtain ⟨guarded, further⟩ := safe now later
          refine ⟨guarded, fun choice reply after executed => ?_⟩
          exact ih (discipline.preserved (later.inv inv) guarded executed)
            (further choice reply after executed)
            fun value fewer state bound => continues value fewer state (by omega)
      | loop turn body next =>
          have unrolled : discipline.Safe task post steps
              ((Program.unrolled turn body next).bind rest) state :=
            ih inv safe fun value fewer state bound => continues value fewer state (by omega)
          -- Unrolling commutes with what follows the loop.
          have same : (Program.unrolled turn body next).bind rest =
              Program.unrolled turn body fun result => (next result).bind rest := by
            unfold Program.unrolled
            rw [Program.bind_assoc]
            congr 1
            funext step
            cases step <;> rfl
          rw [same] at unrolled
          exact unrolled

theorem triple_done {pre : State → Prop} {post : α → State → Prop} {value : α}
    (stable : discipline.Stable task (post value))
    (holds : ∀ state, discipline.inv state → pre state → post value state) :
    discipline.Triple task pre (.done value) post := by
  intro steps state inv start
  cases steps with
  | zero => trivial
  | succ steps => exact fun now later => stable.later later (holds state inv start)

theorem triple_perform {pre : State → Prop} {post : β → State → Prop} {op : Op β}
    (stable : discipline.Stable task pre)
    (postStable : ∀ reply, discipline.Stable task (post reply))
    (guarded : ∀ state, discipline.inv state → pre state → discipline.guard task op state)
    (effect : ∀ choice state reply after, discipline.inv state → pre state →
      system.exec choice task op state = some (reply, after) → post reply after) :
    discipline.Triple task pre (.perform op) post := by
  intro steps state inv start
  cases steps with
  | zero => trivial
  | succ steps =>
      intro now later
      have holds := stable.later later start
      refine ⟨guarded now (later.inv inv) holds, fun choice reply after executed => ?_⟩
      have established := effect choice now reply after (later.inv inv) holds executed
      cases steps with
      | zero => trivial
      | succ steps => exact fun further later' => (postStable reply).later later' established

theorem triple_bind {pre : State → Prop} {mid : α → State → Prop} {post : β → State → Prop}
    {program : Program Op α} {rest : α → Program Op β}
    (first : discipline.Triple task pre program mid)
    (second : ∀ value, discipline.Triple task (mid value) (rest value) post) :
    discipline.Triple task pre (program.bind rest) post := by
  intro steps state inv start
  exact (first steps state inv start).bind inv
    fun value fewer later _ inv' holds => second value fewer later inv' holds

theorem triple_iterate {σ : Type} (assertion : σ → State → Prop) {post : β → State → Prop}
    {body : σ → Program Op (Sum σ β)}
    (postStable : ∀ result, discipline.Stable task (post result))
    (again : ∀ turn, discipline.Triple task (assertion turn) (body turn) fun outcome state =>
      match outcome with
      | .inl next => assertion next state
      | .inr result => post result state) (turn : σ) :
    discipline.Triple task (assertion turn) (.iterate turn body) post := by
  intro steps
  induction steps using Nat.strongRecOn generalizing turn with
  | ind steps ih =>
      intro state inv start
      cases steps with
      | zero => trivial
      | succ steps =>
          refine (again turn steps state inv start).bind inv ?_
          intro outcome fewer later bound inv' holds
          cases outcome with
          | inl next => exact ih fewer (by omega) next later inv' holds
          | inr result =>
            exact triple_done (postStable result) (fun _ _ h => h) fewer later inv' holds

theorem triple_loop {assertion : State → Prop} {post : β → State → Prop}
    {body : Unit → Program Op (Sum Unit β)}
    (postStable : ∀ result, discipline.Stable task (post result))
    (again : discipline.Triple task assertion (body ()) fun outcome state =>
      match outcome with
      | .inl _ => assertion state
      | .inr result => post result state) :
    discipline.Triple task assertion (.iterate () body) post := by
  refine triple_iterate (fun _ => assertion) postStable ?_ ()
  intro _ steps state inv start
  refine (again steps state inv start).mono inv ?_
  intro outcome state _ holds
  cases outcome with
  | inl _ => exact holds
  | inr result => exact holds

theorem triple_weaken {pre pre' : State → Prop} {post post' : α → State → Prop}
    {program : Program Op α} (triple : discipline.Triple task pre program post)
    (stronger : ∀ state, discipline.inv state → pre' state → pre state)
    (weaker : ∀ value state, discipline.inv state → post value state → post' value state) :
    discipline.Triple task pre' program post' :=
  fun steps state inv start => (triple steps state inv (stronger state inv start)).mono inv weaker

theorem triple_absurd {pre : State → Prop} {post : α → State → Prop} {program : Program Op α}
    (never : ∀ state, discipline.inv state → ¬ pre state) :
    discipline.Triple task pre program post :=
  fun _ state inv start => absurd start (never state inv)

theorem triple_exists {ι : Type} {pre : ι → State → Prop} {post : α → State → Prop}
    {program : Program Op α} (each : ∀ index, discipline.Triple task (pre index) program post) :
    discipline.Triple task (fun state => ∃ index, pre index state) program post :=
  fun steps state inv ⟨index, start⟩ => each index steps state inv start

theorem triple_fact {pre : State → Prop} {fact : Prop} {post : α → State → Prop}
    {program : Program Op α} (given : fact → discipline.Triple task pre program post) :
    discipline.Triple task (fun state => pre state ∧ fact) program post :=
  fun steps state inv ⟨start, holds⟩ => given holds steps state inv start

theorem triple_only {assertion : State → Prop} {allowed : {β : Type} → Op β → Prop}
    {program : Program Op α} (only : program.Only allowed)
    (stable : discipline.Stable task assertion)
    (guarded : ∀ {β : Type} {op : Op β} {state}, allowed op → discipline.inv state →
      assertion state → discipline.guard task op state)
    (kept : ∀ {choice} {β : Type} {op : Op β} {state reply after}, allowed op →
      discipline.inv state → assertion state →
      system.exec choice task op state = some (reply, after) → assertion after) :
    discipline.Triple task assertion program fun _ => assertion := by
  intro steps
  induction steps generalizing program with
  | zero => intro _ _ _; trivial
  | succ steps ih =>
      intro state inv start
      cases program with
      | done value => exact fun now later => stable.later later start
      | request op next =>
          intro now later
          have holds := stable.later later start
          have inv' := later.inv inv
          have permitted := guarded only.1 inv' holds
          refine ⟨permitted, fun choice reply after executed => ?_⟩
          exact ih (only.2 reply) after (discipline.preserved inv' permitted executed)
            (kept only.1 inv' holds executed)
      | loop turn body next => exact ih (Program.Only.unrolled only.1 only.2) state inv start

/-- An assertion that no step within the guards can break, whichever task makes it. -/
def Persistent (discipline : Discipline system) (assertion : State → Prop) : Prop :=
  ∀ ⦃choice task⦄ ⦃β : Type⦄ ⦃op : Op β⦄ ⦃state reply after⦄, discipline.inv state →
    discipline.guard task op state → system.exec choice task op state = some (reply, after) →
    assertion state → assertion after

theorem Persistent.stable {assertion : State → Prop}
    (persistent : discipline.Persistent assertion) : discipline.Stable task assertion := by
  intro before after step holds
  obtain ⟨inv, other, choice, _, op, reply, _, guarded, executed⟩ := step
  exact persistent inv guarded executed holds

theorem Safe.along {assertion : State → Prop} {allowed : {β : Type} → Op β → Prop}
    (stable : discipline.Stable task assertion)
    (kept : ∀ {choice} {β : Type} {op : Op β} {state reply after}, allowed op →
      discipline.inv state →
      discipline.guard task op state → system.exec choice task op state = some (reply, after) →
      assertion state → assertion after)
    {post : α → State → Prop} {steps : Nat} {program : Program Op α} {state : State}
    (only : program.Only allowed) (inv : discipline.inv state) (holds : assertion state)
    (safe : discipline.Safe task post steps program state) :
    discipline.Safe task (fun value state => post value state ∧ assertion state) steps
      program state := by
  induction steps generalizing program state with
  | zero => trivial
  | succ steps ih =>
      cases program with
      | done value => exact fun now later => ⟨safe now later, stable.later later holds⟩
      | request op next =>
          intro now later
          obtain ⟨guarded, continues⟩ := safe now later
          refine ⟨guarded, fun choice reply after executed => ?_⟩
          have inv' := later.inv inv
          exact ih (only.2 reply) (discipline.preserved inv' guarded executed)
            (kept only.1 inv' guarded executed (stable.later later holds))
            (continues choice reply after executed)
      | loop turn body next => exact ih (Program.Only.unrolled only.1 only.2) inv holds safe

theorem Triple.along {assertion : State → Prop} {allowed : {β : Type} → Op β → Prop}
    {pre : State → Prop} {post : α → State → Prop} {program : Program Op α}
    (triple : discipline.Triple task pre program post)
    (only : program.Only allowed) (stable : discipline.Stable task assertion)
    (kept : ∀ {choice} {β : Type} {op : Op β} {state reply after}, allowed op →
      discipline.inv state →
      discipline.guard task op state → system.exec choice task op state = some (reply, after) →
      assertion state → assertion after) :
    discipline.Triple task (fun state => pre state ∧ assertion state) program
      fun value state => post value state ∧ assertion state :=
  fun steps state inv start => (triple steps state inv start.1).along stable kept only inv start.2

theorem Triple.persist {assertion : State → Prop} {pre : State → Prop} {post : α → State → Prop}
    {program : Program Op α} (triple : discipline.Triple task pre program post)
    (persistent : discipline.Persistent assertion) :
    discipline.Triple task (fun state => pre state ∧ assertion state) program
      fun value state => post value state ∧ assertion state :=
  triple.along program.only_true persistent.stable fun _ inv guarded executed =>
    persistent inv guarded executed

theorem Triple.yields {pre : State → Prop} {post : α → State → Prop} {program : Program Op α}
    (triple : discipline.Triple task pre program post) {leaf : α → Prop}
    (yields : program.Yields leaf) :
    discipline.Triple task pre program fun value state => post value state ∧ leaf value := by
  have safe : ∀ (steps : Nat) (program : Program Op α) (state : State), program.Yields leaf →
      discipline.Safe task post steps program state →
      discipline.Safe task (fun value state => post value state ∧ leaf value) steps
        program state := by
    intro steps
    induction steps with
    | zero => exact fun _ _ _ _ => trivial
    | succ steps ih =>
        intro program state yields safe
        cases program with
        | done value => exact fun now later => ⟨safe now later, yields⟩
        | request op next =>
            intro now later
            obtain ⟨guarded, continues⟩ := safe now later
            refine ⟨guarded, fun choice reply after executed => ?_⟩
            exact ih _ _ (yields reply) (continues choice reply after executed)
        | loop turn body next => exact ih _ _ yields.unrolled safe
  exact fun steps state inv start => safe steps program state yields (triple steps state inv start)

/-! Two disciplines kept at once. -/

/-- Keep to both disciplines. -/
def both (first second : Discipline system) : Discipline system where
  inv state := first.inv state ∧ second.inv state
  guard task _ op state := first.guard task op state ∧ second.guard task op state
  rest task state := first.rest task state ∧ second.rest task state
  preserved := fun inv guarded executed =>
    ⟨first.preserved inv.1 guarded.1 executed, second.preserved inv.2 guarded.2 executed⟩
  rest_stable := fun different inv guarded executed rest =>
    ⟨first.rest_stable different inv.1 guarded.1 executed rest.1,
      second.rest_stable different inv.2 guarded.2 executed rest.2⟩

theorem Later.left {first second : Discipline system} {before after : State}
    (later : (first.both second).Later task before after) : first.Later task before after := by
  refine Relation.ReflTransGen.mono ?_ _ _ later
  rintro before after ⟨inv, other, choice, β, op, reply, different, guarded, executed⟩
  exact ⟨inv.1, other, choice, β, op, reply, different, guarded.1, executed⟩

theorem Later.right {first second : Discipline system} {before after : State}
    (later : (first.both second).Later task before after) : second.Later task before after := by
  refine Relation.ReflTransGen.mono ?_ _ _ later
  rintro before after ⟨inv, other, choice, β, op, reply, different, guarded, executed⟩
  exact ⟨inv.2, other, choice, β, op, reply, different, guarded.2, executed⟩

theorem Safe.both {first second : Discipline system} {post post' : α → State → Prop} {steps : Nat}
    {program : Program Op α} {state : State} (left : first.Safe task post steps program state)
    (right : second.Safe task post' steps program state) :
    (first.both second).Safe task (fun value state => post value state ∧ post' value state) steps
      program state := by
  induction steps generalizing program state with
  | zero => trivial
  | succ steps ih =>
      cases program with
      | done value => exact fun now later => ⟨left now later.left, right now later.right⟩
      | request op next =>
          intro now later
          obtain ⟨guarded, continues⟩ := left now later.left
          obtain ⟨guarded', continues'⟩ := right now later.right
          refine ⟨⟨guarded, guarded'⟩, fun choice reply after executed => ?_⟩
          exact ih (continues choice reply after executed) (continues' choice reply after executed)
      | loop turn body next => exact ih left right

theorem Triple.both {first second : Discipline system} {pre pre' : State → Prop}
    {post post' : α → State → Prop} {program : Program Op α}
    (left : first.Triple task pre program post) (right : second.Triple task pre' program post') :
    (first.both second).Triple task (fun state => pre state ∧ pre' state) program
      fun value state => post value state ∧ post' value state :=
  fun steps state inv start =>
    (left steps state inv.1 start.1).both (right steps state inv.2 start.2)

/-! A part of the state with operations of its own, inside a larger system. -/

section Component

variable {Op' : Type → Type} {Task' State' Choice' Call' : Type}
  {system' : System Op' Task' State' Choice' Call'}

/-- How a task of the outer system works on a part of its state, as a task of the inner one
and with the operations that `permits` names, while `frame` holds. -/
structure Component (inner : Discipline system) (outer : Discipline system') (task : Task)
    (task' : Task') (view : State' → State) (embed : {β : Type} → Op β → Op' β)
    (permits : {β : Type} → Op β → Prop) (frame : State' → Prop) : Prop where
  inv : ∀ {state}, outer.inv state → frame state → inner.inv (view state)
  stable : outer.Stable task' frame
  later : ∀ {before after}, frame before → outer.Interferes task' before after →
    inner.Later task (view before) (view after)
  guard : ∀ {β : Type} {op : Op β} {state}, permits op → outer.inv state → frame state →
    inner.guard task op (view state) → outer.guard task' (embed op) state
  exec : ∀ {choice} {β : Type} {op : Op β} {state reply after}, permits op →
    outer.inv state → frame state → inner.guard task op (view state) →
    system'.exec choice task' (embed op) state = some (reply, after) →
    frame after ∧ ∃ choice, system.exec choice task op (view state) = some (reply, view after)

variable {inner : Discipline system} {outer : Discipline system'} {task' : Task'}
  {view : State' → State}
  {embed : {β : Type} → Op β → Op' β} {permits : {β : Type} → Op β → Prop} {frame : State' → Prop}

theorem Component.later_star (component : Component inner outer task task' view embed permits frame)
    {before after : State'} (holds : frame before) (later : outer.Later task' before after) :
    frame after ∧ inner.Later task (view before) (view after) := by
  induction later with
  | refl => exact ⟨holds, .refl⟩
  | tail _ step ih => exact ⟨component.stable _ _ step ih.1, ih.2.trans (component.later ih.1 step)⟩

theorem Safe.lift (component : Component inner outer task task' view embed permits frame)
    {post : α → State → Prop} {steps : Nat} {program : Program Op α} {state : State'}
    (only : program.Only permits) (inv : outer.inv state) (holds : frame state)
    (safe : inner.Safe task post steps program (view state)) :
    outer.Safe task' (fun value state => frame state ∧ post value (view state)) steps
      (program.lift embed) state := by
  induction steps generalizing program state with
  | zero => trivial
  | succ steps ih =>
      cases program with
      | done value =>
          intro now later
          obtain ⟨holds', later'⟩ := component.later_star holds later
          exact ⟨holds', safe (view now) later'⟩
      | request op next =>
          intro now later
          obtain ⟨holds', later'⟩ := component.later_star holds later
          obtain ⟨guarded, continues⟩ := safe (view now) later'
          have guarded' := component.guard only.1 (later.inv inv) holds' guarded
          refine ⟨guarded', fun choice reply after executed => ?_⟩
          obtain ⟨holds'', choice', executed'⟩ :=
            component.exec only.1 (later.inv inv) holds' guarded executed
          exact ih (only.2 reply) (outer.preserved (later.inv inv) guarded' executed) holds''
            (continues choice' reply (view after) executed')
      | loop turn body next =>
          have unrolled :
            outer.Safe task' (fun value state => frame state ∧ post value (view state))
              steps ((Program.unrolled turn body next).lift embed) state :=
            ih (Program.Only.unrolled only.1 only.2) inv holds safe
          rw [Program.unrolled_lift] at unrolled
          exact unrolled

theorem Triple.lift (component : Component inner outer task task' view embed permits frame)
    {pre : State → Prop} {post : α → State → Prop} {program : Program Op α}
    (only : program.Only permits) (triple : inner.Triple task pre program post) :
    outer.Triple task' (fun state => frame state ∧ pre (view state)) (program.lift embed)
      fun value state => frame state ∧ post value (view state) :=
  fun steps state inv start =>
    (triple steps (view state) (component.inv inv start.1) start.2).lift component only inv start.1

end Component

/-- Every task of the pool keeps to its guards from here on. -/
structure Sound (discipline : Discipline system) (config : Config Op Task State) : Prop where
  inv : discipline.inv config.shared
  safe : ∀ task steps, discipline.Safe task (fun _ => discipline.rest task) steps
    (config.pool task) config.shared

theorem Sound.guard {config : Config Op Task State} (sound : Sound discipline config)
    {task : Task} {β : Type} {op : Op β} {next : β → Program Op Unit}
    (running : config.pool task = .request op next) : discipline.guard task op config.shared := by
  have safe := sound.safe task 1
  rw [running] at safe
  exact (safe config.shared Relation.ReflTransGen.refl).1

theorem Sound.rest {config : Config Op Task State} (sound : Sound discipline config)
    {task : Task} (idle : config.pool task = .done ()) :
    discipline.rest task config.shared := by
  have safe := sound.safe task 1
  rw [idle] at safe
  exact safe config.shared Relation.ReflTransGen.refl

theorem Sound.ofIdle {config : Config Op Task State} (inv : discipline.inv config.shared)
    (idle : ∀ task, config.pool task = .done ())
    (rest : ∀ task, discipline.rest task config.shared) : Sound discipline config := by
  refine ⟨inv, fun task steps => ?_⟩
  have resting : discipline.Triple task (discipline.rest task) (.done ())
      fun _ => discipline.rest task :=
    triple_done stable_rest fun _ _ holds => holds
  rw [idle task]
  exact resting steps config.shared inv (rest task)

variable [DecidableEq Task]

theorem Sound.step
    (calls : ∀ task call, system.mayStart task call = true →
      discipline.Triple task (discipline.rest task) (system.program call)
        fun _ => discipline.rest task)
    {before after : Config Op Task State} (sound : Sound discipline before)
    (step : system.Step before after) : Sound discipline after := by
  cases step with
  | start task call idle allowed =>
      refine ⟨sound.inv, fun other steps => ?_⟩
      by_cases same : other = task
      · subst other
        simp only [Function.update_self]
        exact calls task call allowed steps before.shared sound.inv (sound.rest idle)
      · simp only [ne_eq, same, not_false_eq_true, Function.update_of_ne]
        exact sound.safe other steps
  | unroll task state body next running =>
      refine ⟨sound.inv, fun other steps => ?_⟩
      by_cases same : other = task
      · subst other
        simp only [Function.update_self]
        have safe := sound.safe task (steps + 1)
        rw [running] at safe
        exact safe
      · simp only [ne_eq, same, not_false_eq_true, Function.update_of_ne]
        exact sound.safe other steps
  | exec choice task op next reply shared running executed =>
      have guarded := sound.guard running
      refine ⟨discipline.preserved sound.inv guarded executed, fun other steps => ?_⟩
      by_cases same : other = task
      · subst other
        simp only [Function.update_self]
        have safe := sound.safe task (steps + 1)
        rw [running] at safe
        exact (safe before.shared Relation.ReflTransGen.refl).2 choice reply shared executed
      · simp only [ne_eq, same, not_false_eq_true, Function.update_of_ne]
        refine (sound.safe other steps).later (Relation.ReflTransGen.single ?_)
        exact ⟨sound.inv, task, choice, _, op, reply, Ne.symm same, guarded, executed⟩

/-- Parallel composition: if every call keeps to the discipline, so does every run. -/
theorem Sound.reachable
    (calls : ∀ task call, system.mayStart task call = true →
      discipline.Triple task (discipline.rest task) (system.program call)
        fun _ => discipline.rest task)
    {initial config : Config Op Task State} (sound : Sound discipline initial)
    (run : system.Reachable initial config) : Sound discipline config := by
  induction run with
  | initial => exact sound
  | step _ step ih => exact ih.step calls step

theorem Sound.invariant
    (calls : ∀ task call, system.mayStart task call = true →
      discipline.Triple task (discipline.rest task) (system.program call)
        fun _ => discipline.rest task)
    {admits : Task → ∀ {β : Type}, Op β → State → Bool} {assertion : State → Prop}
    (kept : ∀ {choice task} {β : Type} {op : Op β} {state reply after}, discipline.inv state →
      discipline.guard task op state → admits task op state = true →
      system.exec choice task op state = some (reply, after) → assertion state → assertion after)
    {initial config : Config Op Task State} (sound : Sound discipline initial)
    (start : assertion initial.shared) (run : (system.restrict admits).Reachable initial config) :
    Sound discipline config ∧ assertion config.shared := by
  induction run with
  | initial => exact ⟨sound, start⟩
  | step _ step ih =>
      obtain ⟨sound, holds⟩ := ih
      refine ⟨sound.step calls step.unrestricted, ?_⟩
      cases step with
      | start task call idle allowed => exact holds
      | unroll task state body next running => exact holds
      | exec choice task op next reply shared running executed =>
          simp only [System.restrict] at executed
          split at executed
          · rename_i admitted
            exact kept sound.inv (sound.guard running) admitted executed holds
          · simp at executed

theorem Sound.always
    (calls : ∀ task call, system.mayStart task call = true →
      discipline.Triple task (discipline.rest task) (system.program call)
        fun _ => discipline.rest task)
    {assertion : State → Prop} (persistent : discipline.Persistent assertion)
    {initial config : Config Op Task State} (sound : Sound discipline initial)
    (start : assertion initial.shared) (run : system.Reachable initial config) :
    assertion config.shared := by
  have unrestricted : system.restrict (fun _ _ _ _ => true) = system := rfl
  rw [← unrestricted] at run
  exact (Sound.invariant calls (fun inv guarded _ executed => persistent inv guarded executed)
    sound start run).2

end Discipline

end Interleaving
