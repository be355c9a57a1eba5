import Qlaster.Sequential

/-!
Where a task can stand in its program, and how far it gets from there while nobody else steps. A
task of a reachable configuration is idle or at a residual of some call; `Until` is a run of one
task that need not come to the end of the program.
-/

namespace Interleaving

variable {Op Op' : Type → Type} {α β γ σ : Type}

namespace Program

/-- What is left of a program after some of its steps. -/
inductive Residual (program : Program Op α) : Program Op α → Prop
  | refl : Residual program program
  | answered {β : Type} {op : Op β} {next : β → Program Op α} (reply : β)
      (residual : Residual program (.request op next)) : Residual program (next reply)
  | unrolled {σ β : Type} {turn : σ} {body : σ → Program Op (Sum σ β)} {next : β → Program Op α}
      (residual : Residual program (.loop turn body next)) :
      Residual program (unrolled turn body next)

namespace Residual

theorem only {allowed : {β : Type} → Op β → Prop} {program rest : Program Op α}
    (residual : Residual program rest) (only : program.Only allowed) : rest.Only allowed := by
  induction residual with
  | refl => exact only
  | answered reply _ ih => exact ih.2 reply
  | unrolled _ ih => exact .unrolled ih.1 ih.2

theorem ofDone {value : α} {final : Program Op α} (residual : Residual (.done value) final) :
    final = .done value := by
  induction residual with
  | refl => rfl
  | answered reply _ ih => cases ih
  | unrolled _ ih => cases ih

theorem ofPerform {op : Op β} {final : Program Op β} (residual : Residual (.perform op) final) :
    final = .perform op ∨ ∃ reply, final = .done reply := by
  induction residual with
  | refl => exact .inl rfl
  | answered reply _ ih =>
      rcases ih with shape | ⟨_, shape⟩
      · cases shape
        exact .inr ⟨reply, rfl⟩
      · cases shape
  | unrolled _ ih => rcases ih with shape | ⟨_, shape⟩ <;> cases shape

theorem ofBind {program : Program Op α} {rest : α → Program Op γ} {final : Program Op γ}
    (residual : Residual (program.bind rest) final) :
    (∃ within, Residual program within ∧ final = within.bind rest) ∨
      ∃ value, Residual (rest value) final := by
  induction residual with
  | refl => exact .inl ⟨program, .refl, rfl⟩
  | answered reply _ ih =>
      rcases ih with ⟨within, inner, shape⟩ | ⟨value, inner⟩
      · cases within with
        | done value =>
            refine .inr ⟨value, ?_⟩
            rw [show rest value = _ from shape.symm]
            exact .answered reply .refl
        | request op next =>
            cases shape
            exact .inl ⟨next reply, .answered reply inner, rfl⟩
        | loop turn body next => cases shape
      · exact .inr ⟨value, .answered reply inner⟩
  | unrolled _ ih =>
      rcases ih with ⟨within, inner, shape⟩ | ⟨value, inner⟩
      · cases within with
        | done value =>
            refine .inr ⟨value, ?_⟩
            rw [show rest value = _ from shape.symm]
            exact .unrolled .refl
        | request op next => cases shape
        | loop turn body next =>
            cases shape
            exact .inl ⟨_, .unrolled inner, (System.unrolled_bind _ _ _ rest).symm⟩
      · exact .inr ⟨value, .unrolled inner⟩

theorem past {hears : {β : Type} → Op β → Prop} {program : Program Op α} {rest : α → Program Op γ}
    {op : Op β} {next : β → Program Op γ} (only : program.Only fun op => ¬ hears op)
    (residual : Residual (program.bind rest) (.request op next)) (heard : hears op) :
    ∃ value, Residual (rest value) (.request op next) := by
  rcases residual.ofBind with ⟨within, inner, shape⟩ | found
  · cases within with
    | done value =>
        refine ⟨value, ?_⟩
        rw [show rest value = _ from shape.symm]
        exact .refl
    | request op' next' =>
        cases shape
        exact absurd heard (inner.only only).1
    | loop turn body following => cases shape
  · exact found

theorem ofLoop {turn : σ} {body : σ → Program Op (Sum σ β)} {next : β → Program Op α}
    {final : Program Op α} (residual : Residual (.loop turn body next) final) :
    (∃ again, final = .loop again body next) ∨
      (∃ again within, Residual (body again) within ∧ final = within.bind fun outcome =>
        match outcome with
        | .inl again => .loop again body next
        | .inr result => next result) ∨
      ∃ result, Residual (next result) final := by
  induction residual with
  | refl => exact .inl ⟨turn, rfl⟩
  | answered reply _ ih =>
      rcases ih with ⟨again, shape⟩ | ⟨again, within, inner, shape⟩ | ⟨result, inner⟩
      · cases shape
      · cases within with
        | done outcome =>
            cases outcome with
            | inl again => cases shape
            | inr result =>
                refine .inr (.inr ⟨result, ?_⟩)
                rw [show next result = _ from shape.symm]
                exact .answered reply .refl
        | request op following =>
            cases shape
            exact .inr (.inl ⟨again, following reply, .answered reply inner, rfl⟩)
        | loop inside turns following => cases shape
      · exact .inr (.inr ⟨result, .answered reply inner⟩)
  | unrolled _ ih =>
      rcases ih with ⟨again, shape⟩ | ⟨again, within, inner, shape⟩ | ⟨result, inner⟩
      · cases shape
        exact .inr (.inl ⟨again, body again, .refl, rfl⟩)
      · cases within with
        | done outcome =>
            cases outcome with
            | inl again =>
                cases shape
                exact .inr (.inl ⟨again, body again, .refl, rfl⟩)
            | inr result =>
                refine .inr (.inr ⟨result, ?_⟩)
                rw [show next result = _ from shape.symm]
                exact .unrolled .refl
        | request op following => cases shape
        | loop inside turns following =>
            cases shape
            exact .inr (.inl ⟨again, _, .unrolled inner, (System.unrolled_bind _ _ _ _).symm⟩)
      · exact .inr (.inr ⟨result, .unrolled inner⟩)

theorem ofLift {embed : {β : Type} → Op β → Op' β} {program : Program Op α} {final : Program Op' α}
    (residual : Residual (program.lift embed) final) :
    ∃ within, Residual program within ∧ final = within.lift embed := by
  induction residual with
  | refl => exact ⟨program, .refl, rfl⟩
  | answered reply _ ih =>
      obtain ⟨within, inner, shape⟩ := ih
      cases within with
      | done value => cases shape
      | request op next =>
          cases shape
          exact ⟨next reply, .answered reply inner, rfl⟩
      | loop turn body next => cases shape
  | unrolled _ ih =>
      obtain ⟨within, inner, shape⟩ := ih
      cases within with
      | done value => cases shape
      | request op next => cases shape
      | loop turn body next =>
          cases shape
          exact ⟨_, .unrolled inner, (unrolled_lift embed _ _ _).symm⟩

end Residual

end Program

namespace System

variable {Task State Choice Call : Type} {system : System Op Task State Choice Call}

theorem Reachable.residual [DecidableEq Task] {initial config : Config Op Task State}
    (run : system.Reachable initial config) (idle : ∀ task, initial.pool task = .done ())
    (task : Task) : config.pool task = .done () ∨
      ∃ call, system.mayStart task call = true ∧
        (system.program call).Residual (config.pool task) := by
  induction run with
  | initial => exact .inl (idle task)
  | @step before after _ step ih =>
      cases step with
      | start worker call _ allowed =>
          by_cases same : task = worker
          · subst same
            simp only [Function.update_self]
            exact .inr ⟨call, allowed, .refl⟩
          · simp only [Function.update_of_ne same]
            exact ih
      | unroll worker turn body next running =>
          by_cases same : task = worker
          · subst same
            simp only [Function.update_self]
            rcases ih with ended | ⟨call, allowed, residual⟩
            · cases running.symm.trans ended
            · exact .inr ⟨call, allowed, .unrolled (running ▸ residual)⟩
          · simp only [Function.update_of_ne same]
            exact ih
      | exec choice worker op next reply shared running _ =>
          by_cases same : task = worker
          · subst same
            simp only [Function.update_self]
            rcases ih with ended | ⟨call, allowed, residual⟩
            · cases running.symm.trans ended
            · exact .inr ⟨call, allowed, .answered reply (running ▸ residual)⟩
          · simp only [Function.update_of_ne same]
            exact ih

/-- From the `tick`-th choice on, the task runs the program until `goal` holds of what is left of
it. -/
inductive Until (system : System Op Task State Choice Call) (task : Task) (choices : Nat → Choice)
    (goal : Program Op α → Nat → State → Prop) : Program Op α → Nat → State → Prop
  | here {program : Program Op α} {tick : Nat} {state : State} (reached : goal program tick state) :
      Until system task choices goal program tick state
  | request {β : Type} {op : Op β} {next : β → Program Op α} {tick : Nat}
    {state after : State} {reply : β}
      (executed : system.exec (choices tick) task op state = some (reply, after))
      (rest : Until system task choices goal (next reply) (tick + 1) after) :
      Until system task choices goal (.request op next) tick state
  | loop {σ β : Type} {turn : σ} {body : σ → Program Op (Sum σ β)} {next : β → Program Op α}
    {tick : Nat}
      {state : State}
      (rest : Until system task choices goal (.unrolled turn body next) (tick + 1) state) :
      Until system task choices goal (.loop turn body next) tick state

variable {task : Task} {choices : Nat → Choice} {goal : Program Op α → Nat → State → Prop}
  {tick : Nat} {state : State}

theorem Alone.until {program : Program Op γ} {rest : γ → Program Op α}
    {mid : γ → Nat → State → Prop} (alone : system.Alone task choices program tick state mid)
    (continues : ∀ value later after, mid value later after →
      system.Until task choices goal (rest value) later after) :
    system.Until task choices goal (program.bind rest) tick state := by
  induction alone with
  | done holds => exact continues _ _ _ holds
  | request executed _ ih => exact .request executed (ih continues)
  | loop _ ih =>
      refine .loop ?_
      rw [← unrolled_bind]
      exact ih continues

theorem Alone.both {program : Program Op γ} {post post' : γ → Nat → State → Prop}
    (alone : system.Alone task choices program tick state post)
    (again : system.Alone task choices program tick state post') :
    system.Alone task choices program tick state
      fun value later after => post value later after ∧ post' value later after := by
  induction alone with
  | done holds =>
      cases again with
      | done holds' => exact .done ⟨holds, holds'⟩
  | request executed _ ih =>
      cases again with
      | request executed' rest =>
          obtain ⟨rfl, rfl⟩ := Prod.mk.inj (Option.some.inj (executed'.symm.trans executed))
          exact .request executed (ih rest)
  | loop _ ih =>
      cases again with
      | loop rest => exact .loop (ih rest)

theorem Until.mono {program : Program Op α} {goal' : Program Op α → Nat → State → Prop}
    (reaches : system.Until task choices goal program tick state)
    (weaker : ∀ rest later after, goal rest later after → goal' rest later after) :
    system.Until task choices goal' program tick state := by
  induction reaches with
  | here reached => exact .here (weaker _ _ _ reached)
  | request executed _ ih => exact .request executed ih
  | loop _ ih => exact .loop ih

theorem Until.scheduled [DecidableEq Task] {goal : Program Op Unit → Nat → State → Prop}
    {program : Program Op Unit}
    (reaches : system.Until task choices goal program tick state) (pool : Task → Program Op Unit) :
    ∃ steps rest after, goal rest (tick + steps) after ∧
      system.schedule ⟨state, Function.update pool task program⟩
        ((List.range' tick steps).map fun n => .step task (choices n)) = some
          ⟨after, Function.update pool task rest⟩ := by
  induction reaches with
  | here reached => exact ⟨0, _, _, reached, rfl⟩
  | request executed _ ih =>
      obtain ⟨steps, rest, after, reached, ran⟩ := ih
      refine ⟨steps + 1, rest, after, by rwa [Nat.add_right_comm, Nat.add_assoc] at reached, ?_⟩
      rw [List.range'_succ, List.map_cons, schedule]
      simp only [command, Function.update_self, executed, Option.bind_some, Function.update_idem]
      exact ran
  | loop _ ih =>
      obtain ⟨steps, rest, after, reached, ran⟩ := ih
      refine ⟨steps + 1, rest, after, by rwa [Nat.add_right_comm, Nat.add_assoc] at reached, ?_⟩
      rw [List.range'_succ, List.map_cons, schedule]
      simp only [command, Function.update_self, Option.bind_some, Function.update_idem]
      exact ran

theorem schedule_append [DecidableEq Task] {config mid : Config Op Task State}
    {first second : List (Command Task Choice Call)}
    (ran : system.schedule config first = some mid) :
    system.schedule config (first ++ second) = system.schedule mid second := by
  induction first generalizing config with
  | nil =>
      cases ran
      rfl
  | cons command rest ih =>
      simp only [schedule, Option.bind_eq_some_iff] at ran
      obtain ⟨next, stepped, ran⟩ := ran
      simp only [List.cons_append, schedule, stepped, Option.bind_some]
      exact ih ran

/-- Steps of these tasks alone, each under the choice of its tick, lead from the one configuration
to the other. -/
inductive Leads [DecidableEq Task] (system : System Op Task State Choice Call) (tasks : List Task)
    (choices : Nat → Choice) (tick : Nat) (config : Config Op Task State) :
    Nat → Config Op Task State → Prop
  | refl : Leads system tasks choices tick config tick config
  | start {later : Nat} {mid : Config Op Task State} {task : Task} {call : Call}
      (earlier : Leads system tasks choices tick config later mid) (among : task ∈ tasks)
      (idle : mid.pool task = .done ()) (may : system.mayStart task call = true) :
      Leads system tasks choices tick config later
        ⟨mid.shared, Function.update mid.pool task (system.program call)⟩
  | step {later : Nat} {mid final : Config Op Task State} {task : Task}
      (earlier : Leads system tasks choices tick config later mid) (among : task ∈ tasks)
      (stepped : system.command mid (.step task (choices later)) = some final) :
      Leads system tasks choices tick config (later + 1) final

section
variable [DecidableEq Task] {tasks : List Task} {config mid final : Config Op Task State}
  {between later : Nat}

theorem Leads.started (earlier : system.Leads tasks choices tick config later mid)
    (among : task ∈ tasks) {call : Call}
    (ran : system.command mid (.start task call) = some final) :
    system.Leads tasks choices tick config later final := by
  simp only [command] at ran
  split at ran
  · rename_i idle
    split at ran
    · rename_i may
      obtain rfl := Option.some.inj ran
      exact .start earlier among idle may
    · cases ran
  · cases ran

theorem Leads.trans (first : system.Leads tasks choices tick config between mid)
    (second : system.Leads tasks choices between mid later final) :
    system.Leads tasks choices tick config later final := by
  induction second with
  | refl => exact first
  | start _ among idle may ih => exact .start ih among idle may
  | step _ among stepped ih => exact .step ih among stepped

theorem Leads.mono {wider : List Task} (leads : system.Leads tasks choices tick config later final)
    (within : ∀ task ∈ tasks, task ∈ wider) :
    system.Leads wider choices tick config later final := by
  induction leads with
  | refl => exact .refl
  | start _ among idle may ih => exact .start ih (within _ among) idle may
  | step _ among stepped ih => exact .step ih (within _ among) stepped

theorem Leads.reachable (leads : system.Leads tasks choices tick config later final) :
    system.Reachable config final := by
  induction leads with
  | refl => exact .initial
  | start _ _ idle may ih => exact ih.step (.start _ _ idle may)
  | step _ _ stepped ih => exact ih.step (command_step stepped)

theorem Leads.outside (leads : system.Leads tasks choices tick config later final) {task : Task}
    (outside : task ∉ tasks) : final.pool task = config.pool task := by
  induction leads with
  | refl => rfl
  | @start _ _ worker _ _ among _ _ ih =>
      have apart : task ≠ worker := fun same => outside (same ▸ among)
      exact (Function.update_of_ne apart _ _).trans ih
  | step _ among stepped ih =>
      refine (command_pool stepped fun same => outside ?_).trans ih
      rw [same]
      exact among

theorem Leads.ofSteps (among : task ∈ tasks) {steps : Nat} (ran : system.schedule config
      ((List.range' tick steps).map fun n => .step task (choices n)) = some final) :
    system.Leads tasks choices tick config (tick + steps) final := by
  induction steps generalizing tick config with
  | zero =>
      obtain rfl := Option.some.inj ran
      exact .refl
  | succ steps ih =>
      rw [List.range'_succ, List.map_cons] at ran
      obtain ⟨next, stepped, ran⟩ := Option.bind_eq_some_iff.mp ran
      rw [← Nat.add_assoc, Nat.add_right_comm]
      exact (Leads.step .refl among stepped).trans (ih ran)

theorem Until.leads {goal : Program Op Unit → Nat → State → Prop} {program : Program Op Unit}
    (reaches : system.Until task choices goal program tick config.shared)
    (running : config.pool task = program)
    (among : task ∈ tasks) : ∃ later final, goal (final.pool task) later final.shared ∧
      (∀ other ≠ task, final.pool other = config.pool other) ∧
      system.Leads tasks choices tick config later final := by
  obtain ⟨steps, rest, after, reached, ran⟩ := reaches.scheduled config.pool
  rw [← running, Function.update_eq_self] at ran
  refine ⟨tick + steps, ⟨after, Function.update config.pool task rest⟩, ?_, ?_, .ofSteps among ran⟩
  · simpa only [Function.update_self] using reached
  · exact fun other different => Function.update_of_ne different _ _

theorem Until.started {goal : Program Op Unit → Nat → State → Prop} {call : Call}
    (reaches : system.Until task choices goal (system.program call) tick config.shared)
    (idle : config.pool task = .done ()) (may : system.mayStart task call = true)
    (among : task ∈ tasks) : ∃ later final, goal (final.pool task) later final.shared ∧
      (∀ other ≠ task, final.pool other = config.pool other) ∧
      system.Leads tasks choices tick config later final := by
  let begun : Config Op Task State :=
    ⟨config.shared, Function.update config.pool task (system.program call)⟩
  have begins : system.Leads tasks choices tick config tick begun := .start .refl among idle may
  have running : begun.pool task = system.program call := Function.update_self ..
  have reaches : system.Until task choices goal (system.program call) tick begun.shared := reaches
  obtain ⟨later, final, reached, others, leads⟩ := reaches.leads running among
  refine ⟨later, final, reached, fun other different => ?_, begins.trans leads⟩
  rw [others other different]
  exact Function.update_of_ne different _ _

end

/-! A part of the state with operations of its own. -/

section
variable {State' Task' Choice' Call' : Type} {outer : System Op' Task' State' Choice' Call'}
  {task' : Task'} {choices' : Nat → Choice'}

theorem Until.lift {goal : Program Op α → Nat → State → Prop} (embed : {β : Type} → Op β → Op' β)
    (view : State' → State) (frame : State' → State' → Prop)
    (transitive : ∀ {first second third}, frame first second → frame second third →
      frame first third)
    {start : State'}
    (follows : ∀ {β : Type} {op : Op β} {tick} {now : State'} {reply after}, frame start now →
      system.exec (choices tick) task op (view now) = some (reply, after) →
      ∃ later, outer.exec (choices' tick) task' (embed op) now = some (reply, later) ∧
        view later = after ∧ frame now later)
    {program : Program Op α} {now : State'} (kept : frame start now)
    (reaches : system.Until task choices goal program tick (view now)) :
    outer.Until task' choices' (fun rest later after => ∃ within, rest = within.lift embed ∧
      goal within later (view after) ∧ frame start after) (program.lift embed) tick now := by
  generalize seen : view now = state at reaches
  induction reaches generalizing now with
  | here reached =>
      subst seen
      exact .here ⟨_, rfl, reached, kept⟩
  | request executed _ ih =>
      subst seen
      obtain ⟨later, ran, same, framed⟩ := follows kept executed
      exact .request ran (ih (transitive kept framed) same)
  | loop _ ih =>
      refine .loop ?_
      rw [← Program.unrolled_lift]
      exact ih kept seen

theorem Alone.lift {post : α → Nat → State → Prop} (embed : {β : Type} → Op β → Op' β)
    (view : State' → State) (frame : State' → State' → Prop)
    (transitive : ∀ {first second third}, frame first second → frame second third →
      frame first third)
    {start : State'}
    (follows : ∀ {β : Type} {op : Op β} {tick} {now : State'} {reply after}, frame start now →
      system.exec (choices tick) task op (view now) = some (reply, after) →
      ∃ later, outer.exec (choices' tick) task' (embed op) now = some (reply, later) ∧
        view later = after ∧ frame now later)
    {program : Program Op α} {now : State'} (kept : frame start now)
    (alone : system.Alone task choices program tick (view now) post) :
    outer.Alone task' choices' (program.lift embed) tick now
      fun value later after => post value later (view after) ∧ frame start after := by
  generalize seen : view now = state at alone
  induction alone generalizing now with
  | done holds =>
      subst seen
      exact .done ⟨holds, kept⟩
  | request executed _ ih =>
      subst seen
      obtain ⟨later, ran, same, framed⟩ := follows kept executed
      exact .request ran (ih (transitive kept framed) same)
  | loop _ ih =>
      refine .loop ?_
      rw [← Program.unrolled_lift]
      exact ih kept seen

end

end System

end Interleaving
