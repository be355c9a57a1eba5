import Qlaster.Program

/-!
Total correctness of a program that one task runs while nobody else steps. The choices of
the environment are read off a stream, so the run is determined; `Alone` says that it
comes to an end, and where.
-/

namespace Interleaving

namespace System

variable {Op : Type → Type} {Task State Choice Call : Type}
variable {α β γ σ : Type}

/-- From the `tick`-th choice on, the task runs the program to its end, and `post` holds there. -/
inductive Alone (system : System Op Task State Choice Call) (task : Task) (choices : Nat → Choice) :
    {α : Type} → Program Op α → Nat → State → (α → Nat → State → Prop) → Prop
  | done {α : Type} {value : α} {tick : Nat} {state : State} {post : α → Nat → State → Prop}
      (holds : post value tick state) : Alone system task choices (.done value) tick state post
  | request {α β : Type} {op : Op β} {next : β → Program Op α} {tick : Nat} {state after : State}
      {post : α → Nat → State → Prop} {reply : β}
      (executed : system.exec (choices tick) task op state = some (reply, after))
      (rest : Alone system task choices (next reply) (tick + 1) after post) :
      Alone system task choices (.request op next) tick state post
  | loop {α β σ : Type} {turn : σ} {body : σ → Program Op (Sum σ β)} {next : β → Program Op α}
    {tick : Nat}
      {state : State} {post : α → Nat → State → Prop}
      (rest : Alone system task choices (.unrolled turn body next) (tick + 1) state post) :
      Alone system task choices (.loop turn body next) tick state post

variable {system : System Op Task State Choice Call} {task : Task} {choices : Nat → Choice}
  {tick : Nat} {state : State}

theorem unrolled_bind (turn : σ) (body : σ → Program Op (Sum σ β)) (next : β → Program Op α)
    (rest : α → Program Op γ) : (Program.unrolled turn body next).bind rest =
      Program.unrolled turn body fun result => (next result).bind rest := by
  unfold Program.unrolled
  rw [Program.bind_assoc]
  congr 1
  funext turn
  cases turn <;> rfl

theorem Alone.bind {program : Program Op α} {rest : α → Program Op β} {mid : α → Nat → State → Prop}
    {post : β → Nat → State → Prop} (first : system.Alone task choices program tick state mid)
    (second : ∀ value tick state, mid value tick state →
      system.Alone task choices (rest value) tick state post) :
    system.Alone task choices (program.bind rest) tick state post := by
  induction first with
  | done holds => exact second _ _ _ holds
  | request executed _ ih => exact .request executed (ih second)
  | loop _ ih =>
      refine .loop ?_
      rw [← unrolled_bind]
      exact ih second

theorem Alone.mono {program : Program Op α} {post post' : α → Nat → State → Prop}
    (alone : system.Alone task choices program tick state post)
    (weaker : ∀ value tick state, post value tick state → post' value tick state) :
    system.Alone task choices program tick state post' := by
  induction alone with
  | done holds => exact .done (weaker _ _ _ holds)
  | request executed _ ih => exact .request executed (ih weaker)
  | loop _ ih => exact .loop (ih weaker)

theorem Alone.along {program : Program Op α} {post : α → Nat → State → Prop}
    {allowed : {β : Type} → Op β → Prop} {assertion : State → Prop}
    (alone : system.Alone task choices program tick state post) (only : program.Only allowed)
    (kept : ∀ {choice} {β : Type} {op : Op β} {state reply after}, allowed op →
      system.exec choice task op state = some (reply, after) → assertion state → assertion after)
    (holds : assertion state) : system.Alone task choices program tick state
      fun value later after => post value later after ∧ assertion after := by
  induction alone with
  | done ended => exact .done ⟨ended, holds⟩
  | request executed _ ih => exact .request executed (ih (only.2 _) (kept only.1 executed holds))
  | loop _ ih => exact .loop (ih (Program.Only.unrolled only.1 only.2) holds)

/-- A loop each of whose turns that is not the last comes lower in a well-founded order. -/
theorem Alone.iterateRanked {ρ : Type} {lower : ρ → ρ → Prop} (founded : WellFounded lower)
    (rank : σ → Nat → State → ρ) (assertion : σ → State → Prop) {body : σ → Program Op (Sum σ β)}
    {post : β → Nat → State → Prop}
    (again : ∀ turn tick state, assertion turn state → system.Alone task choices (body turn)
      (tick + 1) state fun outcome later after => match outcome with
        | .inl next => assertion next after ∧ lower (rank next later after) (rank turn tick state)
        | .inr result => post result later after)
    {turn : σ} (start : assertion turn state) :
    system.Alone task choices (.iterate turn body) tick state post := by
  induction ranked : rank turn tick state using founded.induction generalizing turn tick state with
  | _ height ih =>
      refine .loop ((again turn tick state start).bind ?_)
      intro outcome later after holds
      cases outcome with
      | inl next => exact ih _ (ranked ▸ holds.2) holds.1 rfl
      | inr result => exact .done holds

theorem Alone.iterate (bound : Nat) (assertion : State → Prop)
    {body : Unit → Program Op (Sum Unit β)} {post : β → Nat → State → Prop}
    (again : ∀ tick state, assertion state → system.Alone task choices (body ()) tick state
      fun outcome later after => match outcome with
        | .inl _ => tick < bound ∧ tick ≤ later ∧ assertion after
        | .inr result => post result later after)
    (start : assertion state) : system.Alone task choices (.iterate () body) tick state post := by
  refine Alone.iterateRanked Nat.lt_wfRel.wf (fun _ tick _ => bound - tick)
    (fun _ => assertion) ?_ start
  intro _ tick state holds
  refine (again (tick + 1) state holds).mono ?_
  intro outcome later after ended
  cases outcome with
  | inl _ =>
      obtain ⟨before, onward, asserted⟩ := ended
      refine ⟨asserted, ?_⟩
      change bound - later < bound - tick
      omega
  | inr result => exact ended

theorem Alone.scheduled [DecidableEq Task] {program : Program Op α} {post : α → Nat → State → Prop}
    (alone : system.Alone task choices program tick state post) (pool : Task → Program Op Unit)
    (rest : α → Program Op Unit) : ∃ value steps after, post value (tick + steps) after ∧
      system.schedule ⟨state, Function.update pool task (program.bind rest)⟩
        ((List.range' tick steps).map fun n => .step task (choices n)) =
        some ⟨after, Function.update pool task (rest value)⟩ := by
  induction alone with
  | done holds => exact ⟨_, 0, _, holds, rfl⟩
  | request executed _ ih =>
      obtain ⟨value, steps, after, holds, ran⟩ := ih
      refine ⟨value, steps + 1, after, by rwa [Nat.add_right_comm, Nat.add_assoc] at holds, ?_⟩
      rw [List.range'_succ, List.map_cons, schedule]
      simp only [command, Program.bind, Function.update_self, executed, Option.bind_some,
        Function.update_idem]
      exact ran
  | loop _ ih =>
      obtain ⟨value, steps, after, holds, ran⟩ := ih
      refine ⟨value, steps + 1, after, by rwa [Nat.add_right_comm, Nat.add_assoc] at holds, ?_⟩
      rw [List.range'_succ, List.map_cons, schedule]
      simp only [command, Program.bind, Function.update_self, Option.bind_some,
        Function.update_idem]
      rwa [unrolled_bind] at ran

theorem Alone.reachable [DecidableEq Task] {program : Program Op α} {post : α → Nat → State → Prop}
    {config : Config Op Task State} {rest : α → Program Op Unit}
    (alone : system.Alone task choices program tick config.shared post)
    (running : config.pool task = program.bind rest) : ∃ value later after, post value later after ∧
      system.Reachable config ⟨after, Function.update config.pool task (rest value)⟩ := by
  obtain ⟨value, steps, after, holds, ran⟩ := alone.scheduled config.pool rest
  rw [← running, Function.update_eq_self] at ran
  exact ⟨value, tick + steps, after, holds, schedule_reachable ran⟩

end System

end Interleaving
