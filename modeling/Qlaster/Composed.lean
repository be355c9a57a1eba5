import Qlaster.RelyGuarantee

/-!
Programs put together from blocks. What is shown of every block, and survives sequencing and
loops, holds of every program made of them.
-/

namespace Interleaving

variable {Op : Type → Type} {α : Type}

inductive Composed (Block : (α : Type) → Program Op α → Prop) : {α : Type} → Program Op α → Prop
  | done {α : Type} (value : α) : Composed Block (.done value)
  | block {α : Type} {program : Program Op α} (holds : Block α program) : Composed Block program
  | bind {α β : Type} {program : Program Op α} {rest : α → Program Op β}
    (first : Composed Block program)
      (second : ∀ value, Composed Block (rest value)) : Composed Block (program.bind rest)
  | iterate {β σ : Type} {turn : σ} {body : σ → Program Op (Sum σ β)}
    (turns : ∀ turn, Composed Block (body turn)) :
      Composed Block (.iterate turn body)

namespace Composed

variable {Block Coarser : (α : Type) → Program Op α → Prop} {program : Program Op α}

theorem mono (each : ∀ {α : Type} {program : Program Op α}, Block α program →
    Composed Coarser program) (composed : Composed Block program) : Composed Coarser program := by
  induction composed with
  | done value => exact .done value
  | block holds => exact each holds
  | bind _ _ ihFirst ihSecond => exact .bind ihFirst ihSecond
  | iterate _ ih => exact .iterate ih

theorem only {allowed : {β : Type} → Op β → Prop}
    (each : ∀ {α : Type} {program : Program Op α}, Block α program → program.Only allowed)
    (composed : Composed Block program) : program.Only allowed := by
  induction composed with
  | done value => trivial
  | block holds => exact each holds
  | bind _ _ ihFirst ihSecond => exact ihFirst.bind ihSecond
  | iterate _ ih => exact .iterate ih

theorem triple {Task State Choice Call : Type} {system : System Op Task State Choice Call}
    {discipline : Discipline system} {task : Task} {assertion : State → Prop}
    (stable : discipline.Stable task assertion)
    (each : ∀ {α : Type} {program : Program Op α}, Block α program →
      discipline.Triple task assertion program fun _ => assertion)
    (composed : Composed Block program) : discipline.Triple task assertion program fun _ =>
      assertion := by
  induction composed with
  | done value => exact Discipline.triple_done stable fun _ _ holds => holds
  | block holds => exact each holds
  | bind _ _ ihFirst ihSecond => exact Discipline.triple_bind ihFirst ihSecond
  | @iterate β σ turn body _ ih =>
      refine Discipline.triple_iterate (fun _ => assertion) (fun _ => stable) (fun again => ?_) turn
      refine Discipline.triple_weaken (ih again) (fun _ _ holds => holds) fun outcome _ _ holds =>
        ?_
      cases outcome with
      | inl next => exact holds
      | inr result => exact holds

end Composed

end Interleaving
