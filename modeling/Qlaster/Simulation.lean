import Qlaster.Program

/-!
Forward simulation between systems: every step of the one is matched by a run of the other,
so what the one reaches is related to something the other reaches.
-/

namespace Interleaving

namespace System

variable {Op Op' : Type → Type} {Task Task' State State' Choice Choice' Call Call' : Type}
variable [DecidableEq Task] [DecidableEq Task']

/-- What one step of a task makes of its program and of the state. -/
def Advances (system : System Op Task State Choice Call) (task : Task) :
    Program Op Unit → State → Program Op Unit → State → Prop
  | .done _, _, _, _ => False
  | .request op next, state, later, after =>
      ∃ choice reply, system.exec choice task op state = some (reply, after) ∧ later = next reply
  | .loop turn body next, state, later, after => later = .unrolled turn body next ∧ after = state

theorem Step.advances {system : System Op Task State Choice Call}
    {before after : Config Op Task State} (step : system.Step before after) :
    (∃ task call, before.pool task = .done () ∧ system.mayStart task call = true ∧
      after = { before with pool := Function.update before.pool task (system.program call) }) ∨
    ∃ task later shared, system.Advances task (before.pool task) before.shared later shared ∧
      after = ⟨shared, Function.update before.pool task later⟩ := by
  cases step with
  | start task call idle allowed => exact .inl ⟨task, call, idle, allowed, rfl⟩
  | unroll task state body next running =>
      refine .inr ⟨task, _, _, ?_, rfl⟩
      rw [running]
      exact ⟨rfl, rfl⟩
  | exec choice task op next reply shared running executed =>
      refine .inr ⟨task, _, _, ?_, rfl⟩
      rw [running]
      exact ⟨choice, reply, executed, rfl⟩

theorem update_running {config : Config Op Task State} {task : Task} {program : Program Op Unit}
    (running : config.pool task = program) :
    ⟨config.shared, Function.update config.pool task program⟩ = config := by
  rw [← running, Function.update_eq_self]

/-- The related configurations, and how steps are matched. -/
structure Simulation (concrete : System Op Task State Choice Call)
    (abstract : System Op' Task' State' Choice' Call')
    (related : Config Op Task State → Config Op' Task' State' → Prop) : Prop where
  matched : ∀ {before after other}, related before other → concrete.Step before after →
    ∃ later, abstract.Reachable other later ∧ related after later

theorem Simulation.reachable {concrete : System Op Task State Choice Call}
    {abstract : System Op' Task' State' Choice' Call'}
    {related : Config Op Task State → Config Op' Task' State' → Prop}
    (simulation : Simulation concrete abstract related) {initial config : Config Op Task State}
    {other : Config Op' Task' State'} (start : related initial other)
    (run : concrete.Reachable initial config) :
    ∃ later, abstract.Reachable other later ∧ related config later := by
  induction run with
  | initial => exact ⟨other, .initial, start⟩
  | step _ step ih =>
      obtain ⟨middle, reached, kept⟩ := ih
      obtain ⟨later, onward, kept'⟩ := simulation.matched kept step
      exact ⟨later, reached.trans onward, kept'⟩

end System

end Interleaving
