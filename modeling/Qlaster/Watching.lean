import Qlaster.RelyGuarantee

/-!
Watched runs: beside the state a record is kept of what the operations have done. A watch
can also refuse a step, as a clock does that never goes back.
-/

namespace Interleaving

variable {Op : Type → Type} {Task State Choice Call Record : Type}

/-- What becomes of the record when a task has executed an operation in a state. -/
abbrev Watch (Op : Type → Type) (Task State Choice Record : Type) : Type 1 :=
  Choice → Task → ∀ {β : Type}, Op β → β → State → Record → Option Record

namespace System

def watched (system : System Op Task State Choice Call)
    (watch : Watch Op Task State Choice Record) : System Op Task (State × Record) Choice Call where
  exec choice task _ op both :=
    match system.exec choice task op both.1 with
    | none => none
    | some (reply, after) =>
        match watch choice task op reply both.1 both.2 with
        | none => none
        | some record => some (reply, (after, record))
  program := system.program
  mayStart := system.mayStart

theorem watched_exec {system : System Op Task State Choice Call}
    {watch : Watch Op Task State Choice Record}
    {choice : Choice} {task : Task} {β : Type} {op : Op β} {before after : State × Record}
    {reply : β}
    (executed : (system.watched watch).exec choice task op before = some (reply, after)) :
    system.exec choice task op before.1 = some (reply, after.1) ∧
      watch choice task op reply before.1 before.2 = some after.2 := by
  simp only [watched] at executed
  split at executed
  · simp at executed
  · rename_i found ran
    split at executed
    · simp at executed
    · rename_i record kept
      obtain ⟨rfl, rfl⟩ := Prod.mk.inj (Option.some.inj executed)
      exact ⟨ran, kept⟩

end System

/-- The configuration without its record. -/
def Config.unwatched (config : Config Op Task (State × Record)) : Config Op Task State :=
  ⟨config.shared.1, config.pool⟩

theorem System.Step.unwatched [DecidableEq Task] {system : System Op Task State Choice Call}
    {watch : Watch Op Task State Choice Record} {before after : Config Op Task (State × Record)}
    (step : (system.watched watch).Step before after) :
    system.Step before.unwatched after.unwatched := by
  cases step with
  | start task call idle allowed => exact .start task call idle allowed
  | unroll task state body next running => exact .unroll task state body next running
  | exec choice task op next reply shared running executed =>
      exact .exec choice task op next reply shared.1 running (watched_exec executed).1

/-- A watch that never refuses follows every run. -/
theorem System.Reachable.watched [DecidableEq Task] {system : System Op Task State Choice Call}
    {watch : Watch Op Task State Choice Record}
    (total : ∀ choice task {β : Type} (op : Op β) reply state record,
      ∃ later, watch choice task op reply state record = some later)
    {admits : Task → ∀ {β : Type}, Op β → State → Bool} {initial config : Config Op Task State}
    (record : Record) (run : (system.restrict admits).Reachable initial config) :
    ∃ later, ((system.watched watch).restrict fun task _ op both => admits task op both.1).Reachable
      ⟨(initial.shared, record), initial.pool⟩ ⟨(config.shared, later), config.pool⟩ := by
  induction run with
  | initial => exact ⟨record, .initial⟩
  | @step before _ _ step ih =>
      obtain ⟨kept, watched⟩ := ih
      cases step with
      | start task call idle allowed => exact ⟨kept, watched.step (.start task call idle allowed)⟩
      | unroll task state body next running =>
          exact ⟨kept, watched.step (.unroll task state body next running)⟩
      | exec choice task op next reply shared running executed =>
          obtain ⟨later, recorded⟩ := total choice task op reply before.shared kept
          refine ⟨later, watched.step (.exec choice task op next reply (shared, later) running ?_)⟩
          simp only [System.restrict] at executed ⊢
          split at executed
          · rename_i admitted
            simp only [admitted, if_true, System.watched, executed, recorded]
          · simp at executed

namespace Discipline

variable [DecidableEq Task] {system : System Op Task State Choice Call}
  {discipline : Discipline system}

/-- An invariant of state and record, along the runs whose steps are all admitted. -/
theorem Sound.watched
    (calls : ∀ task call, system.mayStart task call = true →
      discipline.Triple task (discipline.rest task) (system.program call)
        fun _ => discipline.rest task)
    {watch : Watch Op Task State Choice Record}
    {admits : Task → ∀ {β : Type}, Op β → State × Record → Bool} {assertion : State × Record → Prop}
    (kept : ∀ {choice task} {β : Type} {op : Op β} {before after : State × Record} {reply : β},
      discipline.inv before.1 → discipline.guard task op before.1 → admits task op before = true →
      system.exec choice task op before.1 = some (reply, after.1) →
      watch choice task op reply before.1 before.2 = some after.2 → assertion before →
        assertion after)
    {initial config : Config Op Task (State × Record)} (sound : Sound discipline initial.unwatched)
    (start : assertion initial.shared)
    (run : ((system.watched watch).restrict admits).Reachable initial config) :
    Sound discipline config.unwatched ∧ assertion config.shared := by
  induction run with
  | initial => exact ⟨sound, start⟩
  | step _ step ih =>
      obtain ⟨sound, holds⟩ := ih
      refine ⟨sound.step calls step.unrestricted.unwatched, ?_⟩
      cases step with
      | start task call idle allowed => exact holds
      | unroll task state body next running => exact holds
      | exec choice task op next reply shared running executed =>
          simp only [System.restrict] at executed
          split at executed
          · rename_i admitted
            obtain ⟨ran, recorded⟩ := System.watched_exec executed
            exact kept sound.inv (sound.guard running) admitted ran recorded holds
          · simp at executed

end Discipline

end Interleaving
