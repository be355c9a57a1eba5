import Mathlib.Algebra.GroupWithZero.Nat
import Qlaster.MetricsCore
import Qlaster.Accumulator
import Qlaster.Watching

/-!
What becomes of the samples. Each of the four words is a cell that gathers; beside a run an
account of each cell is kept, and for each task how far it has come in its call.
-/

namespace Qlaster

open Interleaving Accumulator

/-! The four cells. -/

namespace FetchKind

theorem apply_comm (kind : FetchKind) (left right : UInt64) :
    kind.apply left right = kind.apply right left := by
  cases kind with
  | add => exact UInt64.add_comm left right
  | min =>
      rw [← UInt64.toNat_inj]
      simp only [apply, UInt64.toNat_min]
      omega
  | max =>
      rw [← UInt64.toNat_inj]
      simp only [apply, UInt64.toNat_max]
      omega

theorem apply_assoc (kind : FetchKind) (first second third : UInt64) :
    kind.apply (kind.apply first second) third = kind.apply first (kind.apply second third) := by
  cases kind with
  | add => exact UInt64.add_assoc first second third
  | min =>
      rw [← UInt64.toNat_inj]
      simp only [apply, UInt64.toNat_min]
      omega
  | max =>
      rw [← UInt64.toNat_inj]
      simp only [apply, UInt64.toNat_max]
      omega

end FetchKind

namespace LatencyCell

def kind : LatencyCell → FetchKind
  | .sumUs => .add
  | .count => .add
  | .minUs => .min
  | .maxUs => .max

def emptied : LatencyCell → UInt64
  | .minUs => u64Max
  | _ => 0

def weigh (cell : LatencyCell) (elapsedUs : UInt64) : UInt64 :=
  match cell with
  | .count => 1
  | _ => elapsedUs

theorem apply_emptied (cell : LatencyCell) (value : UInt64) :
    cell.kind.apply value cell.emptied = value := by
  cases cell with
  | sumUs => exact UInt64.add_zero value
  | count => exact UInt64.add_zero value
  | minUs =>
      have bound := value.toNat_lt
      have top : u64Max.toNat = 2 ^ 64 - 1 := rfl
      rw [← UInt64.toNat_inj]
      simp only [kind, emptied, FetchKind.apply, UInt64.toNat_min]
      omega
  | maxUs =>
      rw [← UInt64.toNat_inj]
      simp only [kind, emptied, FetchKind.apply, UInt64.toNat_max, UInt64.toNat_zero]
      omega

def gather (cell : LatencyCell) : Gather UInt64 UInt64 where
  combine := cell.kind.apply
  unit := cell.emptied
  weigh := cell.weigh
  comm := cell.kind.apply_comm
  assoc := cell.kind.apply_assoc
  unit_right := cell.apply_emptied

end LatencyCell

namespace LatencyAggregator

@[simp] theorem get_set_self (aggregator : LatencyAggregator) (cell : LatencyCell)
    (value : UInt64) : (aggregator.set cell value).get cell = value := by
  cases cell <;> rfl

@[simp] theorem get_set_other (aggregator : LatencyAggregator) {cell other : LatencyCell}
    (different : other ≠ cell)
    (value : UInt64) : (aggregator.set cell value).get other = aggregator.get other := by
  cases cell <;> cases other <;> first | rfl | exact absurd rfl different

end LatencyAggregator

/-! The books. -/

/-- How far a task has come: the cells its sample is still to go to, or what its flush holds. -/
inductive LatencyPhase
  | resting
  | recording (elapsedUs : UInt64) (left : List LatencyCell)
  | flushing (held : List (LatencyCell × UInt64))

def LatencyEvent.phase : LatencyEvent → LatencyPhase
  | .called (.record elapsedUs) => .recording elapsedUs [.sumUs, .count, .minUs, .maxUs]
  | .called .flush => .flushing []
  | .recorded => .resting
  | .flushed _ => .resting

namespace LatencyPhase

variable {Task : Type}

def owed (task : Task) (cell : LatencyCell) : LatencyPhase → Multiset (Task × UInt64)
  | .recording elapsedUs left => if cell ∈ left then {(task, elapsedUs)} else 0
  | _ => 0

def held (task : Task) (cell : LatencyCell) : LatencyPhase → Multiset (Task × UInt64)
  | .flushing held =>
    ((held.filter fun entry => entry.1 = cell).map fun entry => (task, entry.2) : List _)
  | _ => 0

end LatencyPhase

structure LatencyBooks (Task : Type) where
  accounts : LatencyCell → Account Task UInt64 UInt64
  phase : Task → LatencyPhase

def LatencyBooks.opened (Task : Type) : LatencyBooks Task := ⟨fun _ => .opened, fun _ => .resting⟩

variable {Task : Type} [DecidableEq Task]

def LatencyBooks.after (books : LatencyBooks Task) (task : Task) : {β : Type} → LatencyOp β → β →
    LatencyBooks Task
  | _, .fetch _ cell _, _ =>
      match books.phase task with
      | .recording elapsedUs left =>
          { accounts := Function.update books.accounts cell ((books.accounts cell).add task elapsedUs)
            phase := Function.update books.phase task (.recording elapsedUs left.tail) }
      | _ => books
  | _, .swap cell _, value =>
      match books.phase task with
      | .flushing held =>
          { accounts := Function.update books.accounts cell ((books.accounts cell).take task value)
            phase := Function.update books.phase task (.flushing ((cell, value) :: held)) }
      | _ => books
  | _, .note event, _ => { books with phase := Function.update books.phase task event.phase }

def bookkeeping : Watch LatencyOp Task (LatencyState Task) Unit (LatencyBooks Task) :=
  fun _ task _ op reply _ books => some (books.after task op reply)

theorem bookkeeping_total (choice : Unit) (task : Task) {β : Type} (op : LatencyOp β) (reply : β)
    (state : LatencyState Task) (books : LatencyBooks Task) :
    ∃ later, bookkeeping choice task op reply state books = some later :=
  ⟨_, rfl⟩

def LatencyOp.InTurn : {β : Type} → LatencyOp β → LatencyPhase → Prop
  | _, .fetch kind cell operand, phase =>
    ∃ elapsedUs left, phase = .recording elapsedUs (cell :: left) ∧
      cell ∉ left ∧ kind = cell.kind ∧ operand = cell.weigh elapsedUs
  | _, .swap cell value, phase => ∃ held, phase = .flushing held ∧ cell ∉ held.map Prod.fst ∧
      value = cell.emptied
  | _, .note (.called _), phase => phase = .resting
  | _, .note .recorded, phase => ∃ elapsedUs, phase = .recording elapsedUs []
  | _, .note (.flushed snapshot), phase => ∃ minUs, phase = .flushing [(.maxUs, snapshot.maxUs),
      (.minUs, minUs), (.sumUs, snapshot.totalUs), (.count, snapshot.count)] ∧
      snapshot.minUs = if snapshot.count = 0 then 0 else minUs

def LatencySnapshot.get (snapshot : LatencySnapshot) : LatencyCell → UInt64
  | .sumUs => snapshot.totalUs
  | .count => snapshot.count
  | .minUs => snapshot.minUs
  | .maxUs => snapshot.maxUs

def reportedOf (cell : LatencyCell) (history : List (Task × LatencyEvent)) : List (Task × UInt64) :=
  (snapshotsOf history).map fun entry => (entry.1, entry.2.get cell)

/-- The books are in order. The minimum is not among what is collected: a snapshot of no
samples gives 0 for it. -/
structure Booked (state : LatencyState Task) (books : LatencyBooks Task) : Prop where
  balanced : ∀ cell, Account.Balanced cell.gather (state.aggregator.get cell) (books.accounts cell)
  contributed : ∀ task cell, share task ↑(samplesOf state.history) =
    (books.phase task).owed task cell + share task (books.accounts cell).entries
  collected : ∀ task cell, cell ≠ .minUs → share task (books.accounts cell).returned =
    (books.phase task).held task cell + share task ↑(reportedOf cell state.history)

theorem booked_start : Booked (latencyStart Task).shared (LatencyBooks.opened Task) where
  balanced cell := by
    have unit : cell.gather.unit = LatencyAggregator.default.get cell := by cases cell <;> rfl
    have balanced :
        Account.Balanced cell.gather cell.gather.unit (.opened : Account Task UInt64 UInt64) :=
      Account.balanced_opened
    rw [unit] at balanced
    exact balanced
  contributed _ _ := rfl
  collected _ _ _ := rfl

section Steps

variable {state : LatencyState Task} {books : LatencyBooks Task} {task : Task}

theorem Booked.fetch (booked : Booked state books) {cell : LatencyCell} {elapsedUs : UInt64}
    {left : List LatencyCell} (phase : books.phase task = .recording elapsedUs (cell :: left))
    (once : cell ∉ left) : Booked
      { state with aggregator :=
          state.aggregator.set cell (cell.kind.apply (state.aggregator.get cell) (cell.weigh elapsedUs)) }
      { accounts := Function.update books.accounts cell ((books.accounts cell).add task elapsedUs)
        phase := Function.update books.phase task (.recording elapsedUs left) } where
  balanced other := by
    by_cases same : other = cell
    · subst other
      simp only [Function.update_self, LatencyAggregator.get_set_self]
      exact (booked.balanced cell).add task elapsedUs
    · simp only [ne_eq, same, not_false_eq_true, Function.update_of_ne,
        LatencyAggregator.get_set_other]
      exact booked.balanced other
  contributed owner other := by
    have before := booked.contributed owner other
    simp only at before ⊢
    rw [before]
    by_cases own : owner = task
    · subst owner
      rw [phase, Function.update_self]
      by_cases same : other = cell
      · subst other
        rw [Function.update_self, Account.entries_add, share_cons_self]
        simp [LatencyPhase.owed, once]
      · rw [Function.update_of_ne same]
        simp [LatencyPhase.owed, same]
    · rw [Function.update_of_ne own]
      by_cases same : other = cell
      · subst other
        rw [Function.update_self, Account.entries_add, share_cons_other (Ne.symm own)]
      · rw [Function.update_of_ne same]
  collected owner other counted := by
    have before := booked.collected owner other counted
    have unchanged :
      (Function.update books.accounts cell ((books.accounts cell).add task elapsedUs)
      other).returned =
        (books.accounts other).returned := by
      by_cases same : other = cell
      · subst other
        rw [Function.update_self]
        rfl
      · rw [Function.update_of_ne same]
    simp only at before ⊢
    rw [unchanged, before]
    by_cases own : owner = task
    · subst owner
      rw [phase, Function.update_self]
      rfl
    · rw [Function.update_of_ne own]

theorem Booked.swap (booked : Booked state books) {cell : LatencyCell}
    {held : List (LatencyCell × UInt64)} (phase : books.phase task = .flushing held) :
    Booked { state with aggregator := state.aggregator.set cell cell.emptied }
      { accounts := Function.update books.accounts cell
          ((books.accounts cell).take task (state.aggregator.get cell))
        phase := Function.update books.phase task
          (.flushing ((cell, state.aggregator.get cell) :: held)) } where
  balanced other := by
    by_cases same : other = cell
    · subst other
      simp only [Function.update_self, LatencyAggregator.get_set_self]
      exact (booked.balanced cell).take task
    · simp only [ne_eq, same, not_false_eq_true, Function.update_of_ne,
        LatencyAggregator.get_set_other]
      exact booked.balanced other
  contributed owner other := by
    have before := booked.contributed owner other
    have unchanged : (Function.update books.accounts cell
        ((books.accounts cell).take task (state.aggregator.get cell)) other).entries =
          (books.accounts other).entries := by
      by_cases same : other = cell
      · subst other
        rw [Function.update_self, Account.entries_take]
      · rw [Function.update_of_ne same]
    simp only at before ⊢
    rw [unchanged, before]
    by_cases own : owner = task
    · subst owner
      rw [phase, Function.update_self]
      rfl
    · rw [Function.update_of_ne own]
  collected owner other counted := by
    have before := booked.collected owner other counted
    simp only at before ⊢
    by_cases own : owner = task
    · subst owner
      rw [phase] at before
      rw [Function.update_self]
      by_cases same : other = cell
      · subst other
        rw [Function.update_self]
        simp only [Account.take, share_cons_self, before, LatencyPhase.held, decide_true,
          List.filter_cons_of_pos, List.map_cons, ← Multiset.cons_coe, Multiset.cons_add]
      · rw [Function.update_of_ne same, before]
        simp [LatencyPhase.held, Ne.symm same]
    · rw [Function.update_of_ne own]
      by_cases same : other = cell
      · subst other
        rw [Function.update_self]
        simp only [Account.take, share_cons_other (Ne.symm own), before]
      · rw [Function.update_of_ne same, before]

theorem Booked.recordCalled (booked : Booked state books) (elapsedUs : UInt64)
    (phase : books.phase task = .resting) :
    Booked { state with history := (task, .called (.record elapsedUs)) :: state.history }
      { books with phase := Function.update books.phase task (LatencyEvent.called (.record elapsedUs)).phase } where
  balanced := booked.balanced
  contributed owner cell := by
    have before := booked.contributed owner cell
    have grown : samplesOf ((task, .called (.record elapsedUs)) :: state.history) =
        (task, elapsedUs) :: samplesOf state.history := rfl
    simp only at before ⊢
    rw [grown, ← Multiset.cons_coe]
    by_cases own : owner = task
    · subst owner
      rw [phase] at before
      rw [Function.update_self, share_cons_self, before]
      cases cell <;> simp [LatencyPhase.owed, LatencyEvent.phase]
    · rw [Function.update_of_ne own, share_cons_other (Ne.symm own), before]
  collected owner cell counted := by
    have before := booked.collected owner cell counted
    simp only at before ⊢
    rw [before]
    by_cases own : owner = task
    · subst owner
      rw [phase, Function.update_self]
      rfl
    · rw [Function.update_of_ne own]
      rfl

theorem Booked.passed (booked : Booked state books) {event : LatencyEvent}
    (samples : samplesOf ((task, event) :: state.history) = samplesOf state.history)
    (snapshots : snapshotsOf ((task, event) :: state.history) = snapshotsOf state.history)
    (owed : ∀ cell, event.phase.owed task cell = (books.phase task).owed task cell)
    (held : ∀ cell, event.phase.held task cell = (books.phase task).held task cell) :
    Booked { state with history := (task, event) :: state.history }
      { books with phase := Function.update books.phase task event.phase } where
  balanced := booked.balanced
  contributed owner cell := by
    have before := booked.contributed owner cell
    simp only at before ⊢
    rw [samples, before]
    by_cases own : owner = task
    · subst owner
      rw [Function.update_self, owed cell]
    · rw [Function.update_of_ne own]
  collected owner cell counted := by
    have before := booked.collected owner cell counted
    simp only [reportedOf] at before ⊢
    rw [snapshots, before]
    by_cases own : owner = task
    · subst owner
      rw [Function.update_self, held cell]
    · rw [Function.update_of_ne own]

theorem Booked.flushed (booked : Booked state books) {snapshot : LatencySnapshot} {minUs : UInt64}
    (phase : books.phase task = .flushing
      [(.maxUs, snapshot.maxUs), (.minUs, minUs), (.sumUs, snapshot.totalUs),
      (.count, snapshot.count)]) :
    Booked { state with history := (task, .flushed snapshot) :: state.history }
      { books with phase := Function.update books.phase task (LatencyEvent.flushed snapshot).phase } where
  balanced := booked.balanced
  contributed owner cell := by
    have before := booked.contributed owner cell
    have same : samplesOf ((task, .flushed snapshot) :: state.history) = samplesOf state.history :=
      rfl
    simp only at before ⊢
    rw [same, before]
    by_cases own : owner = task
    · subst owner
      rw [phase, Function.update_self]
      rfl
    · rw [Function.update_of_ne own]
  collected owner cell counted := by
    have before := booked.collected owner cell counted
    have grown : reportedOf cell ((task, .flushed snapshot) :: state.history) =
        (task, snapshot.get cell) :: reportedOf cell state.history := rfl
    simp only at before ⊢
    rw [grown, ← Multiset.cons_coe, before]
    by_cases own : owner = task
    · subst owner
      rw [phase, Function.update_self, share_cons_self]
      cases cell <;> simp_all [LatencyPhase.held, LatencyEvent.phase, LatencySnapshot.get]
    · rw [Function.update_of_ne own, share_cons_other (Ne.symm own)]

end Steps

theorem Booked.step {before after : LatencyState Task × LatencyBooks Task} {task : Task} {β : Type}
    {op : LatencyOp β} {reply : β} (booked : Booked before.1 before.2)
    (turn : op.InTurn (before.2.phase task))
    (executed : before.1.exec task op = (reply, after.1)) (kept : before.2.after task op reply = after.2) :
    Booked after.1 after.2 := by
  obtain ⟨state, books⟩ := before
  obtain ⟨next, later⟩ := after
  simp only at turn executed kept ⊢
  subst later
  cases op with
  | fetch kind cell operand =>
      obtain ⟨elapsedUs, left, phase, once, rfl, rfl⟩ := turn
      obtain ⟨rfl, rfl⟩ := Prod.mk.inj executed
      simp only [LatencyBooks.after, phase, List.tail_cons]
      exact booked.fetch phase once
  | swap cell value =>
      obtain ⟨held, phase, _, rfl⟩ := turn
      obtain ⟨rfl, rfl⟩ := Prod.mk.inj executed
      simp only [LatencyBooks.after, phase]
      exact booked.swap phase
  | note event =>
      obtain ⟨_, rfl⟩ := Prod.mk.inj executed
      cases event with
      | called call =>
          have phase : books.phase task = .resting := turn
          cases call with
          | record elapsedUs => exact booked.recordCalled elapsedUs phase
          | flush =>
              refine booked.passed rfl rfl ?_ ?_
              · intro cell
                rw [phase]
                rfl
              · intro cell
                rw [phase]
                rfl
      | recorded =>
          obtain ⟨elapsedUs, phase⟩ := turn
          refine booked.passed rfl rfl ?_ ?_
          · intro cell
            simp [phase, LatencyPhase.owed, LatencyEvent.phase]
          · intro cell
            rw [phase]
            rfl
      | flushed snapshot =>
          obtain ⟨minUs, phase, _⟩ := turn
          exact booked.flushed phase

/-! The calls come to their operations in turn. -/

theorem after_phase_other (books : LatencyBooks Task) {task other : Task} (different : other ≠ task)
    {β : Type} (op : LatencyOp β) (reply : β) :
    (books.after other op reply).phase task = books.phase task := by
  cases op with
  | fetch kind cell operand =>
      simp only [LatencyBooks.after]
      split
      · exact Function.update_of_ne (Ne.symm different) _ _
      · rfl
  | swap cell value =>
      simp only [LatencyBooks.after]
      split
      · exact Function.update_of_ne (Ne.symm different) _ _
      · rfl
  | note event => exact Function.update_of_ne (Ne.symm different) _ _

theorem books_exec {task : Task} {β : Type} {op : LatencyOp β}
    {before after : LatencyState Task × LatencyBooks Task} {reply : β} {choice : Unit}
    (executed : ((latencySystem Task).watched bookkeeping).exec choice task op before = some
      (reply, after)) :
    before.1.exec task op = (reply, after.1) ∧ before.2.after task op reply = after.2 := by
  obtain ⟨ran, kept⟩ := System.watched_exec executed
  exact ⟨Option.some.inj ran, Option.some.inj kept⟩

def latencyDiscipline : Discipline ((latencySystem Task).watched bookkeeping) where
  inv both := Booked both.1 both.2
  guard task _ op both := op.InTurn (both.2.phase task)
  rest task both := both.2.phase task = .resting
  preserved := by
    intro choice task β op state reply after booked turn executed
    obtain ⟨ran, kept⟩ := books_exec executed
    exact booked.step turn ran kept
  rest_stable := by
    intro choice task other β op state reply after different _ _ executed resting
    rw [← (books_exec executed).2, after_phase_other _ different]
    exact resting

theorem phase_stable (task : Task) (phase : LatencyPhase) :
    latencyDiscipline.Stable task fun both => both.2.phase task = phase := by
  rintro before after ⟨_, other, choice, β, op, reply, different, _, executed⟩ holds
  rw [← (books_exec executed).2, after_phase_other _ different]
  exact holds

theorem fetch_triple (task : Task) (elapsedUs : UInt64) (cell : LatencyCell)
    (left : List LatencyCell) (once : cell ∉ left) :
    latencyDiscipline.Triple task
      (fun both => both.2.phase task = .recording elapsedUs (cell :: left))
      (.perform (.fetch cell.kind cell (cell.weigh elapsedUs)))
      fun _ both => both.2.phase task = .recording elapsedUs left := by
  apply Discipline.triple_perform (phase_stable task _) (fun _ => phase_stable task _)
  · intro both _ phase
    exact ⟨elapsedUs, left, phase, once, rfl, rfl⟩
  · intro choice both reply after _ phase executed
    rw [← (books_exec executed).2]
    simp only [LatencyBooks.after, phase, Function.update_self, List.tail_cons]

theorem swap_triple (task : Task) (cell : LatencyCell) (held : List (LatencyCell × UInt64))
    (once : cell ∉ held.map Prod.fst) :
    latencyDiscipline.Triple task (fun both => both.2.phase task = .flushing held)
      (.perform (.swap cell cell.emptied))
      fun value both => both.2.phase task = .flushing ((cell, value) :: held) := by
  apply Discipline.triple_perform (phase_stable task _) (fun _ => phase_stable task _)
  · intro both _ phase
    exact ⟨held, phase, once, rfl⟩
  · intro choice both reply after _ phase executed
    rw [← (books_exec executed).2]
    simp only [LatencyBooks.after, phase, Function.update_self]

theorem note_triple (task : Task) (event : LatencyEvent) (phase : LatencyPhase)
    (turn : (LatencyOp.note event).InTurn phase) :
    latencyDiscipline.Triple task (fun both => both.2.phase task = phase) (.perform (.note event))
      fun _ both => both.2.phase task = event.phase := by
  apply Discipline.triple_perform (phase_stable task _) (fun _ => phase_stable task _)
  · intro both _ holds
    change (LatencyOp.note event).InTurn (both.2.phase task)
    rwa [holds]
  · intro choice both reply after _ _ executed
    rw [← (books_exec executed).2]
    simp only [LatencyBooks.after, Function.update_self]

theorem record_triple (task : Task) (elapsedUs : UInt64) :
    latencyDiscipline.Triple task (latencyDiscipline.rest task) (latencyProgram (.record elapsedUs))
      fun _ => latencyDiscipline.rest task := by
  refine Discipline.triple_bind (note_triple task _ .resting rfl) fun _ => ?_
  simp only [LatencyAggregator.record, Program.bind_eq, Program.bind_assoc]
  refine Discipline.triple_bind (fetch_triple task elapsedUs .sumUs _ (by decide)) fun _ => ?_
  refine Discipline.triple_bind (fetch_triple task elapsedUs .count _ (by decide)) fun _ => ?_
  refine Discipline.triple_bind (fetch_triple task elapsedUs .minUs _ (by decide)) fun _ => ?_
  refine Discipline.triple_bind (fetch_triple task elapsedUs .maxUs _ (by decide)) fun _ => ?_
  exact note_triple task _ _ ⟨elapsedUs, rfl⟩

theorem flush_triple (task : Task) :
    latencyDiscipline.Triple task (latencyDiscipline.rest task) (latencyProgram .flush)
      fun _ => latencyDiscipline.rest task := by
  refine Discipline.triple_bind (note_triple task _ .resting rfl) fun _ => ?_
  simp only [LatencyAggregator.flush, Program.bind_eq, Program.bind_assoc]
  refine Discipline.triple_bind (swap_triple task .count [] (by simp)) fun count => ?_
  refine Discipline.triple_bind (swap_triple task .sumUs [(.count, count)] (by simp)) fun totalUs =>
    ?_
  refine Discipline.triple_bind
    (swap_triple task .minUs [(.sumUs, totalUs), (.count, count)] (by simp)) fun minUs => ?_
  refine Discipline.triple_bind
    (swap_triple task .maxUs [(.minUs, minUs), (.sumUs, totalUs), (.count, count)] (by simp))
      fun maxUs => ?_
  exact note_triple task _ _ ⟨minUs, rfl, rfl⟩

theorem latency_calls (task : Task) (call : LatencyCall)
    (_ : ((latencySystem Task).watched bookkeeping).mayStart task call = true) :
    latencyDiscipline.Triple task (latencyDiscipline.rest task)
      (((latencySystem Task).watched bookkeeping).program call) fun _ =>
        latencyDiscipline.rest task := by
  cases call with
  | record elapsedUs => exact record_triple task elapsedUs
  | flush => exact flush_triple task

theorem latency_sound : latencyDiscipline.Sound
    ⟨((latencyStart Task).shared, LatencyBooks.opened Task), (latencyStart Task).pool⟩ :=
  .ofIdle booked_start (fun _ => rfl) fun _ => rfl

/-! Once every call has returned. -/

theorem Booked.entries {state : LatencyState Task} {books : LatencyBooks Task}
    (booked : Booked state books)
    {cell : LatencyCell} (paid : ∀ task, (books.phase task).owed task cell = 0) :
    ((samplesOf state.history : List _) : Multiset (Task × UInt64)) =
      (books.accounts cell).entries := by
  apply eq_of_share
  intro task
  have contributed := booked.contributed task cell
  rw [paid task, Multiset.zero_add] at contributed
  exact contributed

theorem Booked.conserved {state : LatencyState Task} {books : LatencyBooks Task}
    (booked : Booked state books)
    (resting : ∀ task, books.phase task = .resting) {cell : LatencyCell} (counted : cell ≠ .minUs) :
    cell.kind.apply
      ((state.snapshots.map fun snapshot => snapshot.get cell).foldr cell.kind.apply cell.emptied)
        (state.aggregator.get cell) =
      (state.samples.map cell.weigh).foldr cell.kind.apply cell.emptied := by
  have samples : ((samplesOf state.history : List _) : Multiset (Task × UInt64)) =
      (books.accounts cell).entries := by
    apply booked.entries
    intro task
    rw [resting task]
    rfl
  have reported : (books.accounts cell).returned =
      ((reportedOf cell state.history : List _) : Multiset (Task × UInt64)) := by
    apply eq_of_share
    intro task
    have collected := booked.collected task cell counted
    simp only [resting task, LatencyPhase.held, Multiset.zero_add] at collected
    exact collected
  have conserved := (booked.balanced cell).conserved
  rw [reported, ← samples] at conserved
  simp only [Gather.sum, Gather.total, Multiset.map_coe, Multiset.coe_fold_r, reportedOf,
    List.map_map] at conserved
  simp only [LatencyState.snapshots, LatencyState.samples, List.map_map]
  exact conserved

theorem foldr_add (values : List UInt64) :
    (values.foldr FetchKind.add.apply 0).toNat = (values.map UInt64.toNat).sum % 2 ^ 64 := by
  induction values with
  | nil => rfl
  | cons value rest ih =>
      simp only [List.foldr_cons, List.map_cons, List.sum_cons, FetchKind.apply, UInt64.toNat_add]
      rw [ih, Nat.add_mod_mod]

theorem Booked.conserved_added {state : LatencyState Task} {books : LatencyBooks Task}
    (booked : Booked state books) (resting : ∀ task, books.phase task = .resting)
    {cell : LatencyCell}
    (counted : cell ≠ .minUs) (kind : cell.kind = .add) (emptied : cell.emptied = 0) :
    ((state.snapshots.map fun snapshot => (snapshot.get cell).toNat).sum +
      (state.aggregator.get cell).toNat) % 2 ^ 64 =
      (state.samples.map fun elapsedUs => (cell.weigh elapsedUs).toNat).sum % 2 ^ 64 := by
  have conserved := booked.conserved resting counted
  rw [kind, emptied] at conserved
  have counts := congrArg UInt64.toNat conserved
  simp only [FetchKind.apply, UInt64.toNat_add] at counts
  rw [foldr_add, foldr_add, Nat.mod_add_mod, List.map_map, List.map_map] at counts
  exact counts

theorem foldr_max (values : List UInt64) (last : UInt64) :
    max (values.foldr max 0) last = values.foldr max last := by
  rw [← UInt64.toNat_inj]
  induction values with
  | nil => simp [UInt64.toNat_max]
  | cons value rest ih =>
      simp only [List.foldr_cons, UInt64.toNat_max] at ih ⊢
      omega

/-- No sample is lost or counted twice: what the flushes returned and what remains make up
what was recorded. -/
theorem samples_conserved {config : Config LatencyOp Task (LatencyState Task)}
    (run : (latencySystem Task).Reachable (latencyStart Task) config)
    (finished : ∀ task, config.pool task = .done ()) :
    ((config.shared.snapshots.map fun snapshot => snapshot.count.toNat).sum +
        config.shared.aggregator.count.toNat) % 2 ^ 64 = config.shared.samples.length % 2 ^ 64 ∧
      ((config.shared.snapshots.map fun snapshot => snapshot.totalUs.toNat).sum +
        config.shared.aggregator.sumUs.toNat) % 2 ^ 64 =
          (config.shared.samples.map UInt64.toNat).sum % 2 ^ 64 ∧
      (config.shared.snapshots.map fun snapshot => snapshot.maxUs).foldr max
        config.shared.aggregator.maxUs = config.shared.samples.foldr max 0 := by
  have unrestricted : (latencySystem Task).restrict (fun _ _ _ _ => true) = latencySystem Task :=
    rfl
  rw [← unrestricted] at run
  obtain ⟨books, watched⟩ := run.watched bookkeeping_total (LatencyBooks.opened Task)
  have sound := latency_sound.reachable latency_calls watched.unrestricted
  have booked : Booked config.shared books := sound.inv
  have resting : ∀ task, books.phase task = .resting := fun task => sound.rest (finished task)
  refine ⟨?_, ?_, ?_⟩
  · have counts := booked.conserved_added resting (show LatencyCell.count ≠ .minUs by decide)
      rfl rfl
    simp only [LatencyCell.weigh, UInt64.toNat_one, List.map_const', List.sum_replicate_nat,
      Nat.mul_one] at counts
    exact counts
  · exact booked.conserved_added resting (show LatencyCell.sumUs ≠ .minUs by decide) rfl rfl
  · have largest := booked.conserved resting (show LatencyCell.maxUs ≠ .minUs by decide)
    rw [← foldr_max]
    have weighed : config.shared.samples.map LatencyCell.maxUs.weigh = config.shared.samples :=
      List.map_id _
    rw [weighed] at largest
    exact largest

-- A flush in the middle of a record takes the sum of the sample and leaves the rest of it.
theorem samples_conserved_split :
    ∃ config, (latencySystem Bool).Reachable (latencyStart Bool) config ∧
      config.shared.snapshots = [⟨0, 7, 0, 0⟩] ∧ config.shared.aggregator = ⟨0, 1, 7, 7⟩ ∧
      ((config.shared.snapshots.map fun snapshot => snapshot.totalUs.toNat).sum +
        config.shared.aggregator.sumUs.toNat) % 2 ^ 64 =
          (config.shared.samples.map UInt64.toNat).sum % 2 ^ 64 := by
  have ran : ((latencySystem Bool).schedule (latencyStart Bool)
      (.start true (.record 7) :: List.replicate 2 (.step true ()) ++
        .start false .flush :: List.replicate 6 (.step false ()) ++ List.replicate 4
          (.step true ()))).any
          (fun config => (config.pool true).isDone = true ∧ (config.pool false).isDone = true ∧
            config.shared.snapshots = [⟨0, 7, 0, 0⟩] ∧ config.shared.aggregator = ⟨0, 1, 7, 7⟩) =
              true := by
    decide +kernel
  obtain ⟨config, run, checked⟩ := System.schedule_finds ran
  obtain ⟨first, second, snapshots, remaining⟩ := of_decide_eq_true checked
  have finished : ∀ task, config.pool task = .done () := by
    intro task
    cases task with
    | true => exact Program.eq_done first
    | false => exact Program.eq_done second
  exact ⟨config, run, snapshots, remaining, (samples_conserved run finished).2.1⟩

end Qlaster
