import Mathlib.Algebra.BigOperators.Group.Multiset.Basic
import Mathlib.Algebra.Order.BigOperators.Group.Multiset
import Mathlib.Algebra.Order.Group.Nat
import Qlaster.Metrics

/-!
Snapshots of flushes that overlap no other call: each is the summary of one batch of samples.
A flush that runs into a record takes some numbers of the sample and not others.
-/

namespace Qlaster

open Interleaving Accumulator

variable {Task : Type}

def summary (batch : Multiset (Task × UInt64)) : LatencySnapshot where
  count := LatencyCell.count.gather.total batch
  totalUs := LatencyCell.sumUs.gather.total batch
  minUs := if LatencyCell.count.gather.total batch = 0 then 0 else LatencyCell.minUs.gather.total
    batch
  maxUs := LatencyCell.maxUs.gather.total batch

theorem total_added {cell : LatencyCell} (kind : cell.kind = .add) (emptied : cell.emptied = 0)
    (batch : Multiset (Task × UInt64)) :
    (cell.gather.total batch).toNat = (batch.map fun entry => (cell.weigh entry.2).toNat).sum %
      2 ^ 64 := by
  induction batch using Multiset.induction_on with
  | empty =>
      rw [Gather.total_zero]
      change cell.emptied.toNat = _
      rw [emptied]
      rfl
  | cons entry rest ih =>
      obtain ⟨task, elapsedUs⟩ := entry
      rw [Gather.total_cons, Multiset.map_cons, Multiset.sum_cons]
      change (cell.kind.apply (cell.gather.total rest) (cell.weigh elapsedUs)).toNat = _
      rw [kind]
      simp only [FetchKind.apply, UInt64.toNat_add]
      rw [ih, Nat.mod_add_mod, Nat.add_comm]

theorem minUs_le {batch : Multiset (Task × UInt64)} {entry : Task × UInt64}
    (member : entry ∈ batch) : (LatencyCell.minUs.gather.total batch).toNat ≤ entry.2.toNat := by
  obtain ⟨rest, rfl⟩ := Multiset.exists_cons_of_mem member
  obtain ⟨task, elapsedUs⟩ := entry
  rw [Gather.total_cons]
  change (min (LatencyCell.minUs.gather.total rest) elapsedUs).toNat ≤ elapsedUs.toNat
  rw [UInt64.toNat_min]
  omega

theorem le_maxUs {batch : Multiset (Task × UInt64)} {entry : Task × UInt64}
    (member : entry ∈ batch) : entry.2.toNat ≤ (LatencyCell.maxUs.gather.total batch).toNat := by
  obtain ⟨rest, rfl⟩ := Multiset.exists_cons_of_mem member
  obtain ⟨task, elapsedUs⟩ := entry
  rw [Gather.total_cons]
  change elapsedUs.toNat ≤ (max (LatencyCell.maxUs.gather.total rest) elapsedUs).toNat
  rw [UInt64.toNat_max]
  omega

theorem summary_consistent {batch : Multiset (Task × UInt64)} (few : batch.card < 2 ^ 64)
    (small : (batch.map fun entry => entry.2.toNat).sum < 2 ^ 64) :
    (summary batch).SelfConsistent := by
  have count : (summary batch).count.toNat = batch.card := by
    have total := total_added (show LatencyCell.count.kind = .add from rfl) rfl batch
    simp only [LatencyCell.weigh, UInt64.toNat_one, Multiset.map_const', Multiset.sum_replicate,
      Nat.nsmul_eq_mul, Nat.mul_one] at total
    rw [Nat.mod_eq_of_lt few] at total
    exact total
  have sum : (summary batch).totalUs.toNat = (batch.map fun entry => entry.2.toNat).sum := by
    have total := total_added (show LatencyCell.sumUs.kind = .add from rfl) rfl batch
    simp only [LatencyCell.weigh] at total
    rw [Nat.mod_eq_of_lt small] at total
    exact total
  unfold LatencySnapshot.SelfConsistent
  split
  · rename_i none
    rw [none, UInt64.toNat_zero, eq_comm, Multiset.card_eq_zero] at count
    subst batch
    exact ⟨rfl, rfl⟩
  · rename_i counted
    have low : (summary batch).minUs = LatencyCell.minUs.gather.total batch := if_neg counted
    have nonempty : 0 < batch.card := by
      rw [← count]
      exact Nat.pos_of_ne_zero fun zero => counted (UInt64.toNat_inj.mp zero)
    have below : batch.card * (summary batch).minUs.toNat ≤ (summary batch).totalUs.toNat := by
      rw [sum, low]
      have each : ∀ value ∈ batch.map fun entry => entry.2.toNat,
          (LatencyCell.minUs.gather.total batch).toNat ≤ value := by
        intro value member
        obtain ⟨entry, inside, rfl⟩ := Multiset.mem_map.mp member
        exact minUs_le inside
      simpa using Multiset.card_nsmul_le_sum each
    have above : (summary batch).totalUs.toNat ≤ batch.card * (summary batch).maxUs.toNat := by
      rw [sum]
      have each : ∀ value ∈ batch.map fun entry => entry.2.toNat,
          value ≤ (summary batch).maxUs.toNat := by
        intro value member
        obtain ⟨entry, inside, rfl⟩ := Multiset.mem_map.mp member
        exact le_maxUs inside
      simpa using Multiset.sum_le_card_nsmul _ _ each
    have average : (summary batch).avgUs.toNat = (summary batch).totalUs.toNat / batch.card := by
      unfold LatencySnapshot.avgUs
      rw [if_neg counted, UInt64.toNat_div, count]
    simp only [UInt64.le_iff_toNat_le, average, count]
    refine ⟨?_, below, above, ?_, ?_⟩
    · exact Nat.le_of_mul_le_mul_left (below.trans above) nonempty
    · rw [Nat.le_div_iff_mul_le nonempty, Nat.mul_comm]
      exact below
    · exact Nat.div_le_of_le_mul above

variable [DecidableEq Task]

def LatencyPhase.call : LatencyPhase → Option LatencyCall
  | .resting => none
  | .recording elapsedUs _ => some (.record elapsedUs)
  | .flushing _ => some .flush

/-- How far a flush has come with the batch that it takes. -/
structure Collecting (books : LatencyBooks Task) (held : List (LatencyCell × UInt64))
    (batch : Multiset (Task × UInt64)) : Prop where
  left : ∀ cell, cell ∉ held.map Prod.fst → (books.accounts cell).pending = batch
  taken : ∀ cell value, (cell, value) ∈ held →
    (books.accounts cell).pending = 0 ∧ value = cell.gather.total batch

structure Apart (state : LatencyState Task) (books : LatencyBooks Task) : Prop where
  listed : ∀ task call, (task, call) ∈ underway state.history ↔ (books.phase task).call = some call
  alone : ∀ task held, books.phase task = .flushing held → ∀ other, other ≠ task →
    books.phase other = .resting
  between : (∀ task held, books.phase task ≠ .flushing held) →
    ∀ cell other, (books.accounts cell).taken = (books.accounts other).taken
  during : ∀ task held, books.phase task = .flushing held →
    ∃ batch, batch ≤ ↑(samplesOf state.history) ∧ Collecting books held batch
  returned : ∀ snapshot ∈ state.snapshots, ∃ batch : Multiset (Task × UInt64),
    batch ≤ ↑(samplesOf state.history) ∧ snapshot = summary batch

theorem LatencyPhase.call_none {phase : LatencyPhase} (idle : phase.call = none) :
    phase = .resting := by
  cases phase with
  | resting => rfl
  | recording elapsedUs left => simp [call] at idle
  | flushing held => simp [call] at idle

theorem apart_start : Apart (latencyStart Task).shared (LatencyBooks.opened Task) where
  listed task call := by simp [latencyStart, underway, LatencyBooks.opened, LatencyPhase.call]
  alone _ _ flushing := by simp [LatencyBooks.opened] at flushing
  between _ _ _ := rfl
  during _ _ flushing := by simp [LatencyBooks.opened] at flushing
  returned _ member := by simp [latencyStart, LatencyState.snapshots, snapshotsOf] at member

section Steps

variable {state : LatencyState Task} {books : LatencyBooks Task} {task : Task}

theorem call_update {phase : LatencyPhase} (same : phase.call = (books.phase task).call)
    (owner : Task) :
    (Function.update books.phase task phase owner).call = (books.phase owner).call := by
  by_cases own : owner = task
  · subst owner
    rw [Function.update_self, same]
  · rw [Function.update_of_ne own]

theorem unflushed_update (unflushed : ∀ owner held, books.phase owner ≠ .flushing held)
    (task : Task) {phase : LatencyPhase} (other : ∀ held, phase ≠ .flushing held) (owner : Task)
    (held : List (LatencyCell × UInt64)) :
    Function.update books.phase task phase owner ≠ .flushing held := by
  by_cases own : owner = task
  · subst owner
    rw [Function.update_self]
    exact other held
  · rw [Function.update_of_ne own]
    exact unflushed owner held

theorem Apart.unflushed (apart : Apart state books) {elapsedUs : UInt64} {left : List LatencyCell}
    (phase : books.phase task = .recording elapsedUs left) (owner : Task)
    (held : List (LatencyCell × UInt64)) : books.phase owner ≠ .flushing held := by
  intro flushing
  by_cases own : task = owner
  · rw [own, flushing] at phase
    simp at phase
  · have resting := apart.alone owner held flushing task own
    rw [phase] at resting
    simp at resting

theorem underway_called (history : List (Task × LatencyEvent)) (call : LatencyCall)
    (listed : ∀ owner call, (owner, call) ∈ underway history ↔ (books.phase owner).call = some call)
    (resting : books.phase task = .resting) {phase : LatencyPhase} (called : phase.call = some call)
    (owner : Task)
    (other : LatencyCall) : (owner, other) ∈ underway ((task, .called call) :: history) ↔
      (Function.update books.phase task phase owner).call = some other := by
  simp only [underway, List.mem_cons, listed, Prod.mk.injEq]
  by_cases own : owner = task
  · subst owner
    rw [Function.update_self, called, resting]
    simp [LatencyPhase.call, eq_comm]
  · simp [own]

theorem underway_returned (history : List (Task × LatencyEvent)) {event : LatencyEvent}
    (listed : ∀ owner call, (owner, call) ∈ underway history ↔ (books.phase owner).call = some call)
    (returned : underway ((task, event) :: history) = (underway history).filter fun entry =>
      entry.1 != task)
    (owner : Task) (call : LatencyCall) : (owner, call) ∈ underway ((task, event) :: history) ↔
      (Function.update books.phase task .resting owner).call = some call := by
  rw [returned, List.mem_filter, listed]
  by_cases own : owner = task
  · subst owner
    simp [LatencyPhase.call]
  · simp [own]

theorem Apart.fetch (apart : Apart state books) {cell : LatencyCell} {elapsedUs : UInt64}
    {left : List LatencyCell} (phase : books.phase task = .recording elapsedUs (cell :: left))
    (aggregator : LatencyAggregator) :
    Apart { state with aggregator := aggregator }
      { accounts := Function.update books.accounts cell ((books.accounts cell).add task elapsedUs)
        phase := Function.update books.phase task (.recording elapsedUs left) } := by
  have unflushed := apart.unflushed phase
  have recording : ∀ held, LatencyPhase.recording elapsedUs left ≠ .flushing held := by simp
  have still := unflushed_update unflushed task recording
  refine ⟨?_, ?_, ?_, ?_, apart.returned⟩
  · intro owner call
    have same : (LatencyPhase.recording elapsedUs left).call = (books.phase task).call := by
      rw [phase]
      rfl
    simp only [call_update same]
    exact apart.listed owner call
  · intro owner held flushing
    exact absurd flushing (still owner held)
  · intro _ first second
    have unchanged : ∀ other, (Function.update books.accounts cell
        ((books.accounts cell).add task elapsedUs) other).taken = (books.accounts other).taken := by
      intro other
      by_cases same : other = cell
      · subst other
        rw [Function.update_self]
        rfl
      · rw [Function.update_of_ne same]
    simp only [unchanged]
    exact apart.between unflushed first second
  · intro owner held flushing
    exact absurd flushing (still owner held)

theorem Apart.swap (apart : Apart state books) (booked : Booked state books) {cell : LatencyCell}
    {held : List (LatencyCell × UInt64)} (phase : books.phase task = .flushing held)
    (once : cell ∉ held.map Prod.fst) (aggregator : LatencyAggregator) :
    Apart { state with aggregator := aggregator }
      { accounts := Function.update books.accounts cell
          ((books.accounts cell).take task (state.aggregator.get cell))
        phase := Function.update books.phase task
          (.flushing ((cell, state.aggregator.get cell) :: held)) } := by
  have others := apart.alone task held phase
  refine ⟨?_, ?_, ?_, ?_, apart.returned⟩
  · intro owner call
    have same : (LatencyPhase.flushing ((cell, state.aggregator.get cell) :: held)).call =
        (books.phase task).call := by
      rw [phase]
      rfl
    simp only [call_update same]
    exact apart.listed owner call
  · intro owner found flushing other different
    by_cases own : owner = task
    · subst owner
      simp only [ne_eq, different, not_false_eq_true, Function.update_of_ne]
      exact others other different
    · simp only [ne_eq, own, not_false_eq_true, Function.update_of_ne, others owner own] at flushing
      simp at flushing
  · intro unflushed
    exact absurd (Function.update_self ..) (unflushed task _)
  · intro owner found flushing
    by_cases own : owner = task
    · subst owner
      simp only [Function.update_self, LatencyPhase.flushing.injEq] at flushing
      subst found
      obtain ⟨batch, below, collecting⟩ := apart.during _ held phase
      refine ⟨batch, below, ?_, ?_⟩
      · intro other fresh
        simp only [List.map_cons, List.mem_cons, not_or] at fresh
        simp only [ne_eq, fresh.1, not_false_eq_true, Function.update_of_ne]
        exact collecting.left other fresh.2
      · intro other value member
        by_cases same : other = cell
        · subst other
          rcases List.mem_cons.mp member with newest | older
          · obtain ⟨_, rfl⟩ := Prod.mk.inj newest
            simp only [Function.update_self]
            refine ⟨rfl, ?_⟩
            rw [(booked.balanced cell).pending, collecting.left cell once]
          · exact absurd (List.mem_map_of_mem older) once
        · have older : (other, value) ∈ held := by simpa [same] using member
          simp only [ne_eq, same, not_false_eq_true, Function.update_of_ne]
          exact collecting.taken other value older
    · simp only [ne_eq, own, not_false_eq_true, Function.update_of_ne, others owner own] at flushing
      simp at flushing

theorem Apart.recordCalled (apart : Apart state books) (elapsedUs : UInt64)
    (phase : books.phase task = .resting)
    (admitted : (underway state.history).all (fun entry => entry.2 != .flush) = true) :
    Apart { state with history := (task, .called (.record elapsedUs)) :: state.history }
      { books with phase := Function.update books.phase task (LatencyEvent.called (.record elapsedUs)).phase } := by
  have unflushed : ∀ owner held, books.phase owner ≠ .flushing held := by
    intro owner held flushing
    have member : (owner, LatencyCall.flush) ∈ underway state.history := by
      rw [apart.listed owner .flush]
      simp only [flushing, LatencyPhase.call]
    have other := List.all_eq_true.mp admitted _ member
    simp at other
  have recording : ∀ held, (LatencyEvent.called (.record elapsedUs)).phase ≠ .flushing held := by
    simp [LatencyEvent.phase]
  have still := unflushed_update unflushed task recording
  refine ⟨?_, ?_, ?_, ?_, ?_⟩
  · exact underway_called state.history _ apart.listed phase rfl
  · intro owner held flushing
    exact absurd flushing (still owner held)
  · intro _
    exact apart.between unflushed
  · intro owner held flushing
    exact absurd flushing (still owner held)
  · intro snapshot member
    obtain ⟨batch, below, same⟩ := apart.returned snapshot member
    refine ⟨batch, ?_, same⟩
    exact below.trans (Multiset.le_cons_self _ (task, elapsedUs))

theorem Apart.flushCalled (apart : Apart state books) (booked : Booked state books)
    (admitted : (underway state.history).isEmpty = true) :
    Apart { state with history := (task, .called .flush) :: state.history }
      { books with phase := Function.update books.phase task (LatencyEvent.called .flush).phase } := by
  have resting : ∀ owner, books.phase owner = .resting := by
    intro owner
    apply LatencyPhase.call_none
    rw [Option.eq_none_iff_forall_ne_some]
    intro call called
    have member := (apart.listed owner call).mpr called
    rw [List.isEmpty_iff.mp admitted] at member
    simp at member
  have entries : ∀ cell, ((samplesOf state.history : List _) : Multiset (Task × UInt64)) =
      (books.accounts cell).entries := by
    intro cell
    apply booked.entries
    intro owner
    rw [resting owner]
    rfl
  have unflushed : ∀ owner held, books.phase owner ≠ .flushing held := by
    intro owner held
    simp [resting owner]
  -- What is pending is what was recorded and not taken, and what was taken is the same in all
  -- cells.
  have pending : ∀ cell, (books.accounts cell).pending = (books.accounts .count).pending := by
    intro cell
    have same := (entries cell).symm.trans (entries .count)
    simp only [Account.entries] at same
    rw [apart.between unflushed cell .count] at same
    exact Multiset.add_right_inj.mp same
  refine ⟨?_, ?_, ?_, ?_, apart.returned⟩
  · exact underway_called state.history _ apart.listed (resting task) rfl
  · intro owner held flushing other different
    by_cases own : owner = task
    · subst owner
      simp only [ne_eq, different, not_false_eq_true, Function.update_of_ne]
      exact resting other
    · simp only [ne_eq, own, not_false_eq_true, Function.update_of_ne, resting owner] at flushing
      simp at flushing
  · intro still
    exact absurd (Function.update_self ..) (still task _)
  · intro owner held flushing
    by_cases own : owner = task
    · subst owner
      simp only [Function.update_self, LatencyEvent.phase, LatencyPhase.flushing.injEq] at flushing
      subst held
      refine ⟨(books.accounts .count).pending, ?_, fun cell _ => pending cell, by simp⟩
      have below : (books.accounts .count).pending ≤ (books.accounts .count).entries :=
        Multiset.le_add_left _ _
      rw [← entries .count] at below
      exact below
    · simp only [ne_eq, own, not_false_eq_true, Function.update_of_ne, resting owner] at flushing
      simp at flushing

theorem Apart.recorded (apart : Apart state books) {elapsedUs : UInt64}
    (phase : books.phase task = .recording elapsedUs []) :
    Apart { state with history := (task, .recorded) :: state.history }
      { books with phase := Function.update books.phase task LatencyEvent.recorded.phase } := by
  have unflushed := apart.unflushed phase
  have resting : ∀ held, LatencyEvent.recorded.phase ≠ .flushing held := by
    simp [LatencyEvent.phase]
  have still := unflushed_update unflushed task resting
  refine ⟨?_, ?_, ?_, ?_, apart.returned⟩
  · exact underway_returned state.history apart.listed rfl
  · intro owner held flushing
    exact absurd flushing (still owner held)
  · intro _
    exact apart.between unflushed
  · intro owner held flushing
    exact absurd flushing (still owner held)

theorem Apart.flushed (apart : Apart state books) (booked : Booked state books)
    {snapshot : LatencySnapshot} {minUs : UInt64}
    (phase : books.phase task = .flushing [(.maxUs, snapshot.maxUs), (.minUs, minUs),
      (.sumUs, snapshot.totalUs), (.count, snapshot.count)])
    (least : snapshot.minUs = if snapshot.count = 0 then 0 else minUs) :
    Apart { state with history := (task, .flushed snapshot) :: state.history }
      { books with phase := Function.update books.phase task (LatencyEvent.flushed snapshot).phase } := by
  have others := apart.alone task _ phase
  obtain ⟨batch, below, collecting⟩ := apart.during task _ phase
  have count := collecting.taken .count snapshot.count (by simp)
  have total := collecting.taken .sumUs snapshot.totalUs (by simp)
  have low := collecting.taken .minUs minUs (by simp)
  have high := collecting.taken .maxUs snapshot.maxUs (by simp)
  have resting : ∀ owner, Function.update books.phase task .resting owner = .resting := by
    intro owner
    by_cases own : owner = task
    · subst owner
      exact Function.update_self ..
    · rw [Function.update_of_ne own]
      exact others owner own
  have taken : ∀ cell, (books.accounts cell).taken = ↑(samplesOf state.history) := by
    intro cell
    have entries : ((samplesOf state.history : List _) : Multiset (Task × UInt64)) =
        (books.accounts cell).entries := by
      apply booked.entries
      intro owner
      by_cases own : owner = task
      · rw [own, phase]
        rfl
      · rw [others owner own]
        rfl
    have emptied : (books.accounts cell).pending = 0 := by
      cases cell with
      | sumUs => exact total.1
      | count => exact count.1
      | minUs => exact low.1
      | maxUs => exact high.1
    rw [entries, Account.entries, emptied, Multiset.add_zero]
  refine ⟨?_, ?_, ?_, ?_, ?_⟩
  · exact underway_returned state.history apart.listed rfl
  · intro owner held flushing
    exact absurd flushing (by simp [LatencyEvent.phase, resting owner])
  · intro _ first second
    exact (taken first).trans (taken second).symm
  · intro owner held flushing
    exact absurd flushing (by simp [LatencyEvent.phase, resting owner])
  · intro found member
    rcases List.mem_cons.mp member with newest | older
    · subst newest
      refine ⟨batch, below, ?_⟩
      simp only [summary, ← count.2, ← total.2, ← low.2, ← high.2, ← least]
    · exact apart.returned found older

end Steps

theorem Apart.step {before after : LatencyState Task × LatencyBooks Task} {task : Task} {β : Type}
    {op : LatencyOp β} {reply : β} (apart : Apart before.1 before.2)
    (booked : Booked before.1 before.2)
    (turn : op.InTurn (before.2.phase task)) (admitted : flushApart task op before.1 = true)
    (executed : before.1.exec task op = (reply, after.1))
    (kept : before.2.after task op reply = after.2) : Apart after.1 after.2 := by
  obtain ⟨state, books⟩ := before
  obtain ⟨next, later⟩ := after
  simp only at turn executed kept apart booked admitted ⊢
  subst later
  cases op with
  | fetch kind cell operand =>
      obtain ⟨elapsedUs, left, phase, _⟩ := turn
      obtain ⟨rfl, rfl⟩ := Prod.mk.inj executed
      simp only [LatencyBooks.after, phase, List.tail_cons]
      exact apart.fetch phase _
  | swap cell value =>
      obtain ⟨held, phase, once, _⟩ := turn
      obtain ⟨rfl, rfl⟩ := Prod.mk.inj executed
      simp only [LatencyBooks.after, phase]
      exact apart.swap booked phase once _
  | note event =>
      obtain ⟨_, rfl⟩ := Prod.mk.inj executed
      cases event with
      | called call =>
          cases call with
          | record elapsedUs => exact apart.recordCalled elapsedUs turn admitted
          | flush => exact apart.flushCalled booked admitted
      | recorded =>
          obtain ⟨elapsedUs, phase⟩ := turn
          exact apart.recorded phase
      | flushed snapshot =>
          obtain ⟨minUs, phase, least⟩ := turn
          exact apart.flushed booked phase least

theorem apart_reachable {config : Config LatencyOp Task (LatencyState Task)}
    (run : ((latencySystem Task).restrict flushApart).Reachable (latencyStart Task) config) :
    ∃ books, Apart config.shared books := by
  obtain ⟨books, watched⟩ := run.watched bookkeeping_total (LatencyBooks.opened Task)
  have kept : ∀ {choice task} {β : Type} {op : LatencyOp β} {before reply after},
    latencyDiscipline.inv before →
      latencyDiscipline.guard task op before → flushApart task op before.1 = true →
      ((latencySystem Task).watched bookkeeping).exec choice task op before = some (reply, after) →
      Apart before.1 before.2 → Apart after.1 after.2 := by
    intro choice task β op before reply after booked turn admitted executed apart
    obtain ⟨ran, noted⟩ := books_exec executed
    exact apart.step booked turn admitted ran noted
  exact ⟨books, (Discipline.Sound.invariant latency_calls kept latency_sound apart_start watched).2⟩

/-- A flush that overlaps no other call returns the summary of a batch of samples, and its
numbers agree with each other. -/
theorem snapshot_consistent {config : Config LatencyOp Task (LatencyState Task)}
    (run : ((latencySystem Task).restrict flushApart).Reachable (latencyStart Task) config)
    (few : config.shared.samples.length < 2 ^ 64)
    (small : (config.shared.samples.map UInt64.toNat).sum < 2 ^ 64) {snapshot : LatencySnapshot}
    (returned : snapshot ∈ config.shared.snapshots) : snapshot.SelfConsistent := by
  obtain ⟨books, apart⟩ := apart_reachable run
  obtain ⟨batch, below, rfl⟩ := apart.returned snapshot returned
  apply summary_consistent
  · have fewer := Multiset.card_le_card below
    simp only [Multiset.coe_card] at fewer
    simp only [LatencyState.samples, List.length_map] at few
    omega
  · obtain ⟨rest, split⟩ := Multiset.le_iff_exists_add.mp below
    have sums := congrArg (fun entries => (entries.map fun entry => entry.2.toNat).sum) split
    simp only [Multiset.map_add, Multiset.sum_add, Multiset.map_coe, Multiset.sum_coe] at sums
    simp only [LatencyState.samples, List.map_map, Function.comp_def] at small
    omega

-- Two records that overlap each other, and then a flush.
theorem snapshot_consistent_pair :
    ∃ config, ((latencySystem (Fin 3)).restrict flushApart).Reachable
      (latencyStart (Fin 3)) config ∧ config.shared.snapshots = [⟨2, 12, 5, 7⟩] ∧
        (⟨2, 12, 5, 7⟩ : LatencySnapshot).SelfConsistent := by
  have ran : (((latencySystem (Fin 3)).restrict flushApart).schedule (latencyStart (Fin 3))
      (.start 0 (.record 7) :: List.replicate 3 (.step 0 ()) ++
        .start 1 (.record 5) :: List.replicate 6 (.step 1 ()) ++ List.replicate 3 (.step 0 ()) ++
        .start 2 .flush :: List.replicate 6 (.step 2 ()))).any
          (fun config => config.shared.snapshots = [⟨2, 12, 5, 7⟩] ∧
            config.shared.samples = [5, 7]) = true := by
    decide +kernel
  obtain ⟨config, run, checked⟩ := System.schedule_finds ran
  obtain ⟨snapshots, samples⟩ := of_decide_eq_true checked
  refine ⟨config, run, snapshots, snapshot_consistent run ?_ ?_ ?_⟩
  · rw [samples]
    decide
  · rw [samples]
    decide
  · rw [snapshots]
    exact List.mem_singleton_self _

/--
A record of 7 has added to the sum when a first flush runs: no samples that total 7. It then
adds to the count, and a second flush runs: one sample, its least far above its largest.
-/
theorem snapshot_torn :
    ∃ config, (latencySystem Bool).Reachable (latencyStart Bool) config ∧
      config.shared.samples = [7] ∧ config.shared.snapshots = [⟨1, 0, u64Max, 0⟩, ⟨0, 7, 0, 0⟩] ∧
      ∀ snapshot ∈ config.shared.snapshots, ¬ snapshot.SelfConsistent := by
  have ran : ((latencySystem Bool).schedule (latencyStart Bool)
      (.start true (.record 7) :: List.replicate 2 (.step true ()) ++
        .start false .flush :: List.replicate 6 (.step false ()) ++ .step true () ::
        .start false .flush :: List.replicate 6 (.step false ()))).any
          (fun config => config.shared.samples = [7] ∧
            config.shared.snapshots = [⟨1, 0, u64Max, 0⟩, ⟨0, 7, 0, 0⟩]) = true := by
    decide +kernel
  obtain ⟨config, run, checked⟩ := System.schedule_finds ran
  obtain ⟨samples, snapshots⟩ := of_decide_eq_true checked
  refine ⟨config, run, samples, snapshots, ?_⟩
  rw [snapshots]
  decide

end Qlaster
