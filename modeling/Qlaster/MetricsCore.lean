import Qlaster.Program

/-!
`LatencyAggregator` of `metrics.rs`: four atomic words that `record` adds to one after the
other and `flush` empties one after the other. A history of calls and results is kept beside
them.
-/

namespace Qlaster

open Interleaving

def u64Max : UInt64 := 18446744073709551615

inductive LatencyCell
  | sumUs
  | count
  | minUs
  | maxUs
  deriving DecidableEq, Repr

structure LatencyAggregator where
  sumUs : UInt64
  count : UInt64
  minUs : UInt64
  maxUs : UInt64
  deriving DecidableEq, Repr

namespace LatencyAggregator

def default : LatencyAggregator where
  sumUs := 0
  count := 0
  minUs := u64Max
  maxUs := 0

def get (aggregator : LatencyAggregator) : LatencyCell → UInt64
  | .sumUs => aggregator.sumUs
  | .count => aggregator.count
  | .minUs => aggregator.minUs
  | .maxUs => aggregator.maxUs

def set (aggregator : LatencyAggregator) (cell : LatencyCell) (value : UInt64) :
    LatencyAggregator :=
  match cell with
  | .sumUs => { aggregator with sumUs := value }
  | .count => { aggregator with count := value }
  | .minUs => { aggregator with minUs := value }
  | .maxUs => { aggregator with maxUs := value }

end LatencyAggregator

structure LatencySnapshot where
  count : UInt64
  totalUs : UInt64
  minUs : UInt64
  maxUs : UInt64
  deriving DecidableEq, Repr

def LatencySnapshot.avgUs (snapshot : LatencySnapshot) : UInt64 :=
  if snapshot.count = 0 then 0 else snapshot.totalUs / snapshot.count

inductive LatencyCall
  | record (elapsedUs : UInt64)
  | flush
  deriving DecidableEq, Repr

inductive LatencyEvent
  | called (call : LatencyCall)
  | recorded
  | flushed (snapshot : LatencySnapshot)
  deriving DecidableEq, Repr

/-- The read-modify-write operations of `AtomicU64` that `record` uses. -/
inductive FetchKind
  | add
  | min
  | max
  deriving DecidableEq, Repr

def FetchKind.apply : FetchKind → UInt64 → UInt64 → UInt64
  | .add, old, operand => old + operand
  | .min, old, operand => Min.min old operand
  | .max, old, operand => Max.max old operand

inductive LatencyOp : Type → Type
  | fetch (kind : FetchKind) (cell : LatencyCell) (operand : UInt64) : LatencyOp UInt64
  | swap (cell : LatencyCell) (value : UInt64) : LatencyOp UInt64
  | note (event : LatencyEvent) : LatencyOp Unit

def LatencyAggregator.record (elapsedUs : UInt64) : Program LatencyOp Unit := do
  let _ ← .perform (.fetch .add .sumUs elapsedUs)
  let _ ← .perform (.fetch .add .count 1)
  let _ ← .perform (.fetch .min .minUs elapsedUs)
  let _ ← .perform (.fetch .max .maxUs elapsedUs)

def LatencyAggregator.flush : Program LatencyOp LatencySnapshot := do
  let count ← .perform (.swap .count 0)
  let totalUs ← .perform (.swap .sumUs 0)
  let minUs ← .perform (.swap .minUs u64Max)
  let maxUs ← .perform (.swap .maxUs 0)
  return { count, totalUs, minUs := if count = 0 then 0 else minUs, maxUs }

def latencyProgram : LatencyCall → Program LatencyOp Unit
  | .record elapsedUs => do
      .perform (.note (.called (.record elapsedUs)))
      LatencyAggregator.record elapsedUs
      .perform (.note .recorded)
  | .flush => do
      .perform (.note (.called .flush))
      let snapshot ← LatencyAggregator.flush
      .perform (.note (.flushed snapshot))

structure LatencyState (Task : Type) where
  aggregator : LatencyAggregator
  -- Calls and results, newest first.
  history : List (Task × LatencyEvent)

namespace LatencyState

variable {Task : Type}

def exec (task : Task) : {β : Type} → LatencyOp β → LatencyState Task → β × LatencyState Task
  | _, .fetch kind cell operand, state =>
      let old := state.aggregator.get cell
      (old, { state with aggregator := state.aggregator.set cell (kind.apply old operand) })
  | _, .swap cell value, state =>
      (state.aggregator.get cell, { state with aggregator := state.aggregator.set cell value })
  | _, .note event, state => ((), { state with history := (task, event) :: state.history })

end LatencyState

def samplesOf {Task : Type} (history : List (Task × LatencyEvent)) : List (Task × UInt64) :=
  history.filterMap fun entry =>
    match entry.2 with
    | .called (.record elapsedUs) => some (entry.1, elapsedUs)
    | _ => none

def snapshotsOf {Task : Type} (history : List (Task × LatencyEvent)) :
    List (Task × LatencySnapshot) :=
  history.filterMap fun entry =>
    match entry.2 with
    | .flushed snapshot => some (entry.1, snapshot)
    | _ => none

def underway {Task : Type} [DecidableEq Task] : List (Task × LatencyEvent) →
    List (Task × LatencyCall)
  | [] => []
  | (task, .called call) :: earlier => (task, call) :: underway earlier
  | (task, _) :: earlier => (underway earlier).filter fun entry => entry.1 != task

namespace LatencyState

variable {Task : Type}

def samples (state : LatencyState Task) : List UInt64 := (samplesOf state.history).map Prod.snd

def snapshots (state : LatencyState Task) : List LatencySnapshot :=
  (snapshotsOf state.history).map Prod.snd

end LatencyState

/-- Any number of tasks, each with any number of calls. -/
def latencySystem (Task : Type) : System LatencyOp Task (LatencyState Task) Unit LatencyCall where
  exec _ task _ op state := some (state.exec task op)
  program := latencyProgram
  mayStart _ _ := true

def latencyStart (Task : Type) : Config LatencyOp Task (LatencyState Task) where
  shared := { aggregator := .default, history := [] }
  pool _ := .done ()

/-- A `flush` begins only when no call is underway, and no call begins during a `flush`. -/
def flushApart {Task : Type} [DecidableEq Task] (_ : Task) : {β : Type} → LatencyOp β →
    LatencyState Task → Bool
  | _, .note (.called .flush), state => (underway state.history).isEmpty
  | _, .note (.called (.record _)), state =>
    (underway state.history).all fun entry => entry.2 != .flush
  | _, _, _ => true

/-- What a reader expects of the numbers in one snapshot. -/
def LatencySnapshot.SelfConsistent (snapshot : LatencySnapshot) : Prop :=
  if snapshot.count = 0 then snapshot.totalUs = 0 ∧ snapshot.maxUs = 0
  else snapshot.minUs ≤ snapshot.maxUs ∧
    snapshot.count.toNat * snapshot.minUs.toNat ≤ snapshot.totalUs.toNat ∧
    snapshot.totalUs.toNat ≤ snapshot.count.toNat * snapshot.maxUs.toNat ∧
    snapshot.minUs ≤ snapshot.avgUs ∧ snapshot.avgUs ≤ snapshot.maxUs

instance (snapshot : LatencySnapshot) : Decidable snapshot.SelfConsistent := by
  unfold LatencySnapshot.SelfConsistent
  infer_instance

end Qlaster
