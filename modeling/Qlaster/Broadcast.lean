import Mathlib.Data.List.TakeDrop
import Mathlib.Algebra.GroupWithZero.Nat

/-!
A bounded broadcast channel seen by one receiver. Senders never wait: a value is kept at least
until as many others have been sent after it as the channel holds, and a receiver that comes too
late is told how many values it has missed and goes on with the oldest that is left. The channel
itself is a parameter; what is assumed of it is said in terms of what was sent and received.
-/

namespace Broadcast

inductive RecvError
  | lagged (skipped : Nat)
  | closed
  deriving DecidableEq, Repr

/-- A channel and one of its receivers, as a library has them. -/
structure Interface (α : Type) where
  State : Type
  -- The receiver has just subscribed to a channel of this capacity.
  opened : Nat → State
  send : State → α → State
  dropSenders : State → State
  -- `none` where the receiver waits.
  recv : State → Option (Except RecvError α × State)

/-! What the results of `recv` say together. -/

section
variable {α : Type}

def valueOf : Except RecvError α → Option α
  | .ok value => some value
  | .error _ => none

def lagOf : Except RecvError α → Option Nat
  | .error (.lagged skipped) => some skipped
  | _ => none

def values (log : List (Except RecvError α)) : List α := log.filterMap valueOf

def lags (log : List (Except RecvError α)) : List Nat := log.filterMap lagOf

def advance : Except RecvError α → Nat
  | .ok _ => 1
  | .error (.lagged skipped) => skipped
  | .error .closed => 0

def position (log : List (Except RecvError α)) : Nat := (log.map advance).sum

/-- The values received, each with its position among those sent, from a position on. -/
def places : Nat → List (Except RecvError α) → List (Nat × α)
  | _, [] => []
  | next, result :: log =>
      (valueOf result).toList.map (fun value => (next, value)) ++ places (next + advance result) log

theorem values_snoc (log : List (Except RecvError α)) (result : Except RecvError α) :
    values (log ++ [result]) = values log ++ (valueOf result).toList := by
  cases result <;> simp [values, valueOf]

theorem lags_snoc (log : List (Except RecvError α)) (result : Except RecvError α) :
    lags (log ++ [result]) = lags log ++ (lagOf result).toList := by
  rcases result with (skipped | _) | value <;> simp [lags, lagOf]

theorem position_snoc (log : List (Except RecvError α)) (result : Except RecvError α) :
    position (log ++ [result]) = position log + advance result := by
  simp [position]

theorem places_snoc (next : Nat) (log : List (Except RecvError α)) (result : Except RecvError α) :
    places next (log ++ [result]) =
      places next log ++ (valueOf result).toList.map fun value => (next + position log, value) := by
  induction log generalizing next with
  | nil => simp [places, position]
  | cons first log ih =>
      have moved : next + position (first :: log) = next + advance first + position log := by
        simp [position, Nat.add_assoc]
      rw [List.cons_append, places, ih, places, List.append_assoc, moved]

inductive Transcript (channel : Interface α) (capacity : Nat) :
    List α → Bool → List (Except RecvError α) → channel.State → Prop
  | opened : Transcript channel capacity [] false [] (channel.opened capacity)
  | send {sent log state} (value : α) (earlier : Transcript channel capacity sent false log state) :
      Transcript channel capacity (sent ++ [value]) false log (channel.send state value)
  | dropSenders {sent closed log state}
    (earlier : Transcript channel capacity sent closed log state) :
      Transcript channel capacity sent true log (channel.dropSenders state)
  | recv {sent closed log state result after}
    (earlier : Transcript channel capacity sent closed log state)
      (received : channel.recv state = some (result, after)) :
      Transcript channel capacity sent closed (log ++ [result]) after

/-- What `recv` may answer: the next value; that values were skipped, all of which have at least as
many behind them as the channel holds; or that nothing is left and nothing will come. -/
def Told (capacity : Nat) (sent : List α) (closed : Bool) (log : List (Except RecvError α)) :
    Except RecvError α → Prop
  | .ok value => sent[position log]? = some value
  | .error (.lagged skipped) => 0 < skipped ∧ position log + skipped + capacity ≤ sent.length
  | .error .closed => closed = true ∧ position log = sent.length

structure Interface.Lawful (channel : Interface α) : Prop where
  told : ∀ {capacity sent closed log state result after}, 0 < capacity →
    Transcript channel capacity sent closed log state → channel.recv state = some (result, after) →
    Told capacity sent closed log result
  waits : ∀ {capacity sent closed log state}, 0 < capacity →
    Transcript channel capacity sent closed log state →
    channel.recv state = none → closed = false ∧ position log = sent.length

/-! What follows. -/

/-- The results account for everything before the receiver's position. -/
structure Logged (capacity : Nat) (sent : List α) (closed : Bool)
    (log : List (Except RecvError α)) : Prop where
  within : position log ≤ sent.length
  ordered : (values log).Sublist (sent.take (position log))
  received : ∀ place ∈ places 0 log, sent[place.1]? = some place.2
  missed : ∀ index < position log, (∃ value, (index, value) ∈ places 0 log) ∨
    index + capacity < sent.length
  ended : .error .closed ∈ log → closed = true ∧ position log = sent.length

variable {capacity : Nat} {sent : List α} {closed : Bool} {log : List (Except RecvError α)}

theorem logged_opened (capacity : Nat) : Logged capacity ([] : List α) false [] := by
  constructor <;> simp [values, position, places]

theorem Logged.send (logged : Logged capacity sent false log) (value : α) :
    Logged capacity (sent ++ [value]) false log := by
  have within := logged.within
  refine ⟨?_, ?_, fun place member => ?_, fun index earlier => ?_, fun ended => ?_⟩
  · simp only [List.length_append]
    omega
  · simpa only [List.take_append_of_le_length within] using logged.ordered
  · have found := logged.received place member
    rw [List.getElem?_append_left (List.getElem?_eq_some_iff.mp found).1]
    exact found
  · refine (logged.missed index earlier).imp_right fun gone => ?_
    simp only [List.length_append]
    omega
  · cases (logged.ended ended).1

theorem Logged.dropSenders (logged : Logged capacity sent closed log) :
    Logged capacity sent true log :=
  { logged with ended := fun ended => ⟨rfl, (logged.ended ended).2⟩ }

theorem Logged.take {value : α} (logged : Logged capacity sent closed log)
    (found : sent[position log]? = some value) :
    Logged capacity sent closed (log ++ [.ok value]) := by
  have inside : position log < sent.length := (List.getElem?_eq_some_iff.mp found).1
  have placed : places 0 (log ++ [.ok value]) = places 0 log ++ [(position log, value)] := by
    simp [places_snoc, valueOf]
  refine ⟨?_, ?_, fun place member => ?_, fun index earlier => ?_, fun ended => ?_⟩
  · rwa [position_snoc]
  · simp only [position_snoc, advance, values_snoc, valueOf, Option.toList_some,
      List.take_add_one, found]
    exact logged.ordered.append (List.Sublist.refl _)
  · rw [placed] at member
    rcases List.mem_append.mp member with before | new
    · exact logged.received place before
    · rwa [List.mem_singleton.mp new]
  · rw [placed]
    rw [position_snoc] at earlier
    rcases Nat.lt_succ_iff_lt_or_eq.mp earlier with before | rfl
    · refine (logged.missed index before).imp_left (Exists.imp fun value member => ?_)
      exact List.mem_append_left _ member
    · exact .inl ⟨value, by simp⟩
  · have before : .error .closed ∈ log := by simpa using ended
    have last := (logged.ended before).2
    omega

theorem Logged.lag {skipped : Nat} (logged : Logged capacity sent closed log) (some : 0 < skipped)
    (gone : position log + skipped + capacity ≤ sent.length) :
    Logged capacity sent closed (log ++ [.error (.lagged skipped)]) := by
  have placed : places 0 (log ++ [.error (.lagged skipped)]) = places 0 log := by
    simp [places_snoc, valueOf]
  refine ⟨?_, ?_, ?_, fun index earlier => ?_, fun ended => ?_⟩
  · rw [position_snoc, advance]
    omega
  · simp only [position_snoc, advance, values_snoc, valueOf, Option.toList_none, List.append_nil]
    exact logged.ordered.trans (List.take_prefix_take_left (Nat.le_add_right _ _)).sublist
  · rw [placed]
    exact logged.received
  · rw [placed]
    rw [position_snoc, advance] at earlier
    by_cases before : index < position log
    · exact logged.missed index before
    · exact .inr (by omega)
  · have before : .error .closed ∈ log := by simpa using ended
    have last := (logged.ended before).2
    omega

theorem Logged.told {result : Except RecvError α} (logged : Logged capacity sent closed log)
    (told : Told capacity sent closed log result) :
    Logged capacity sent closed (log ++ [result]) := by
  rcases result with (skipped | _) | value
  · exact logged.lag told.1 told.2
  · have placed : places 0 (log ++ [.error .closed]) = places 0 log := by
      simp [places_snoc, valueOf]
    have same : values (log ++ [.error .closed]) = values log := by simp [values_snoc, valueOf]
    have still : position (log ++ [.error .closed]) = position log := position_snoc log _
    refine ⟨?_, ?_, ?_, ?_, fun _ => ?_⟩
    · rw [still]
      exact logged.within
    · rw [still, same]
      exact logged.ordered
    · rw [placed]
      exact logged.received
    · rw [still, placed]
      exact logged.missed
    · rw [still]
      exact told
  · exact logged.take told

section
variable {channel : Interface α} {state : channel.State} (lawful : channel.Lawful)
  (positive : 0 < capacity)
include lawful positive

theorem Transcript.logged (history : Transcript channel capacity sent closed log state) :
    Logged capacity sent closed log := by
  induction history with
  | opened => exact logged_opened capacity
  | send value _ ih => exact ih.send value
  | dropSenders _ ih => exact ih.dropSenders
  | recv earlier received ih => exact ih.told (lawful.told positive earlier received)

theorem Transcript.passes (history : Transcript channel capacity sent false log state)
    (all : position log = sent.length) (value : α) :
    ∃ after, channel.recv (channel.send state value) = some (.ok value, after) := by
  have later := history.send value
  have length : (sent ++ [value]).length = position log + 1 := by simp [all]
  cases answered : channel.recv (channel.send state value) with
  | none =>
      have last := (lawful.waits positive later answered).2
      omega
  | some answer =>
      obtain ⟨result, after⟩ := answer
      have told := lawful.told positive later answered
      rcases result with (skipped | _) | received
      · obtain ⟨some, gone⟩ := told
        omega
      · cases told.1
      · have found : (sent ++ [value])[position log]? = some received := told
        rw [all, List.getElem?_concat_length] at found
        obtain rfl := Option.some.inj found
        exact ⟨after, rfl⟩

end

end

/-! A channel that keeps just as many values as it must. -/

/-- Everything sent since the receiver subscribed, and the position of the receiver. -/
structure Queue (α : Type) where
  capacity : Nat
  sent : List α
  next : Nat
  -- All senders are gone.
  closed : Bool

namespace Queue

variable {α : Type}

def oldest (queue : Queue α) : Nat := queue.sent.length - queue.capacity

def recv (queue : Queue α) : Option (Except RecvError α × Queue α) :=
  if queue.next < queue.oldest then
    some (.error (.lagged (queue.oldest - queue.next)), { queue with next := queue.oldest })
  else
    match queue.sent[queue.next]? with
    | some value => some (.ok value, { queue with next := queue.next + 1 })
    | none => if queue.closed then some (.error .closed, queue) else none

end Queue

section
variable {α : Type}

def queue : Interface α where
  State := Queue α
  opened capacity := ⟨capacity, [], 0, false⟩
  send queue value := { queue with sent := queue.sent ++ [value] }
  dropSenders queue := { queue with closed := true }
  recv := Queue.recv

variable {capacity : Nat} {sent : List α} {closed : Bool} {log : List (Except RecvError α)}

theorem Queue.recv_told {queue after : Queue α} {result : Except RecvError α}
    (reached : queue.next = position log)
    (within : queue.next ≤ queue.sent.length) (received : queue.recv = some (result, after)) :
    Told queue.capacity queue.sent queue.closed log result ∧
      after = { queue with next := queue.next + advance result } := by
  simp only [Queue.recv] at received
  split at received
  · rename_i late
    obtain ⟨rfl, rfl⟩ := Prod.mk.inj (Option.some.inj received)
    refine ⟨⟨by omega, ?_⟩, ?_⟩
    · simp only [Queue.oldest] at late ⊢
      omega
    · rw [advance, Nat.add_sub_of_le (Nat.le_of_lt late)]
  · split at received
    · rename_i value found
      obtain ⟨rfl, rfl⟩ := Prod.mk.inj (Option.some.inj received)
      exact ⟨by rwa [reached] at found, rfl⟩
    · rename_i beyond
      split at received
      · rename_i closed
        obtain ⟨rfl, rfl⟩ := Prod.mk.inj (Option.some.inj received)
        refine ⟨⟨closed, ?_⟩, rfl⟩
        rw [← reached]
        exact Nat.le_antisymm within (List.getElem?_eq_none_iff.mp beyond)
      · simp at received

theorem queue_transcript {state : (queue : Interface α).State}
    (history : Transcript queue capacity sent closed log state) :
    state = (⟨capacity, sent, position log, closed⟩ : Queue α) ∧
      Logged capacity sent closed log := by
  induction history with
  | opened => exact ⟨rfl, logged_opened capacity⟩
  | send value _ ih =>
      obtain ⟨rfl, logged⟩ := ih
      exact ⟨rfl, logged.send value⟩
  | dropSenders _ ih =>
      obtain ⟨rfl, logged⟩ := ih
      exact ⟨rfl, logged.dropSenders⟩
  | recv _ received ih =>
      obtain ⟨rfl, logged⟩ := ih
      obtain ⟨told, rfl⟩ := Queue.recv_told rfl logged.within received
      refine ⟨?_, logged.told told⟩
      rw [position_snoc]

theorem queue_lawful : (queue : Interface α).Lawful where
  told _ history received := by
    obtain ⟨rfl, logged⟩ := queue_transcript history
    exact (Queue.recv_told rfl logged.within received).1
  waits _ history waiting := by
    obtain ⟨rfl, logged⟩ := queue_transcript history
    have stopped : Queue.recv _ = none := waiting
    simp only [Queue.recv] at stopped
    repeat' split at stopped
    all_goals simp only [reduceCtorEq] at stopped
    rename_i beyond opened
    exact ⟨by simpa using opened, Nat.le_antisymm logged.within (List.getElem?_eq_none_iff.mp beyond)⟩

end

end Broadcast
