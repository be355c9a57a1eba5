import Mathlib.Data.List.Basic

/-!
A bounded queue whose oldest value makes room when a new one finds it full. Values are taken from
the front; what was not taken left because as many newer values had come as the queue holds.
-/

namespace DropOldest

variable {α : Type} {capacity : Nat} {entered taken queue : List α} {left : List (α × Bool)}

def push (capacity : Nat) (queue : List α) (value : α) : List α :=
  (if queue.length < capacity then queue else queue.tail) ++ [value]

theorem push_getLast? (capacity : Nat) (queue : List α) (value : α) :
    (push capacity queue value).getLast? = some value :=
  List.getLast?_concat

theorem push_sublist {earlier later : List α} (capacity : Nat) (value : α)
    (kept : (earlier ++ queue).Sublist later) :
    (earlier ++ push capacity queue value).Sublist (later ++ [value]) := by
  rw [push, ← List.append_assoc]
  refine List.Sublist.append ?_ (List.Sublist.refl _)
  refine List.Sublist.trans (List.Sublist.append (List.Sublist.refl _) ?_) kept
  split
  · exact List.Sublist.refl _
  · exact List.tail_sublist _

/-- What left the queue, marked by whether it was taken, and behind it what the queue holds. -/
structure Account (capacity : Nat) (entered taken queue : List α) (left : List (α × Bool)) :
    Prop where
  order : entered = left.map Prod.fst ++ queue
  read : taken = (left.filter Prod.snd).map Prod.fst
  bounded : queue.length ≤ capacity
  lost : ∀ n value, left[n]? = some (value, false) → n + capacity < entered.length

theorem Account.opened : Account capacity ([] : List α) [] [] [] :=
  ⟨rfl, rfl, Nat.zero_le _, fun n value found => by simp at found⟩

theorem Account.pop {value : α} {rest : List α}
    (account : Account capacity entered taken (value :: rest) left) :
    Account capacity entered (taken ++ [value]) rest (left ++ [(value, true)]) := by
  refine ⟨?_, ?_, Nat.le_of_succ_le account.bounded, fun n other found => ?_⟩
  · simpa using account.order
  · simp [account.read]
  · refine account.lost n other ?_
    rw [List.getElem?_append] at found
    split at found
    · exact found
    · simp only [List.getElem?_singleton] at found
      split at found <;> simp at found

theorem Account.push (holds : 0 < capacity) (account : Account capacity entered taken queue left)
    (value : α) :
    ∃ left, Account capacity (entered ++ [value]) taken (push capacity queue value) left := by
  have longer : (entered ++ [value]).length = entered.length + 1 := by simp
  unfold DropOldest.push
  split
  · rename_i room
    refine ⟨left, ?_, account.read, ?_, fun n other found => ?_⟩
    · rw [account.order, List.append_assoc]
    · rw [List.length_append, List.length_singleton]
      omega
    · have behind := account.lost n other found
      omega
  · rename_i full
    -- The oldest value leaves unread, with the whole capacity behind it.
    cases queue with
    | nil => exact absurd holds full
    | cons oldest rest =>
        have total := congrArg List.length account.order
        simp only [List.length_append, List.length_map, List.length_cons] at total full
        refine ⟨left ++ [(oldest, false)], ?_, ?_, ?_, fun n other found => ?_⟩
        · simp [account.order]
        · simp [account.read]
        · have bounded := account.bounded
          simpa using bounded
        · rw [List.getElem?_append] at found
          split at found
          · have behind := account.lost n other found
            omega
          · simp only [List.getElem?_singleton] at found
            split at found
            · omega
            · simp at found

end DropOldest
