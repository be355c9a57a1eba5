import Mathlib.Data.Multiset.Fold
import Mathlib.Data.Multiset.Filter

/-!
A cell that many callers add to and some empty. A contribution is combined into the cell; a
take leaves the unit there and carries off what had gathered. The account of a cell says whose
contributions are still in it, whose have been taken, and what the takes returned.
-/

namespace Accumulator

variable {Label α M : Type}

structure Gather (α M : Type) where
  combine : M → M → M
  unit : M
  weigh : α → M
  comm : ∀ left right, combine left right = combine right left
  assoc : ∀ first second third, combine (combine first second) third = combine
    first (combine second third)
  unit_right : ∀ value, combine value unit = value

namespace Gather

variable (gather : Gather α M)

instance : Std.Commutative gather.combine := ⟨gather.comm⟩

instance : Std.Associative gather.combine := ⟨gather.assoc⟩

def total (entries : Multiset (Label × α)) : M :=
  (entries.map fun entry => gather.weigh entry.2).fold gather.combine gather.unit

def sum (values : Multiset (Label × M)) : M :=
  (values.map Prod.snd).fold gather.combine gather.unit

theorem total_zero : gather.total (0 : Multiset (Label × α)) = gather.unit := rfl

theorem total_cons (label : Label) (amount : α) (entries : Multiset (Label × α)) :
    gather.total ((label, amount) ::ₘ entries) = gather.combine (gather.total entries)
      (gather.weigh amount) := by
  unfold total
  rw [Multiset.map_cons, Multiset.fold_cons_right]

theorem total_add (first second : Multiset (Label × α)) :
    gather.total (first + second) = gather.combine (gather.total first) (gather.total second) := by
  have split := Multiset.fold_add gather.combine gather.unit gather.unit
    (first.map fun entry => gather.weigh entry.2) (second.map fun entry => gather.weigh entry.2)
  rw [gather.unit_right, ← Multiset.map_add] at split
  exact split

theorem sum_cons (label : Label) (value : M) (values : Multiset (Label × M)) :
    gather.sum ((label, value) ::ₘ values) = gather.combine (gather.sum values) value := by
  unfold sum
  rw [Multiset.map_cons, Multiset.fold_cons_right]

end Gather

structure Account (Label α M : Type) where
  pending : Multiset (Label × α)
  taken : Multiset (Label × α)
  returned : Multiset (Label × M)

namespace Account

def opened : Account Label α M := ⟨0, 0, 0⟩

def add (account : Account Label α M) (label : Label) (amount : α) : Account Label α M :=
  { account with pending := (label, amount) ::ₘ account.pending }

def take (account : Account Label α M) (label : Label) (value : M) : Account Label α M where
  pending := 0
  taken := account.taken + account.pending
  returned := (label, value) ::ₘ account.returned

def entries (account : Account Label α M) : Multiset (Label × α) := account.taken + account.pending

@[simp] theorem entries_add (account : Account Label α M) (label : Label) (amount : α) :
    (account.add label amount).entries = (label, amount) ::ₘ account.entries := by
  simp only [entries, add, Multiset.add_cons]

@[simp] theorem entries_take (account : Account Label α M) (label : Label) (value : M) :
    (account.take label value).entries = account.entries := by
  simp only [entries, take, Multiset.add_zero]

/-- The cell holds what is pending, and the takes returned what is taken. -/
structure Balanced (gather : Gather α M) (value : M) (account : Account Label α M) : Prop where
  pending : value = gather.total account.pending
  taken : gather.sum account.returned = gather.total account.taken

variable {gather : Gather α M} {value : M} {account : Account Label α M}

theorem balanced_opened : Balanced gather gather.unit (opened : Account Label α M) := ⟨rfl, rfl⟩

theorem Balanced.add (balanced : Balanced gather value account) (label : Label) (amount : α) :
    Balanced gather (gather.combine value (gather.weigh amount)) (account.add label amount) := by
  refine ⟨?_, balanced.taken⟩
  rw [balanced.pending]
  exact (gather.total_cons label amount account.pending).symm

theorem Balanced.take (balanced : Balanced gather value account) (label : Label) :
    Balanced gather gather.unit (account.take label value) := by
  refine ⟨rfl, ?_⟩
  calc gather.sum ((label, value) ::ₘ account.returned)
      = gather.combine (gather.total account.taken) (gather.total account.pending) := by
        rw [gather.sum_cons, balanced.taken, balanced.pending]
    _ = gather.total (account.taken + account.pending) := (gather.total_add _ _).symm

theorem Balanced.conserved (balanced : Balanced gather value account) :
    gather.combine (gather.sum account.returned) value = gather.total account.entries := by
  rw [balanced.taken, balanced.pending]
  exact (gather.total_add _ _).symm

end Account

/-! The entries of one label among all. -/

variable [DecidableEq Label] {β : Type}

def share (label : Label) (entries : Multiset (Label × β)) : Multiset (Label × β) :=
  entries.filter fun entry => entry.1 = label

theorem share_cons_self (label : Label) (value : β) (entries : Multiset (Label × β)) :
    share label ((label, value) ::ₘ entries) = (label, value) ::ₘ share label entries :=
  Multiset.filter_cons_of_pos _ rfl

theorem share_cons_other {label other : Label} (different : other ≠ label) (value : β)
    (entries : Multiset (Label × β)) :
    share label ((other, value) ::ₘ entries) = share label entries :=
  Multiset.filter_cons_of_neg _ different

theorem eq_of_share {first second : Multiset (Label × β)}
    (same : ∀ label, share label first = share label second) : first = second := by
  classical
  ext entry
  have counted : ∀ entries : Multiset (Label × β),
      entries.count entry = (share entry.1 entries).count entry := by
    intro entries
    simp only [share, Multiset.count_filter, if_true]
  rw [counted first, counted second, same entry.1]

end Accumulator
