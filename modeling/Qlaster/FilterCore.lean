import Mathlib.Data.List.Nodup
import Qlaster.TypesCore

/-! Subscription filters of `sender/mod.rs`, with the hash sets and the bloom they are built on. -/

namespace Qlaster

/-- `HashSet<Pubkey>`, listed in whatever order its iterator walks. -/
structure KeySet where
  items : List Pubkey
  nodup : items.Nodup
  deriving DecidableEq

def KeySet.empty : KeySet := ⟨[], List.nodup_nil⟩

def KeySet.insert (keys : KeySet) (key : Pubkey) : KeySet :=
  ⟨keys.items.insert key, keys.nodup.insert⟩

def KeySet.extend (keys : KeySet) (added : List Pubkey) : KeySet := added.foldl KeySet.insert keys

def KeySet.contains (keys : KeySet) (key : Pubkey) : Bool := decide (key ∈ keys.items)

def KeySet.len (keys : KeySet) : Nat := keys.items.length

def KeySet.isEmpty (keys : KeySet) : Bool := keys.items.isEmpty

/-- `(len == 1).then(|| *iter().next().expect(..))`. -/
def KeySet.single (keys : KeySet) : Option Pubkey := if keys.len = 1 then keys.items.head? else none

/-- A `solana_bloom` filter, by the arguments and the randomness it was made from and by what was
added. -/
structure Bloom where
  seed : Nat
  numItems : Nat
  falsePerThousand : Nat
  maxBits : Nat
  added : List Bytes
  deriving DecidableEq

def Bloom.random (seed numItems falsePerThousand maxBits : Nat) : Bloom :=
  ⟨seed, numItems, falsePerThousand, maxBits, []⟩

def Bloom.add (bloom : Bloom) (key : Bytes) : Bloom := { bloom with added := bloom.added ++ [key] }

def Bloom.addAll (bloom : Bloom) (keys : List Pubkey) : Bloom :=
  keys.foldl (fun bloom key => bloom.add key.bytes) bloom

abbrev BloomContains := Bloom → Bytes → Bool

/-- A bloom answers yes for every key added to it; for other keys it may answer either way. -/
def NoFalseNegatives (contains : BloomContains) : Prop :=
  ∀ bloom key, key ∈ bloom.added → contains bloom key = true

@[simp] theorem Bloom.mem_addAll (bloom : Bloom) (keys : List Pubkey) (key : Bytes) :
    key ∈ (bloom.addAll keys).added ↔ key ∈ bloom.added ∨ ∃ pubkey ∈ keys, pubkey.bytes = key := by
  induction keys generalizing bloom with
  | nil => simp [Bloom.addAll]
  | cons pubkey keys ih =>
      have unfolded : bloom.addAll (pubkey :: keys) = (bloom.add pubkey.bytes).addAll keys := rfl
      rw [unfolded, ih]
      simp [Bloom.add, or_assoc, eq_comm (a := key)]

/-- Built by `from_sets` only, so the derived fields always describe the two sets. -/
structure SubscriptionFilter where
  accountPubkeys : KeySet
  accountOwners : KeySet
  bloom : Bloom
  includeTransactions : Bool
  singlePubkey : Option Pubkey
  singleOwner : Option Pubkey
  useBloomFastReject : Bool
  singlePubkey_eq : singlePubkey = accountPubkeys.single
  singleOwner_eq : singleOwner = accountOwners.single
  covers_pubkeys : ∀ key ∈ accountPubkeys.items, key.bytes ∈ bloom.added
  covers_owners : ∀ key ∈ accountOwners.items, key.bytes ∈ bloom.added
  deriving DecidableEq

def SubscriptionFilter.fromSets (seed : Nat) (accountPubkeys accountOwners : KeySet)
    (includeTransactions : Bool) : SubscriptionFilter :=
  let requestedItems := accountPubkeys.len + accountOwners.len
  let bloom := Bloom.random seed (max requestedItems 1) 1 (1 <<< 20)
  {
    accountPubkeys
    accountOwners
    bloom := (bloom.addAll accountPubkeys.items).addAll accountOwners.items
    includeTransactions
    singlePubkey := accountPubkeys.single
    singleOwner := accountOwners.single
    useBloomFastReject := decide (16 < requestedItems)
    singlePubkey_eq := rfl
    singleOwner_eq := rfl
    covers_pubkeys :=
      fun key member => by simp only [Bloom.mem_addAll]; exact .inl (.inr ⟨key, member, rfl⟩)
    covers_owners :=
      fun key member => by simp only [Bloom.mem_addAll]; exact .inr ⟨key, member, rfl⟩
  }

def SubscriptionFilter.fromRequest (seed : Nat) (req : SubscriptionRequest) : SubscriptionFilter :=
  SubscriptionFilter.fromSets seed (KeySet.empty.extend req.accountPubkeys)
    (KeySet.empty.extend req.accountOwners) req.includeTransactions

def SubscriptionFilter.withRequest (filter : SubscriptionFilter) (seed : Nat)
    (req : SubscriptionRequest) : SubscriptionFilter :=
  SubscriptionFilter.fromSets seed (filter.accountPubkeys.extend req.accountPubkeys)
    (filter.accountOwners.extend req.accountOwners)
    (filter.includeTransactions || req.includeTransactions)

def SubscriptionFilter.matchesSets (contains : BloomContains) (filter : SubscriptionFilter)
    (update : AccountUpdate) : Bool :=
  let maybePubkey := contains filter.bloom update.accountPubkey.bytes
  let maybeOwner := contains filter.bloom update.accountOwner.bytes
  if filter.useBloomFastReject && (!maybePubkey && !maybeOwner) then false
  else filter.accountPubkeys.contains update.accountPubkey ||
    filter.accountOwners.contains update.accountOwner

def SubscriptionFilter.matchesAccount (contains : BloomContains) (filter : SubscriptionFilter)
    (update : AccountUpdate) : Bool :=
  match filter.singlePubkey, filter.singleOwner with
  | some pubkey, none =>
      if filter.accountOwners.isEmpty then decide (pubkey = update.accountPubkey)
      else filter.matchesSets contains update
  | none, some owner =>
      if filter.accountPubkeys.isEmpty then decide (owner = update.accountOwner)
      else filter.matchesSets contains update
  | some pubkey, some owner =>
      if filter.accountPubkeys.len = 1 && filter.accountOwners.len = 1 then
        decide (pubkey = update.accountPubkey) || decide (owner = update.accountOwner)
      else filter.matchesSets contains update
  | none, none => filter.matchesSets contains update

/-- Plain membership: what the filter is for. -/
def SubscriptionFilter.Subscribed (filter : SubscriptionFilter) (update : AccountUpdate) : Prop :=
  update.accountPubkey ∈ filter.accountPubkeys.items ∨
    update.accountOwner ∈ filter.accountOwners.items

instance (filter : SubscriptionFilter) (update : AccountUpdate) :
    Decidable (filter.Subscribed update) :=
  inferInstanceAs (Decidable (_ ∨ _))

def SubscriptionFilter.matchesTransaction (filter : SubscriptionFilter) : Bool :=
  filter.includeTransactions

end Qlaster
