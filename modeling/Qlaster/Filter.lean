import Mathlib.Data.List.Induction
import Qlaster.FilterCore

/-! The optimised filter answers exactly as membership in the subscribed sets does. -/

namespace Qlaster

@[simp] theorem KeySet.contains_iff (keys : KeySet) (key : Pubkey) :
    keys.contains key = true ↔ key ∈ keys.items := by
  simp [KeySet.contains]

@[simp] theorem KeySet.mem_extend (keys : KeySet) (added : List Pubkey) (key : Pubkey) :
    key ∈ (keys.extend added).items ↔ key ∈ keys.items ∨ key ∈ added := by
  induction added generalizing keys with
  | nil => simp [KeySet.extend]
  | cons first added ih =>
      have unfolded : keys.extend (first :: added) = (keys.insert first).extend added := rfl
      rw [unfolded, ih]
      simp only [KeySet.insert, List.mem_insert_iff, List.mem_cons]
      tauto

theorem KeySet.single_eq_some {keys : KeySet} {key : Pubkey} (alone : keys.single = some key) :
    keys.items = [key] := by
  unfold KeySet.single KeySet.len at alone
  split at alone
  · rename_i one
    obtain ⟨only, items⟩ := List.length_eq_one_iff.mp one
    rw [items] at alone ⊢
    simpa using alone
  · simp at alone

theorem SubscriptionFilter.matchesSets_subscribed {contains : BloomContains}
    {filter : SubscriptionFilter} {update : AccountUpdate}
    (matched : filter.matchesSets contains update = true) : filter.Subscribed update := by
  simp only [SubscriptionFilter.matchesSets] at matched
  split at matched
  · simp at matched
  · simpa [SubscriptionFilter.Subscribed] using matched

theorem SubscriptionFilter.matchesAccount_cases (contains : BloomContains)
    (filter : SubscriptionFilter) (update : AccountUpdate) :
    (filter.matchesAccount contains update = true ↔ filter.Subscribed update) ∨
      filter.matchesAccount contains update = filter.matchesSets contains update := by
  unfold SubscriptionFilter.matchesAccount
  split
  · rename_i pubkey _ onePubkey _
    rw [filter.singlePubkey_eq] at onePubkey
    split
    · rename_i noOwners
      have owners : filter.accountOwners.items = [] := by simpa [KeySet.isEmpty] using noOwners
      left
      simp [SubscriptionFilter.Subscribed, KeySet.single_eq_some onePubkey, owners, eq_comm]
    · exact .inr rfl
  · rename_i owner _ oneOwner
    rw [filter.singleOwner_eq] at oneOwner
    split
    · rename_i noPubkeys
      have pubkeys : filter.accountPubkeys.items = [] := by simpa [KeySet.isEmpty] using noPubkeys
      left
      simp [SubscriptionFilter.Subscribed, KeySet.single_eq_some oneOwner, pubkeys, eq_comm]
    · exact .inr rfl
  · rename_i pubkey owner onePubkey oneOwner
    rw [filter.singlePubkey_eq] at onePubkey
    rw [filter.singleOwner_eq] at oneOwner
    split
    · left
      simp [SubscriptionFilter.Subscribed, KeySet.single_eq_some onePubkey,
        KeySet.single_eq_some oneOwner, eq_comm (a := pubkey), eq_comm (a := owner)]
    · exact .inr rfl
  · exact .inr rfl

theorem SubscriptionFilter.matchesAccount_subscribed {contains : BloomContains}
    {filter : SubscriptionFilter} {update : AccountUpdate}
    (matched : filter.matchesAccount contains update = true) : filter.Subscribed update := by
  -- Whatever the bloom answers, only subscribed updates match.
  rcases filter.matchesAccount_cases contains update with same | same
  · exact same.mp matched
  · exact SubscriptionFilter.matchesSets_subscribed (same ▸ matched)

section
variable (contains : BloomContains) (complete : NoFalseNegatives contains)
include complete

theorem SubscriptionFilter.matchesSets_iff (filter : SubscriptionFilter) (update : AccountUpdate) :
    filter.matchesSets contains update = true ↔ filter.Subscribed update := by
  refine ⟨SubscriptionFilter.matchesSets_subscribed, fun subscribed => ?_⟩
  simp only [SubscriptionFilter.matchesSets]
  split
  · rename_i rejected
    simp only [Bool.and_eq_true, Bool.not_eq_true'] at rejected
    obtain ⟨_, noPubkey, noOwner⟩ := rejected
    rcases subscribed with member | member
    · rw [complete _ _ (filter.covers_pubkeys _ member)] at noPubkey
      contradiction
    · rw [complete _ _ (filter.covers_owners _ member)] at noOwner
      contradiction
  · simpa [SubscriptionFilter.Subscribed] using subscribed

theorem SubscriptionFilter.matchesAccount_iff (filter : SubscriptionFilter)
    (update : AccountUpdate) :
    filter.matchesAccount contains update = true ↔ filter.Subscribed update := by
  rcases filter.matchesAccount_cases contains update with same | same
  · exact same
  · rw [same]
    exact filter.matchesSets_iff contains complete update

end

/-- A subscription history: the requests a filter was built from, each with the bloom's randomness.
-/
abbrev History := List (Nat × SubscriptionRequest)

def SubscriptionFilter.ofHistory (seed : Nat) (first : SubscriptionRequest) (later : History) :
    SubscriptionFilter :=
  later.foldl (fun filter (seed, req) => filter.withRequest seed req)
    (SubscriptionFilter.fromRequest seed first)

/-- The filter holds what `requests` asked for and nothing else. -/
structure SubscriptionFilter.Holds (filter : SubscriptionFilter)
    (requests : List SubscriptionRequest) : Prop where
  pubkeys : ∀ key, key ∈ filter.accountPubkeys.items ↔ ∃ req ∈ requests, key ∈ req.accountPubkeys
  owners : ∀ key, key ∈ filter.accountOwners.items ↔ ∃ req ∈ requests, key ∈ req.accountOwners
  transactions :
    filter.includeTransactions = true ↔ ∃ req ∈ requests, req.includeTransactions = true

theorem SubscriptionFilter.fromRequest_holds (seed : Nat) (req : SubscriptionRequest) :
    (SubscriptionFilter.fromRequest seed req).Holds [req] := by
  constructor <;> simp [SubscriptionFilter.fromRequest, SubscriptionFilter.fromSets, KeySet.empty]

theorem SubscriptionFilter.Holds.withRequest {filter : SubscriptionFilter}
    {requests : List SubscriptionRequest} (holds : filter.Holds requests) (seed : Nat)
    (req : SubscriptionRequest) : (filter.withRequest seed req).Holds (requests ++ [req]) := by
  constructor
  · intro key
    simp [SubscriptionFilter.withRequest, SubscriptionFilter.fromSets, holds.pubkeys, or_and_right,
      exists_or]
  · intro key
    simp [SubscriptionFilter.withRequest, SubscriptionFilter.fromSets, holds.owners, or_and_right,
      exists_or]
  · simp [SubscriptionFilter.withRequest, SubscriptionFilter.fromSets, holds.transactions,
      or_and_right, exists_or]

theorem SubscriptionFilter.ofHistory_holds (seed : Nat) (first : SubscriptionRequest)
    (later : History) :
    (SubscriptionFilter.ofHistory seed first later).Holds (first :: later.map Prod.snd) := by
  -- Induction from the last request back, since `with_request` extends the filter at the end.
  induction later using List.reverseRecOn with
  | nil => exact SubscriptionFilter.fromRequest_holds seed first
  | append_singleton later last ih =>
      have extended := ih.withRequest last.1 last.2
      simpa [SubscriptionFilter.ofHistory] using extended

/--
Over every subscription history the filter matches an account update exactly when
some request named its pubkey or its owner, and transactions exactly when some
request asked for them. Two histories that name the same keys give filters that
answer alike, whatever the order, repetition or grouping of their requests.
-/
theorem filter_matches_history (contains : BloomContains) (complete : NoFalseNegatives contains)
    (seed : Nat) (first : SubscriptionRequest) (later : History) :
    let filter := SubscriptionFilter.ofHistory seed first later
    let requests := first :: later.map Prod.snd
    (∀ update, filter.matchesAccount contains update = true ↔
      (∃ req ∈ requests, update.accountPubkey ∈ req.accountPubkeys) ∨
      (∃ req ∈ requests, update.accountOwner ∈ req.accountOwners)) ∧
    (filter.matchesTransaction = true ↔ ∃ req ∈ requests, req.includeTransactions = true) ∧
    ∀ seed' first' later',
      let filter' := SubscriptionFilter.ofHistory seed' first' later'
      let requests' := first' :: List.map Prod.snd later'
      (∀ key, (∃ req ∈ requests, key ∈ req.accountPubkeys) ↔
        ∃ req ∈ requests', key ∈ req.accountPubkeys) →
      (∀ key, (∃ req ∈ requests, key ∈ req.accountOwners) ↔
        ∃ req ∈ requests', key ∈ req.accountOwners) →
      ((∃ req ∈ requests, req.includeTransactions = true) ↔
        ∃ req ∈ requests', req.includeTransactions = true) →
      (∀ update, filter.matchesAccount contains update = filter'.matchesAccount contains update) ∧
      filter.matchesTransaction = filter'.matchesTransaction := by
  intro filter requests
  have holds : filter.Holds requests := SubscriptionFilter.ofHistory_holds seed first later
  have account : ∀ update, filter.matchesAccount contains update = true ↔
      (∃ req ∈ requests, update.accountPubkey ∈ req.accountPubkeys) ∨
      (∃ req ∈ requests, update.accountOwner ∈ req.accountOwners) := by
    intro update
    rw [filter.matchesAccount_iff contains complete, SubscriptionFilter.Subscribed, holds.pubkeys,
      holds.owners]
  refine ⟨account, holds.transactions, ?_⟩
  intro seed' first' later' filter' requests' samePubkeys sameOwners sameTransactions
  have holds' : filter'.Holds requests' := SubscriptionFilter.ofHistory_holds seed' first' later'
  constructor
  · intro update
    rw [Bool.eq_iff_iff, account, filter'.matchesAccount_iff contains complete,
      SubscriptionFilter.Subscribed, holds'.pubkeys, holds'.owners, samePubkeys, sameOwners]
  · rw [Bool.eq_iff_iff]
    exact holds.transactions.trans (sameTransactions.trans holds'.transactions.symm)

def exactBloom : BloomContains := fun bloom key => decide (key ∈ bloom.added)

theorem exactBloom_complete : NoFalseNegatives exactBloom := by
  intro bloom key member
  simpa [exactBloom] using member

def repeatedKey (byte : UInt8) : Pubkey := ⟨List.replicate 32 byte, List.length_replicate⟩

def seventeenPubkeys : SubscriptionRequest where
  slotToken := none
  accountPubkeys := [1, 2, 3, 4, 5, 6, 7, 8, 9, 10, 11, 12, 13, 14, 15, 16, 17].map repeatedKey
  accountOwners := []
  includeTransactions := false

def oneOwner : SubscriptionRequest where
  slotToken := some ⟨0, 1⟩
  accountPubkeys := []
  accountOwners := [repeatedKey 1]
  includeTransactions := true

theorem filter_matches_history_bloom :
    let filter := SubscriptionFilter.ofHistory 0 seventeenPubkeys [(1, oneOwner)]
    NoFalseNegatives exactBloom ∧ filter.useBloomFastReject = true ∧
    ∀ update, filter.matchesAccount exactBloom update = true ↔
      (∃ req ∈ [seventeenPubkeys, oneOwner], update.accountPubkey ∈ req.accountPubkeys) ∨
      (∃ req ∈ [seventeenPubkeys, oneOwner], update.accountOwner ∈ req.accountOwners) :=
  ⟨exactBloom_complete, by decide +kernel,
    (filter_matches_history exactBloom exactBloom_complete 0 seventeenPubkeys [(1, oneOwner)]).1⟩

end Qlaster
