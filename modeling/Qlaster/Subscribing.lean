import Qlaster.Slots

/-!
`apply_request` loads the filter and stores a new one in two steps. A store that
comes between them is lost; without one nothing is.
-/

namespace Qlaster

open Interleaving Interleaving.Discipline

structure SubscriptionFilter.Includes (filter : SubscriptionFilter)
    (request : SubscriptionRequest) : Prop where
  pubkeys : request.accountPubkeys ⊆ filter.accountPubkeys.items
  owners : request.accountOwners ⊆ filter.accountOwners.items
  transactions : request.includeTransactions = true → filter.includeTransactions = true

structure SubscriptionFilter.Within (filter wider : SubscriptionFilter) : Prop where
  pubkeys : filter.accountPubkeys.items ⊆ wider.accountPubkeys.items
  owners : filter.accountOwners.items ⊆ wider.accountOwners.items
  transactions : filter.includeTransactions = true → wider.includeTransactions = true

section
variable {first second third filter : SubscriptionFilter}

theorem SubscriptionFilter.Within.refl (filter : SubscriptionFilter) : filter.Within filter :=
  ⟨List.Subset.refl _, List.Subset.refl _, id⟩

theorem SubscriptionFilter.Within.trans (narrow : first.Within second)
    (wide : second.Within third) : first.Within third :=
  ⟨List.Subset.trans narrow.pubkeys wide.pubkeys, List.Subset.trans narrow.owners wide.owners,
    fun asked => wide.transactions (narrow.transactions asked)⟩

theorem SubscriptionFilter.Includes.within {request : SubscriptionRequest}
    (included : first.Includes request) (wide : first.Within second) : second.Includes request :=
  ⟨List.Subset.trans included.pubkeys wide.pubkeys, List.Subset.trans included.owners wide.owners,
    fun asked => wide.transactions (included.transactions asked)⟩

theorem SubscriptionFilter.within_withRequest (filter : SubscriptionFilter) (seed : Nat)
    (request : SubscriptionRequest) : filter.Within (filter.withRequest seed request) := by
  constructor
  · intro key member
    simp [withRequest, fromSets, member]
  · intro key member
    simp [withRequest, fromSets, member]
  · intro asked
    simp [withRequest, fromSets, asked]

theorem SubscriptionFilter.withRequest_includes (filter : SubscriptionFilter) (seed : Nat)
    (request : SubscriptionRequest) : (filter.withRequest seed request).Includes request := by
  constructor
  · intro key member
    simp [withRequest, fromSets, member]
  · intro key member
    simp [withRequest, fromSets, member]
  · intro asked
    simp [withRequest, fromSets, asked]

end

/-- A store is admitted while its cell holds what the storing task has loaded from it. -/
def storesOntoLoaded (task : SenderTask) : {β : Type} → SenderOp β → SenderState → Bool
  | _, .manager (.storeFilter entry _), state =>
      match state.snapshots task with
      | some (cell, base) => decide (cell = entry.filter ∧ state.filters[cell]? = some base)
      | none => false
  | _, _, _ => true

/-! The shared filters on their own. -/

structure FilterCells where
  filters : List SubscriptionFilter
  stored : List (Nat × SubscriptionFilter)
  refreshed : List (SubscriptionRequest × ManagedConnection)

/-- What happens to the filters when every store replaces what was loaded for it. -/
inductive FilterCells.Step (cells : FilterCells) : FilterCells → Prop
  | idle : Step cells cells
  | create (filter : SubscriptionFilter) :
      Step cells { cells with filters := cells.filters ++ [filter] }
  | store (cell : Nat) (base : SubscriptionFilter) (current : cells.filters[cell]? = some base)
      (seed : Nat) (request : SubscriptionRequest) :
      Step cells { cells with
        filters := cells.filters.set cell (base.withRequest seed request)
        stored := (cell, base.withRequest seed request) :: cells.stored }
  | refresh (request : SubscriptionRequest) (entry : ManagedConnection) (base : SubscriptionFilter)
      (seed : Nat) (done : (entry.filter, base.withRequest seed request) ∈ cells.stored) :
      Step cells { cells with refreshed := (request, entry) :: cells.refreshed }

def FiltersGrow (before after : List SubscriptionFilter) : Prop :=
  ∀ (cell : Nat) (filter : SubscriptionFilter), before[cell]? = some filter →
    ∃ wider, after[cell]? = some wider ∧ filter.Within wider

theorem FiltersGrow.refl (filters : List SubscriptionFilter) : FiltersGrow filters filters :=
  fun _ filter found => ⟨filter, found, .refl filter⟩

theorem FiltersGrow.trans {first second third : List SubscriptionFilter}
    (early : FiltersGrow first second) (late : FiltersGrow second third) :
    FiltersGrow first third := by
  intro cell filter found
  obtain ⟨wider, found', within⟩ := early cell filter found
  obtain ⟨widest, found'', within'⟩ := late cell wider found'
  exact ⟨widest, found'', within.trans within'⟩

theorem FilterCells.Step.grow {before after : FilterCells} (step : FilterCells.Step before after) :
    FiltersGrow before.filters after.filters := by
  cases step with
  | idle => exact .refl _
  | create new =>
      intro cell filter found
      have bound := (List.getElem?_eq_some_iff.mp found).1
      exact ⟨filter, by rw [List.getElem?_append_left bound, found], .refl filter⟩
  | store cell base current seed request =>
      intro other filter found
      by_cases same : other = cell
      · subst same
        obtain rfl := Option.some.inj (found.symm.trans current)
        have bound := (List.getElem?_eq_some_iff.mp found).1
        exact ⟨_, List.getElem?_set_self bound, filter.within_withRequest seed request⟩
      · exact ⟨filter, by rw [List.getElem?_set_ne (Ne.symm same), found], .refl filter⟩
  | refresh request entry base seed done => exact .refl _

/-- Everything that was stored is still there, and so is what the finished calls asked for. -/
structure FilterCells.Kept (cells : FilterCells) : Prop where
  stored : ∀ cell filter, (cell, filter) ∈ cells.stored →
    ∃ wider, cells.filters[cell]? = some wider ∧ filter.Within wider
  refreshed : ∀ request entry, (request, entry) ∈ cells.refreshed →
    ∃ wider, cells.filters[entry.filter]? = some wider ∧ wider.Includes request

theorem FilterCells.Step.kept {before after : FilterCells} (step : FilterCells.Step before after)
    (kept : before.Kept) : after.Kept := by
  have grow := step.grow
  have stored : ∀ cell filter, (cell, filter) ∈ before.stored →
      ∃ wider, after.filters[cell]? = some wider ∧ filter.Within wider := by
    intro cell filter member
    obtain ⟨wider, found, within⟩ := kept.stored cell filter member
    obtain ⟨widest, found', within'⟩ := grow cell wider found
    exact ⟨widest, found', within.trans within'⟩
  have refreshed : ∀ request entry, (request, entry) ∈ before.refreshed →
      ∃ wider, after.filters[entry.filter]? = some wider ∧ wider.Includes request := by
    intro request entry member
    obtain ⟨wider, found, included⟩ := kept.refreshed request entry member
    obtain ⟨widest, found', within⟩ := grow entry.filter wider found
    exact ⟨widest, found', included.within within⟩
  cases step with
  | idle => exact ⟨stored, refreshed⟩
  | create new => exact ⟨stored, refreshed⟩
  | store cell base current seed request =>
      refine ⟨fun other filter member => ?_, refreshed⟩
      rcases List.mem_cons.mp member with new | old
      · obtain ⟨rfl, rfl⟩ := Prod.mk.inj new
        have bound := (List.getElem?_eq_some_iff.mp current).1
        exact ⟨_, List.getElem?_set_self bound, .refl _⟩
      · exact stored other filter old
  | refresh request entry base seed done =>
      refine ⟨stored, fun request' entry' member => ?_⟩
      rcases List.mem_cons.mp member with new | old
      · obtain ⟨rfl, rfl⟩ := Prod.mk.inj new
        obtain ⟨wider, found, within⟩ := stored _ _ done
        exact ⟨wider, found, (base.withRequest_includes seed request').within within⟩
      · exact refreshed request' entry' old

/-! The sender works on them. -/

def SenderState.filterCells (state : SenderState) : FilterCells :=
  ⟨state.filters, state.stored, state.refreshed⟩

section
variable {sender : Sender}

theorem exec_filterCells {choice : SenderChoice} {task : SenderTask} {β : Type} {op : SenderOp β}
    {before after : SenderState} {reply : β} (inv : SenderInv sender before)
    (guarded : senderGuard sender task op before)
    (admitted : storesOntoLoaded task op before = true)
    (executed : before.exec choice task op = some (reply, after)) :
    FilterCells.Step before.filterCells after.filterCells := by
  cases op with
  | channel address op =>
      obtain ⟨-, -, -, -, rfl⟩ := SenderState.execChannel_exec inv executed
      exact .idle
  | manager op =>
      simp only [SenderState.exec] at executed
      cases op with
      | storeFilter entry filter =>
          obtain ⟨-, base, seed, request, loaded, rfl⟩ := guarded
          simp only [storesOntoLoaded, loaded] at admitted
          simp only [SenderState.execManager, Option.some.injEq, Prod.mk.injEq] at executed
          obtain ⟨-, rfl⟩ := executed
          exact .store entry.filter base (of_decide_eq_true admitted).2 seed request
      | newFilter filter =>
          simp only [SenderState.execManager, Option.some.injEq, Prod.mk.injEq] at executed
          obtain ⟨-, rfl⟩ := executed
          exact .create filter
      | compareAndSwap index current new => cases inv.swap guarded executed <;> exact .idle
      | note note =>
          simp only [SenderState.execManager, Option.some.injEq, Prod.mk.injEq] at executed
          obtain ⟨-, rfl⟩ := executed
          cases note with
          | refreshed request entry =>
              obtain ⟨-, base, seed, done⟩ := guarded
              exact .refresh request entry base seed done
          | provisioned result => rcases result with _ | ⟨_ | _⟩ <;> exact .idle
          | lookupReturned _ _ => exact .idle
          | dispatchBegan _ => exact .idle
          | sinkClosed _ => exact .idle
      | _ =>
          simp only [SenderState.execManager] at executed
          repeat' split at executed
          all_goals simp only [reduceCtorEq, Option.some.injEq, Prod.mk.injEq] at executed
          all_goals obtain ⟨-, rfl⟩ := executed
          all_goals exact .idle

variable {files : List Path} {earlier later : Config SenderOp SenderTask SenderState}

/--
In every run in which each `filter.store` still finds the filter its task has loaded, a
connection's filter contains all that the finished calls with its token asked for, and
never loses anything it held.
-/
theorem subscriptions_kept
    (run : ((senderSystem sender).restrict storesOntoLoaded).Reachable (senderStart files) earlier)
    (onward : ((senderSystem sender).restrict storesOntoLoaded).Reachable earlier later) :
    (∀ request entry, (request, entry) ∈ later.shared.refreshed →
      ∃ filter, later.shared.filters[entry.filter]? = some filter ∧ filter.Includes request) ∧
    FiltersGrow earlier.shared.filters later.shared.filters := by
  have step : ∀ {choice task} {β : Type} {op : SenderOp β} {state reply after},
      SenderInv sender state → senderGuard sender task op state →
      storesOntoLoaded task op state = true → state.exec choice task op = some (reply, after) →
      state.filterCells.Kept → after.filterCells.Kept :=
    fun inv guarded admitted executed kept =>
      (exec_filterCells inv guarded admitted executed).kept kept
  have wider : ∀ {choice task} {β : Type} {op : SenderOp β} {state reply after},
      SenderInv sender state → senderGuard sender task op state →
      storesOntoLoaded task op state = true → state.exec choice task op = some (reply, after) →
      FiltersGrow earlier.shared.filters state.filters →
      FiltersGrow earlier.shared.filters after.filters :=
    fun inv guarded admitted executed grow =>
      grow.trans (exec_filterCells inv guarded admitted executed).grow
  have created : (SenderState.created files).filterCells.Kept := by
    constructor <;> simp [SenderState.created, SenderState.filterCells]
  obtain ⟨sound, kept⟩ := Sound.invariant senderCall_triple step
    (sender_sound sender files) created run
  obtain ⟨-, kept'⟩ := Sound.invariant senderCall_triple step sound kept onward
  obtain ⟨-, grown⟩ := Sound.invariant senderCall_triple wider sound (.refl _) onward
  exact ⟨kept'.refreshed, grown⟩

end

def sampleEntry : ManagedConnection :=
  let slot : SlotIndex := ⟨0, by decide⟩
  ⟨slot, 1, 0, ⟨0, 128, sampleSender.ringPath slot 1⟩⟩

def moreKeys (byte : UInt8) : SubscriptionRequest := ⟨some ⟨0, 1⟩, [repeatedKey byte], [], false⟩

theorem subscriptions_kept_twice :
    ∃ earlier later,
      ((senderSystem sampleSender).restrict storesOntoLoaded).Reachable (senderStart []) earlier ∧
      ((senderSystem sampleSender).restrict storesOntoLoaded).Reachable earlier later ∧
      (∀ request entry, (request, entry) ∈ later.shared.refreshed →
        ∃ filter, later.shared.filters[entry.filter]? = some filter ∧ filter.Includes request) ∧
      FiltersGrow earlier.shared.filters later.shared.filters ∧
      (moreKeys 1, sampleEntry) ∈ later.shared.refreshed ∧
      (moreKeys 2, sampleEntry) ∈ later.shared.refreshed := by
  have ran : (((senderSystem sampleSender).restrict storesOntoLoaded).schedule (senderStart [])
      ([.start (.handler 0) (.subscribe sampleRequest)] ++ takes (.handler 0) 15)).any
        (fun earlier =>
        (((senderSystem sampleSender).restrict storesOntoLoaded).schedule earlier
          ([.start (.handler 1) (.subscribe (moreKeys 1))] ++ takes (.handler 1) 13 ++
            [.start (.handler 2) (.subscribe (moreKeys 2))] ++ takes (.handler 2) 13)).any
              (fun later =>
              (moreKeys 1, sampleEntry) ∈ later.shared.refreshed ∧
              (moreKeys 2, sampleEntry) ∈ later.shared.refreshed)) = true := by
    decide +kernel
  obtain ⟨earlier, run, continues⟩ := System.schedule_finds ran
  obtain ⟨later, onward, checked⟩ := System.schedule_finds continues
  obtain ⟨included, grown⟩ := subscriptions_kept run onward
  exact ⟨earlier, later, run, onward, included, grown, of_decide_eq_true checked⟩

/-- Two calls with the token of one connection load the same filter; the second store wins. -/
theorem subscription_lost :
    ∃ config, (senderSystem sampleSender).Reachable (senderStart []) config ∧
      config.shared.connections sampleEntry.slotIndex = some sampleEntry ∧
      (moreKeys 1, sampleEntry) ∈ config.shared.refreshed ∧
      (moreKeys 2, sampleEntry) ∈ config.shared.refreshed ∧
      config.pool (.handler 1) = .done () ∧ config.pool (.handler 2) = .done () ∧
      ∃ filter, config.shared.filters[sampleEntry.filter]? = some filter ∧
        ¬ filter.Includes (moreKeys 2) := by
  have ran : ((senderSystem sampleSender).schedule (senderStart [])
      ([.start (.handler 0) (.subscribe sampleRequest)] ++ takes (.handler 0) 15 ++
        [.start (.handler 1) (.subscribe (moreKeys 1))] ++ takes (.handler 1) 9 ++
        [.start (.handler 2) (.subscribe (moreKeys 2))] ++ takes (.handler 2) 13 ++
        takes (.handler 1) 4)).any (fun config =>
          config.shared.connections sampleEntry.slotIndex = some sampleEntry ∧
          (moreKeys 1, sampleEntry) ∈ config.shared.refreshed ∧
          (moreKeys 2, sampleEntry) ∈ config.shared.refreshed ∧
          (config.pool (.handler 1)).isDone ∧ (config.pool (.handler 2)).isDone ∧
          (config.shared.filters[sampleEntry.filter]?).any fun filter =>
            repeatedKey 2 ∉ filter.accountPubkeys.items) = true := by
    decide +kernel
  obtain ⟨config, run, checked⟩ := System.schedule_finds ran
  obtain ⟨installed, first, second, done, done', lacks⟩ := of_decide_eq_true checked
  obtain ⟨filter, found, missing⟩ := (Option.any_eq_true _ _).mp lacks
  refine ⟨config, run, installed, first, second, Program.eq_done done,
    Program.eq_done done', filter, found, fun included => ?_⟩
  exact of_decide_eq_true missing (included.pubkeys (by simp [moreKeys]))

end Qlaster
