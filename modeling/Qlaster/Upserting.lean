import Qlaster.Evicting

/-!
The upserts: refreshing the filter of a connection that exists, and making a ring
and installing a connection on it.
-/

namespace Qlaster

open Interleaving Interleaving.Discipline

def Belongings.claiming (own : Belongings) (ordinal : Nat) : Belongings :=
  { own with claim := some ordinal }

def Belongings.making (own : Belongings) (fresh : Option Nat) :
    Belongings := { own with fresh := fresh }

def Belongings.settled (own : Belongings) : Belongings := { own with claim := none, fresh := none }

/-- What `upsert_shm` hands out describes a connection that was installed. -/
def Provisioned (result : Except QlasterError ShmSlotProvision) (state : SenderState) : Prop :=
  match result with
  | .ok (.created token path _ eventfd) => ∃ entry ∈ state.installed, entry.address = eventfd ∧
      slotToken entry = token ∧ entry.sink.path = path
  | _ => True

section
variable {sender : Sender} {task : SenderTask}

theorem Provisioned.grows {result : Except QlasterError ShmSlotProvision}
    {before after : SenderState} (holds : Provisioned result before) (grows : Grows before after) :
    Provisioned result after := by
  match result with
  | .ok (.created token path capacity eventfd) =>
      obtain ⟨entry, member, found⟩ := holds
      exact ⟨entry, grows.installed.subset member, found⟩
  | .ok (.existing _) => trivial
  | .error _ => trivial

theorem provisioned_persistent (result : Except QlasterError ShmSlotProvision) :
    (sending sender).Persistent (Provisioned result) :=
  sending_persistent fun _ _ grows holds => holds.grows grows

theorem filterMade_persistent (cell : Nat) :
    (sending sender).Persistent fun state => cell < state.filters.length :=
  sending_persistent fun _ _ grows made => made.trans_le grows.filters

theorem stored_persistent (store : Nat × SubscriptionFilter) :
    (sending sender).Persistent fun state => store ∈ state.stored :=
  sending_persistent fun _ _ grows member => grows.stored member

/-! Refreshing a filter. -/

variable {connection : Nat}

theorem handler_sends (connection : Nat) : Sends (.handler connection) := trivial

theorem loadFilter_triple (own : Belongings) (entry : ManagedConnection) :
    (sending sender).Triple (.handler connection) (Owns (.handler connection) own {})
      (ask (.loadFilter entry)) fun filter state => Owns (.handler connection) own {} state ∧
        state.snapshots (.handler connection) = some (entry.filter, filter) := by
  refine ask_triple (owns_stable own {}) (fun filter => ?_) (fun _ _ _ => trivial) ?_
  · exact Stable.and (owns_stable own {})
      (sending_stable fun _ _ untouched _ loaded => untouched.snapshots.trans loaded)
  · intro choice state filter after _ owns executed
    simp only [SenderState.execManager] at executed
    split at executed
    · simp at executed
    · simp only [Option.some.injEq, Prod.mk.injEq] at executed
      obtain ⟨rfl, rfl⟩ := executed
      exact ⟨⟨owns.claim, owns.fresh, owns.held, owns.current, owns.creating,
        owns.dying, owns.paid⟩, by simp⟩

theorem storeFilter_triple (own : Belongings) (entry : ManagedConnection)
    (current : SubscriptionFilter) (seed : Nat) (request : SubscriptionRequest) :
    (sending sender).Triple (.handler connection)
      (fun state => (Owns (.handler connection) own {} state ∧ entry ∈ state.installed) ∧
        state.snapshots (.handler connection) = some (entry.filter, current))
      (ask (.storeFilter entry (current.withRequest seed request))) fun _ state =>
        (Owns (.handler connection) own {} state ∧ entry ∈ state.installed) ∧
          (entry.filter, current.withRequest seed request) ∈ state.stored := by
  have installed : (sending sender).Stable (.handler connection) fun state =>
      Owns (.handler connection) own {} state ∧ entry ∈ state.installed :=
    Stable.and (owns_stable own {}) (installed_persistent entry).stable
  refine ask_triple ?_ (fun _ => ?_) ?_ ?_
  · exact Stable.and installed
      (sending_stable fun _ _ untouched _ loaded => untouched.snapshots.trans loaded)
  · exact Stable.and installed (stored_persistent _).stable
  · exact fun state inv holds =>
      ⟨inv.described.filter entry holds.1.2, current, seed, request, holds.2, rfl⟩
  · rintro choice state reply after - ⟨⟨owns, member⟩, -⟩ executed
    simp only [SenderState.execManager, Option.some.injEq, Prod.mk.injEq] at executed
    obtain ⟨-, rfl⟩ := executed
    exact ⟨⟨⟨owns.claim, owns.fresh, owns.held, owns.current, owns.creating, owns.dying, owns.paid⟩,
      member⟩, List.mem_cons_self ..⟩

theorem applyRequest_triple (own : Belongings) (entry : ManagedConnection)
    (request : SubscriptionRequest) :
    (sending sender).Triple (.handler connection)
      (fun state => Owns (.handler connection) own {} state ∧ entry ∈ state.installed)
      (applyRequest entry request) fun _ state => ∃ base seed,
        (Owns (.handler connection) own {} state ∧ entry ∈ state.installed) ∧
          (entry.filter, SubscriptionFilter.withRequest base seed request) ∈ state.stored := by
  refine triple_bind ((loadFilter_triple own entry).persist (installed_persistent entry))
    fun current => ?_
  have quiet : (sending sender).Triple (.handler connection)
      (fun state => (Owns (.handler connection) own {} state ∧
        state.snapshots (.handler connection) = some (entry.filter, current)) ∧
          entry ∈ state.installed)
      (ask .bloomSeed) fun _ state =>
        (Owns (.handler connection) own {} state ∧ entry ∈ state.installed) ∧
          state.snapshots (.handler connection) = some (entry.filter, current) := by
    have loaded : (sending sender).Stable (.handler connection) fun state =>
        Owns (.handler connection) own {} state ∧
          state.snapshots (.handler connection) = some (entry.filter, current) :=
      Stable.and (owns_stable own {})
        (sending_stable fun _ _ untouched _ loaded => untouched.snapshots.trans loaded)
    exact triple_weaken
      ((harmless_keeps .bloomSeed trivial loaded).persist (installed_persistent entry))
      (fun _ _ holds => holds) fun _ _ _ holds => ⟨⟨holds.1.1, holds.2⟩, holds.1.2⟩
  refine triple_bind quiet fun seed => ?_
  exact triple_weaken (storeFilter_triple own entry current seed request) (fun _ _ holds => holds)
    fun _ _ _ holds => ⟨current, seed, holds⟩

/-! Making a ring. -/

theorem newFilter_triple (own : Belongings) (filter : SubscriptionFilter) :
    (sending sender).Triple task (Owns task own {}) (ask (.newFilter filter)) fun cell state =>
      Owns task own {} state ∧ cell < state.filters.length := by
  refine ask_triple (owns_stable own {}) (fun cell => ?_) (fun _ _ _ => trivial) ?_
  · exact Stable.and (owns_stable own {}) (filterMade_persistent cell).stable
  · intro choice state cell after _ owns executed
    simp only [SenderState.execManager, Option.some.injEq, Prod.mk.injEq] at executed
    obtain ⟨rfl, rfl⟩ := executed
    exact ⟨⟨owns.claim, owns.fresh, owns.held, owns.current, owns.creating, owns.dying, owns.paid⟩,
      by simp⟩

theorem fetchAddConnectionId_triple {own : Belongings} (unclaimed : own.claim = none) :
    (sending sender).Triple task (Owns task own {}) (ask .fetchAddConnectionId)
      fun connectionId state => ∃ ordinal, Owns task (own.claiming ordinal) {} state ∧
        connectionId = UInt64.ofNat (ordinal + 1) := by
  refine ask_triple (owns_stable own {}) (fun connectionId => ?_) ?_ ?_
  · exact Stable.exists fun ordinal => Stable.and (owns_stable _ _) (Stable.const _)
  · exact fun state _ owns => owns.claim.trans unclaimed
  · intro choice state connectionId after inv owns executed
    simp only [SenderState.execManager, Option.some.injEq, Prod.mk.injEq] at executed
    obtain ⟨rfl, rfl⟩ := executed
    exact ⟨state.issued, ⟨by simp [Belongings.claiming], owns.fresh, owns.held, owns.current,
      owns.creating, owns.dying, owns.paid⟩, inv.described.counted⟩

theorem createNew_triple {own : Belongings} {ordinal : Nat} (claimed : own.claim = some ordinal)
    {path : Path} {index : SlotIndex}
    (named : path = sender.ringPath index (UInt64.ofNat (ordinal + 1))) :
    (sending sender).Triple task (Owns task own {}) (ask (.createNew path)) fun reply =>
      Owns task own { creating := match reply with | .ok _ => some path | .error _ => none } := by
  refine ask_triple (owns_stable own {}) (fun _ => owns_stable _ _) ?_ ?_
  · exact fun state _ owns => ⟨ordinal, index, owns.claim.trans claimed, named⟩
  · intro choice state reply after _ owns executed
    simp only [SenderState.execManager] at executed
    repeat' split at executed
    all_goals simp only [Option.some.injEq, Prod.mk.injEq] at executed
    all_goals obtain ⟨rfl, rfl⟩ := executed
    · exact owns
    · exact owns
    · exact ⟨owns.claim, owns.fresh, owns.held, owns.current, by simp, owns.dying, owns.paid⟩

theorem removeFile_triple (own : Belongings) (path : Path) :
    (sending sender).Triple task (Owns task own { creating := some path }) (ask (.removeFile path))
      fun _ => Owns task own {} := by
  refine ask_triple (owns_stable _ _) (fun _ => owns_stable _ _) (fun _ _ owns => owns.creating) ?_
  intro choice state reply after _ owns executed
  simp only [SenderState.execManager, Option.some.injEq, Prod.mk.injEq] at executed
  obtain ⟨-, rfl⟩ := executed
  exact ⟨owns.claim, owns.fresh, owns.held, owns.current, by simp, owns.dying, owns.paid⟩

theorem panicked_triple (own : Belongings) (busy : Busy) :
    (sending sender).Triple task (Owns task own busy) (ask .panicked) fun _ _ => False :=
  ask_triple (owns_stable own busy) (fun _ => Stable.const _) (fun _ _ _ => trivial)
    fun _ _ _ _ _ _ executed => by simp [SenderState.execManager] at executed

def QueueMade (task : SenderTask) (own : Belongings) (path : Path) (capacity : Nat)
    (reply : Except String Nat) (state : SenderState) : Prop :=
  match reply with
  | .ok address => Owns task ((own.making (some address)).plus address) {} state ∧
      RingAt ⟨address, capacity, path⟩ state
  | .error _ => Owns task own { creating := some path } state

theorem createQueue_triple (own : Belongings) (path : Path) (capacity : Nat) :
    (sending sender).Triple task (Owns task own { creating := some path })
      (ask (.createQueue path capacity)) (QueueMade task own path capacity) := by
  refine ask_triple (owns_stable _ _) (fun reply => ?_) (fun _ _ owns => owns.creating) ?_
  · cases reply with
    | ok address => exact Stable.and (owns_stable _ _) (ringAt_persistent _).stable
    | error text => exact owns_stable _ _
  · intro choice state reply after _ owns executed
    simp only [SenderState.execManager] at executed
    split at executed <;> simp only [Option.some.injEq, Prod.mk.injEq] at executed <;>
      obtain ⟨rfl, rfl⟩ := executed
    · exact owns
    · refine ⟨⟨owns.claim, by simp [Belongings.making, Belongings.plus], ?_, owns.current, by simp,
        owns.dying, fun address clear => ?_⟩, by simp, by simp⟩
      · exact (heldBy_cons_self _ _ _).trans (congrArg (state.allocated :: ·) owns.held)
      · by_cases same : address = state.allocated
        · simp [same, Channel.created]
        · simpa only [ne_eq, same, not_false_eq_true, Function.update_of_ne] using
            owns.paid address (by simp)

def RingMade (task : SenderTask) (own : Belongings) (path : Path)
    (result : Except QlasterError ShmRingProducer) (state : SenderState) : Prop :=
  match result with
  | .ok ring => (Owns task ((own.making (some ring.address)).plus ring.address) {} state ∧
      RingAt ring state) ∧ ring.path = path
  | .error _ => Owns task own {} state

theorem createRing_triple {own : Belongings} {ordinal : Nat} (claimed : own.claim = some ordinal)
    {display : Path → String} {path : Path} {index : SlotIndex}
    (named : path = sender.ringPath index (UInt64.ofNat (ordinal + 1))) (capacity : Nat) :
    (sending sender).Triple task (Owns task own {}) (createRing display path capacity)
      (RingMade task own path) := by
  have failed : ∀ {error : QlasterError}, (sending sender).Triple task (Owns task own {})
      (.done (.error error)) (RingMade task own path) := fun {_} =>
    triple_done (owns_stable own {}) fun _ _ owns => owns
  unfold createRing
  split
  · exact failed
  · refine triple_bind (harmless_triple .createDirAll trivial own {}) fun parent => ?_
    cases parent with
    | error text => exact failed
    | ok _ =>
        refine triple_bind (createNew_triple claimed named) fun file => ?_
        cases file with
        | error text => exact failed
        | ok _ =>
            simp only
            split
            · exact triple_bind (panicked_triple own _) fun _ =>
                triple_absurd fun _ _ never => never
            · refine triple_bind (createQueue_triple own path _) fun queue => ?_
              cases queue with
              | error text => exact triple_bind (removeFile_triple own path) fun _ => failed
              | ok address =>
                  refine triple_done ?_ fun _ _ made => ⟨made, rfl⟩
                  exact Stable.and (Stable.and (owns_stable _ _) (ringAt_persistent _).stable)
                    (Stable.const _)

/-! Installing a connection. -/

theorem newManaged_triple {own : Belongings} {entry : ManagedConnection}
    (held : entry.address ∈ own.held) (made : own.fresh = some entry.address)
    (lastSeenMs : UInt64) :
    (sending sender).Triple task (Owns task own {}) (ask (.newManaged entry lastSeenMs))
      fun _ => Owns task (own.plus entry.address) {} := by
  refine ask_triple (owns_stable own {}) (fun _ => owns_stable _ _)
    (fun _ _ owns => ⟨owns.holds held, owns.fresh.trans made⟩) ?_
  intro choice state reply after _ owns executed
  simp only [SenderState.execManager, Option.some.injEq, Prod.mk.injEq] at executed
  obtain ⟨-, rfl⟩ := executed
  refine ⟨owns.claim, owns.fresh, ?_, owns.current, owns.creating, owns.dying, owns.paid⟩
  exact (heldBy_cons_self _ _ _).trans (congrArg (entry.address :: ·) owns.held)

def SwappedIn (task : SenderTask) (own : Belongings) (entry : ManagedConnection)
    (previous : Option ManagedConnection) (state : SenderState) : Prop :=
  match previous with
  | none => Owns task own.settled {} state ∧ entry ∈ state.installed
  | some other => Owns task (own.plus other.address) {} state ∧ other ∈ state.installed

theorem swapIn_triple {own : Belongings} {ordinal : Nat} (claimed : own.claim = some ordinal)
    {entry : ManagedConnection} (counted : entry.connectionId = UInt64.ofNat (ordinal + 1))
    (made : own.fresh = some entry.address) (held : entry.address ∈ own.held)
    (named : entry.sink.path = sender.ringPath entry.slotIndex entry.connectionId) :
    (sending sender).Triple task
      (fun state => (Owns task own {} state ∧ RingAt entry.sink state) ∧
        entry.filter < state.filters.length)
      (ask (.compareAndSwap entry.slotIndex none (some entry))) (SwappedIn task own entry) := by
  refine ask_triple ?_ (fun previous => ?_) ?_ ?_
  · exact Stable.and (Stable.and (owns_stable own {}) (ringAt_persistent _).stable)
      (filterMade_persistent _).stable
  · cases previous with
    | none => exact Stable.and (owns_stable _ _) (installed_persistent entry).stable
    | some other => exact Stable.and (owns_stable _ _) (installed_persistent other).stable
  · rintro state - ⟨⟨owns, ringAt⟩, cell⟩
    exact ⟨rfl, owns.fresh.trans made, owns.holds held, ringAt.path, named, cell, ordinal,
      owns.claim.trans claimed, counted⟩
  · rintro choice state previous after inv ⟨⟨owns, -⟩, -⟩ executed
    simp only [SenderState.execManager] at executed
    split at executed <;> simp only [Option.some.injEq, Prod.mk.injEq] at executed <;>
      obtain ⟨rfl, rfl⟩ := executed
    · rename_i same
      have free : state.connections entry.slotIndex = none := by simpa using same
      rw [free]
      refine ⟨⟨?_, ?_, owns.held, owns.current, owns.creating, owns.dying, owns.paid⟩, ?_⟩ <;>
        simp [SenderState.hold, SenderState.replace, Belongings.settled]
    · rename_i taken
      cases here : state.connections entry.slotIndex with
      | none => simp [here] at taken
      | some other =>
          refine ⟨Owns.load ?_ (some other), (inv.tabled.slot _ other here).2.1⟩
          exact ⟨owns.claim, owns.fresh, owns.held, owns.current, owns.creating,
            owns.dying, owns.paid⟩

/-- What an install has to build on: its ring and its filter. -/
structure Ready (ring : ShmRingProducer) (cell : Nat) (state : SenderState) : Prop where
  ringAt : RingAt ring state
  filter : cell < state.filters.length

theorem ready_persistent (ring : ShmRingProducer) (cell : Nat) :
    (sending sender).Persistent (Ready ring cell) :=
  fun _ _ _ _ _ _ _ inv guarded executed ready =>
    ⟨ringAt_persistent ring inv guarded executed ready.ringAt,
      filterMade_persistent cell inv guarded executed ready.filter⟩

def RingReady (task : SenderTask) (own : Belongings) (cell : Nat) (path : Path)
    (result : Except QlasterError ShmRingProducer) (state : SenderState) : Prop :=
  match result with
  | .ok ring => (Owns task ((own.making (some ring.address)).plus ring.address) {} state ∧
      Ready ring cell state) ∧ ring.path = path
  | .error _ => Owns task own {} state

theorem readyRing_triple {own : Belongings} {ordinal : Nat} (claimed : own.claim = some ordinal)
    {display : Path → String} (cell : Nat) (index : SlotIndex) {connectionId : UInt64}
    (counted : connectionId = UInt64.ofNat (ordinal + 1)) (capacity : Nat) :
    (sending sender).Triple task
      (fun state => Owns task own {} state ∧ cell < state.filters.length)
      (createRing display (sender.ringPath index connectionId) capacity)
      (RingReady task own cell (sender.ringPath index connectionId)) := by
  subst counted
  refine triple_weaken
    ((createRing_triple claimed rfl capacity).persist (filterMade_persistent cell))
    (fun _ _ holds => holds) ?_
  rintro result state - ⟨made, filter⟩
  cases result with
  | error error => exact made
  | ok ring => exact ⟨⟨made.1.1, made.1.2, filter⟩, made.2⟩

theorem dropReady_triple (own : Belongings) (ring : ShmRingProducer) (cell : Nat) :
    (sending sender).Triple task
      (fun state => Owns task (own.plus ring.address) {} state ∧ Ready ring cell state)
      (dropArc ring) fun _ state => Owns task own {} state ∧ Ready ring cell state :=
  triple_weaken ((dropArc_triple own ring).persist (ready_persistent ring cell))
    (fun _ _ holds => ⟨⟨holds.1, holds.2.ringAt⟩, holds.2⟩) fun _ _ _ holds => holds

theorem swapReady_triple {own : Belongings} {ordinal : Nat} (claimed : own.claim = some ordinal)
    (cell : Nat) {connectionId : UInt64} (counted : connectionId = UInt64.ofNat (ordinal + 1))
    {slotIndex : SlotIndex} {ring : ShmRingProducer}
    (named : ring.path = sender.ringPath slotIndex connectionId) :
    let making := ((own.making (some ring.address)).plus ring.address).plus ring.address
    let managed : ManagedConnection := ⟨slotIndex, connectionId, cell, ring⟩
    (sending sender).Triple task (fun state => Owns task making {} state ∧ Ready ring cell state)
      (ask (.compareAndSwap slotIndex none (some managed))) fun previous state =>
        SwappedIn task making managed previous state ∧ Ready ring cell state := by
  intro making managed
  have claim : making.claim = some ordinal := claimed
  have id : managed.connectionId = UInt64.ofNat (ordinal + 1) := counted
  exact triple_weaken ((swapIn_triple claim id rfl (List.mem_cons_self ..) named).persist
    (ready_persistent ring cell))
    (fun _ _ holds => ⟨⟨⟨holds.1, holds.2.ringAt⟩, holds.2.filter⟩, holds.2⟩) fun _ _ _ holds =>
      holds

def Installing (task : SenderTask) (own : Belongings) (cell : Nat) (state : SenderState) : Prop :=
  ∃ fresh, Owns task (own.making fresh) {} state ∧ cell < state.filters.length

def Upserted (task : SenderTask) (own : Belongings) (result : Except QlasterError ShmSlotProvision)
    (state : SenderState) : Prop :=
  ∃ claim fresh, Owns task ⟨claim, fresh, own.held, own.current⟩ {} state ∧ Provisioned result state

def AfterTurn (task : SenderTask) (own : Belongings) (cell : Nat)
    (outcome : Sum Unit (Except QlasterError ShmSlotProvision)) (state : SenderState) : Prop :=
  match outcome with
  | .inl _ => Installing task own cell state
  | .inr result => Upserted task own result state

theorem upserted_stable (own : Belongings) (result : Except QlasterError ShmSlotProvision) :
    (sending sender).Stable task (Upserted task own result) :=
  Stable.exists fun _ => Stable.exists fun _ =>
    Stable.and (owns_stable _ _) (provisioned_persistent result).stable

theorem afterTurn_stable (own : Belongings) (cell : Nat)
    (outcome : Sum Unit (Except QlasterError ShmSlotProvision)) :
    (sending sender).Stable task (AfterTurn task own cell outcome) := by
  cases outcome with
  | inl _ =>
    exact Stable.exists fun _ => Stable.and (owns_stable _ _) (filterMade_persistent cell).stable
  | inr result => exact upserted_stable own result

theorem installTurn_triple (sends : Sends task) {own : Belongings} {ordinal : Nat}
    (claimed : own.claim = some ordinal) (cell : Nat) {connectionId : UInt64}
    (counted : connectionId = UInt64.ofNat (ordinal + 1)) :
    (sending sender).Triple task (Installing task own cell) (installTurn sender cell connectionId)
      (AfterTurn task own cell) := by
  have failed : ∀ {error : QlasterError} {fresh : Option Nat},
      (sending sender).Triple task (Owns task (own.making fresh) {}) (.done (.inr (.error error)))
        (AfterTurn task own cell) := fun {_ fresh} =>
    triple_done (upserted_stable own _) fun _ _ owns => ⟨own.claim, fresh, owns, trivial⟩
  refine triple_exists fun fresh => ?_
  refine triple_bind ((findFreeSlotIn_triple sends (own.making fresh) _).persist
    (filterMade_persistent cell)) fun free => ?_
  cases free with
  | none => exact triple_weaken failed (fun _ _ holds => holds.1) fun _ _ _ holds => holds
  | some slotIndex =>
      have made : (own.making fresh).claim = some ordinal := claimed
      refine triple_bind (readyRing_triple made cell slotIndex counted _) fun created => ?_
      cases created with
      | error error => exact failed
      | ok ring =>
          refine triple_fact fun named => ?_
          refine triple_bind ((harmless_triple .eventfdNew trivial _ {}).persist
            (ready_persistent ring cell)) fun eventfd => ?_
          cases eventfd with
          | error text =>
              exact triple_bind (dropReady_triple (own.making _) ring cell) fun _ =>
                triple_weaken failed (fun _ _ holds => holds.1) fun _ _ _ holds => holds
          | ok _ =>
              refine triple_bind ((harmless_triple .nowMs trivial _ {}).persist
                (ready_persistent ring cell)) fun now => ?_
              refine triple_bind ((newManaged_triple (List.mem_cons_self ..) rfl now).persist
                (ready_persistent ring cell)) fun _ => ?_
              refine triple_bind (swapReady_triple claimed cell counted named) fun previous => ?_
              cases previous with
              | none =>
                  let managed : ManagedConnection := ⟨slotIndex, connectionId, cell, ring⟩
                  refine triple_weaken (triple_bind ((dropReady_triple (own.settled.plus
                    ring.address) ring cell).persist (installed_persistent managed)) fun _ =>
                    triple_bind ((dropReady_triple own.settled ring cell).persist
                    (installed_persistent managed)) fun _ => triple_done (upserted_stable own _) ?_)
                    (fun _ _ holds => ⟨⟨holds.1.1, holds.2⟩, holds.1.2⟩) fun _ _ _ holds => holds
                  exact fun _ _ holds => ⟨none, none, holds.1.1, managed, holds.2, rfl, rfl, named⟩
              | some other =>
                  refine triple_bind
                    ((dropEntry_triple _ other).persist (ready_persistent ring cell)) fun _ => ?_
                  refine triple_bind (dropReady_triple _ ring cell) fun _ => ?_
                  refine triple_bind (dropReady_triple _ ring cell) fun _ => ?_
                  exact triple_done (afterTurn_stable own cell _)
                    fun _ _ holds => ⟨some ring.address, holds.1, holds.2.filter⟩

/-! The calls of a handler. -/

theorem installLoop_triple (sends : Sends task) {own : Belongings} {ordinal : Nat}
    (claimed : own.claim = some ordinal) (cell : Nat) {connectionId : UInt64}
    (counted : connectionId = UInt64.ofNat (ordinal + 1)) :
    (sending sender).Triple task (Installing task own cell)
      (.iterate () fun _ => installTurn sender cell connectionId) (Upserted task own) := by
  refine triple_loop (upserted_stable own) ?_
  refine triple_weaken (installTurn_triple sends claimed cell counted) (fun _ _ holds => holds) ?_
  intro outcome state _ holds
  cases outcome <;> exact holds

theorem refreshed_persistent (refresh : SubscriptionRequest × ManagedConnection) :
    (sending sender).Persistent fun state => refresh ∈ state.refreshed :=
  sending_persistent fun _ _ grows member => grows.refreshed member

theorem refreshed_triple (own : Belongings) (entry : ManagedConnection)
    (request : SubscriptionRequest) :
    (sending sender).Triple (.handler connection)
      (fun state => ∃ base seed,
        (Owns (.handler connection) own {} state ∧ entry ∈ state.installed) ∧
          (entry.filter, SubscriptionFilter.withRequest base seed request) ∈ state.stored)
      (ask (.note (.refreshed request entry))) fun _ state =>
        (Owns (.handler connection) own {} state ∧ entry ∈ state.installed) ∧
          (request, entry) ∈ state.refreshed := by
  have installed : (sending sender).Stable (.handler connection) fun state =>
      Owns (.handler connection) own {} state ∧ entry ∈ state.installed :=
    Stable.and (owns_stable own {}) (installed_persistent entry).stable
  refine ask_triple ?_ (fun _ => Stable.and installed (refreshed_persistent _).stable) ?_ ?_
  · exact Stable.exists fun _ => Stable.exists fun _ =>
      Stable.and installed (stored_persistent _).stable
  · exact fun state _ ⟨base, seed, holds, stored⟩ => ⟨holds.2, base, seed, stored⟩
  · rintro choice state reply after - ⟨base, seed, ⟨owns, member⟩, -⟩ executed
    simp only [SenderState.execManager, Option.some.injEq, Prod.mk.injEq] at executed
    obtain ⟨-, rfl⟩ := executed
    exact ⟨⟨⟨owns.claim, owns.fresh, owns.held, owns.current, owns.creating, owns.dying, owns.paid⟩,
      member⟩, List.mem_cons_self ..⟩

theorem existingFor_triple (sends : Sends task) (own : Belongings) (request : SubscriptionRequest) :
    (sending sender).Triple task (Owns task own {}) (existingFor request) fun found state =>
      (Owns task (own.plusLoaded found) {} state ∧ FromTable found state) ∧
        ∀ entry, found = some entry → request.slotToken = some (slotToken entry) := by
  unfold existingFor
  split
  · refine triple_done (Stable.and (Stable.and (owns_stable _ _) (fromTable_persistent none).stable)
      (Stable.const _)) ?_
    exact fun _ _ owns => ⟨⟨owns, by simp [FromTable]⟩, by simp⟩
  · rename_i token carried
    refine triple_weaken (lookupByToken_triple sends own token) (fun _ _ owns => owns) ?_
    rintro found state - ⟨holds, issued⟩
    refine ⟨holds, fun entry same => ?_⟩
    rw [carried, issued entry same]

def Answers (sender : Sender) (request : SubscriptionRequest)
    (result : Except QlasterError ShmSlotProvision) (state : SenderState) : Prop :=
  match result with
  | .ok (.existing token) => request.slotToken = some token ∧
      ∃ entry ∈ state.installed, slotToken entry = token ∧ (request, entry) ∈ state.refreshed
  | .ok (.created _ _ capacity _) => capacity = sender.ringCapacity
  | .error _ => True

theorem Answers.grows {request : SubscriptionRequest}
    {result : Except QlasterError ShmSlotProvision}
    {before after : SenderState} (holds : Answers sender request result before)
    (grows : Grows before after) : Answers sender request result after := by
  match result with
  | .ok (.existing token) =>
      obtain ⟨carried, entry, member, issued, refreshed⟩ := holds
      exact ⟨carried, entry, grows.installed.subset member, issued, grows.refreshed refreshed⟩
  | .ok (.created _ _ _ _) => exact holds
  | .error _ => trivial

theorem answers_persistent (request : SubscriptionRequest)
    (result : Except QlasterError ShmSlotProvision) :
    (sending sender).Persistent (Answers sender request result) :=
  sending_persistent fun _ _ grows holds => holds.grows grows

def Fresh (sender : Sender) : Except QlasterError ShmSlotProvision → Prop
  | .ok (.existing _) => False
  | .ok (.created _ _ capacity _) => capacity = sender.ringCapacity
  | .error _ => True

theorem Fresh.answers {request : SubscriptionRequest}
    {result : Except QlasterError ShmSlotProvision}
    (fresh : Fresh sender result) (state : SenderState) : Answers sender request result state := by
  match result with
  | .ok (.existing _) => exact fresh.elim
  | .ok (.created _ _ _ _) => exact fresh
  | .error _ => trivial

theorem installTurn_yields (cell : Nat) (connectionId : UInt64) :
    (installTurn sender cell connectionId).Yields fun outcome =>
      ∀ result, outcome = .inr result → Fresh sender result := by
  have known : ∀ {result : Except QlasterError ShmSlotProvision}, Fresh sender result →
      ∀ other, (Sum.inr result : Sum Unit _) = .inr other → Fresh sender other := by
    intro result fresh other same
    exact Sum.inr.inj same ▸ fresh
  refine (Program.yields_true _).bind fun free _ => ?_
  cases free with
  | none => exact known trivial
  | some slotIndex =>
      refine (Program.yields_true _).bind fun created _ => ?_
      cases created with
      | error error => exact known trivial
      | ok ring =>
          refine (Program.yields_true _).bind fun eventfd _ => ?_
          cases eventfd with
          | error text => exact (Program.yields_true _).bind fun _ _ => known trivial
          | ok _ =>
              refine (Program.yields_true _).bind fun now _ =>
                (Program.yields_true _).bind fun _ _ =>
                (Program.yields_true _).bind fun previous _ => ?_
              cases previous with
              | none =>
                  exact (Program.yields_true _).bind fun _ _ =>
                    (Program.yields_true _).bind fun _ _ =>
                    known rfl
              | some other =>
                  exact (Program.yields_true _).bind fun _ _ =>
                    (Program.yields_true _).bind fun _ _ =>
                    (Program.yields_true _).bind fun _ _ => by simp [Program.Yields]

theorem upsertShm_answers {own : Belongings} (unclaimed : own.claim = none)
    (request : SubscriptionRequest) :
    (sending sender).Triple (.handler connection) (Owns (.handler connection) own {})
      (upsertShm sender request) fun result state =>
        Upserted (.handler connection) own result state ∧ Answers sender request result state := by
  have sends := handler_sends connection
  refine triple_bind (existingFor_triple sends own request) fun found =>
    triple_fact fun carried => ?_
  cases found with
  | some existing =>
      refine triple_bind ((harmless_triple .nowMs trivial _ {}).persist (fromTable_persistent _))
        fun now => ?_
      refine triple_bind (storeLastSeen_triple _ existing now) fun _ => ?_
      refine triple_bind (triple_weaken (applyRequest_triple (own.plus existing.address) existing
        request) (fun _ _ holds => ⟨holds.1, holds.2 existing rfl⟩) fun _ _ _ holds => holds)
        fun _ => ?_
      have answers : ∀ state : SenderState, existing ∈ state.installed →
          (request, existing) ∈ state.refreshed →
          Answers sender request (.ok (.existing (slotToken existing))) state :=
        fun state member refreshed => ⟨carried existing rfl, existing, member, rfl, refreshed⟩
      refine triple_bind (refreshed_triple _ existing request) fun _ => ?_
      refine triple_bind (triple_weaken ((dropEntry_triple own existing).persist
        (answers_persistent request (.ok (.existing (slotToken existing)))))
        (fun state _ holds => ⟨holds.1, answers state holds.1.2 holds.2⟩) fun _ _ _ holds => holds)
        fun _ => ?_
      refine triple_done (Stable.and (upserted_stable own _) (answers_persistent _ _).stable) ?_
      exact fun _ _ holds => ⟨⟨own.claim, own.fresh, holds.1, trivial⟩, holds.2⟩
  | none =>
      refine triple_weaken (triple_bind (harmless_triple .bloomSeed trivial own {}) fun seed =>
        triple_bind (newFilter_triple own (.fromRequest seed request)) fun cell =>
        triple_bind ((fetchAddConnectionId_triple unclaimed).persist (filterMade_persistent cell))
        fun connectionId => ?_) (fun _ _ holds => holds.1) fun _ _ _ holds => holds
      have claimed : ∀ ordinal, (own.claiming ordinal).claim = some ordinal := fun _ => rfl
      have yields : (Program.iterate () fun _ => installTurn sender cell connectionId).Yields
          (Fresh sender) :=
        ⟨Fresh sender, fun _ => installTurn_yields cell connectionId, fun _ fresh => fresh⟩
      have installed : (sending sender).Triple (.handler connection)
          (fun state => ∃ ordinal, Installing (.handler connection)
            (own.claiming ordinal) cell state ∧ connectionId = UInt64.ofNat (ordinal + 1))
          (.iterate () fun _ => installTurn sender cell connectionId)
          (Upserted (.handler connection) own) :=
        triple_exists fun ordinal => triple_fact fun counted =>
          installLoop_triple sends (claimed ordinal) cell counted
      refine triple_weaken (installed.yields yields) ?_ fun _ state _ holds =>
        ⟨holds.1, holds.2.answers state⟩
      rintro state - ⟨⟨ordinal, owns, counted⟩, made⟩
      exact ⟨ordinal, ⟨own.fresh, owns, made⟩, counted⟩

theorem provisioned_triple (own : Belongings) (result : Except QlasterError ShmSlotProvision) :
    (sending sender).Triple task (Upserted task own result) (ask (.note (.provisioned result)))
      fun _ state => ∃ fresh, Owns task ⟨none, fresh, own.held, own.current⟩ {} state := by
  refine ask_triple (upserted_stable own result) (fun _ => Stable.exists fun _ => owns_stable _ _)
    ?_ ?_
  · rintro state - ⟨claim, fresh, -, provided⟩
    rcases result with _ | ⟨_ | _⟩
    · trivial
    · exact provided
    · trivial
  · rintro choice state reply after - ⟨claim, fresh, owns, -⟩ executed
    simp only [SenderState.execManager, Option.some.injEq, Prod.mk.injEq] at executed
    obtain ⟨-, rfl⟩ := executed
    refine ⟨fresh, ?_⟩
    rcases result with _ | ⟨_ | _⟩ <;>
      exact ⟨by simp [SenderState.record], owns.fresh, owns.held, owns.current, owns.creating, owns.dying, owns.paid⟩

theorem subscribe_triple {own : Belongings} (unclaimed : own.claim = none)
    (request : SubscriptionRequest) :
    (sending sender).Triple (.handler connection) (Owns (.handler connection) own {})
      (senderProgram sender (.subscribe request)) fun _ state =>
        ∃ fresh, Owns (.handler connection) ⟨none, fresh, own.held, own.current⟩ {} state :=
  triple_bind (triple_weaken (upsertShm_answers unclaimed request) (fun _ _ owns => owns)
    fun _ _ _ holds => holds.1) fun result => provisioned_triple own result

end

end Qlaster
