import Qlaster.Sender

/-!
Loading, closing, swapping and dropping: the steps `cleanup_if_same`,
`maybe_cleanup_stale_slot`, `lookup_by_token` and `find_free_slot` are made of.
Each leaves its task with the `Arc`s it had before.
-/

namespace Qlaster

open Interleaving Interleaving.Discipline

def Sends : SenderTask → Prop
  | .dispatcher _ => True
  | .handler _ => True
  | _ => False

theorem Sends.allows_sentinel {task : SenderTask} (sends : Sends task) :
    ringAllows task .sentinel := by
  cases task <;> trivial

theorem Sends.ne_reader {task : SenderTask} (sends : Sends task) (address : Nat) :
    task ≠ .reader address := by
  rintro rfl
  exact sends

def Belongings.plus (own : Belongings) (address : Nat) : Belongings :=
  { own with held := address :: own.held }

def Belongings.plusLoaded (own : Belongings) : Option ManagedConnection → Belongings
  | none => own
  | some entry => own.plus entry.address

structure RingAt (ring : ShmRingProducer) (state : SenderState) : Prop where
  made : ring.address < state.allocated
  path : ring.path = state.paths ring.address

def FromTable (loaded : Option ManagedConnection) (state : SenderState) : Prop :=
  ∀ entry, loaded = some entry → entry ∈ state.installed

section
variable {sender : Sender} {task : SenderTask}

theorem ringAt_persistent (ring : ShmRingProducer) : (sending sender).Persistent (RingAt ring) :=
  sending_persistent fun _ _ grows holds =>
    ⟨holds.made.trans_le grows.allocated, holds.path.trans (grows.paths _ holds.made).symm⟩

theorem installed_persistent (entry : ManagedConnection) :
    (sending sender).Persistent fun state => entry ∈ state.installed :=
  sending_persistent fun _ _ grows member => grows.installed.subset member

theorem fromTable_persistent (loaded : Option ManagedConnection) :
    (sending sender).Persistent (FromTable loaded) :=
  sending_persistent fun _ _ grows found entry same => grows.installed.subset (found entry same)

theorem SenderInv.ringAt {state : SenderState} (inv : SenderInv sender state)
    {entry : ManagedConnection} (member : entry ∈ state.installed) : RingAt entry.sink state :=
  ⟨inv.owned.numbered entry member, (inv.described.path entry member).1⟩

theorem Owns.holds {own : Belongings} {busy : Busy} {state : SenderState}
    (owns : Owns task own busy state) {address : Nat} (held : address ∈ own.held) :
    (task, address) ∈ state.handles := by
  rw [← mem_heldBy, owns.held]
  exact held

/-! Single operations. -/

theorem ask_triple {β : Type} {op : ManagerOp β} {pre : SenderState → Prop}
    {post : β → SenderState → Prop} (stable : (sending sender).Stable task pre)
    (postStable : ∀ reply, (sending sender).Stable task (post reply))
    (guarded : ∀ state, SenderInv sender state → pre state → managerGuard sender task op state)
    (effect : ∀ choice state reply after, SenderInv sender state → pre state →
      state.execManager choice task op = some (reply, after) → post reply after) :
    (sending sender).Triple task pre (ask op) post :=
  triple_perform stable postStable guarded effect

/-- Operations that leave everything as it is for their task. -/
def Harmless : {β : Type} → ManagerOp β → Prop
  | _, .nowMs => True
  | _, .unixTimeNanos => True
  | _, .bloomSeed => True
  | _, .loadLastSeen _ => True
  | _, .createDirAll => True
  | _, .eventfdNew => True
  | _, .encodeFailed _ => True
  | _, .panicked => True
  | _, _ => False

theorem Harmless.exec {β : Type} {op : ManagerOp β} (harmless : Harmless op) {choice : SenderChoice}
    {before after : SenderState} {reply : β}
    (executed : before.execManager choice task op = some (reply, after)) : after = before := by
  cases op <;> first
    | exact harmless.elim
    | (simp only [SenderState.execManager] at executed
       repeat' split at executed
       all_goals simp only [reduceCtorEq, Option.some.injEq, Prod.mk.injEq] at executed
       all_goals exact executed.2.symm)

theorem Harmless.guard {β : Type} {op : ManagerOp β} (harmless : Harmless op)
    (state : SenderState) : managerGuard sender task op state := by
  cases op <;> trivial

theorem harmless_keeps {β : Type} (op : ManagerOp β) (harmless : Harmless op)
    {assertion : SenderState → Prop} (stable : (sending sender).Stable task assertion) :
    (sending sender).Triple task assertion (ask op) fun _ => assertion := by
  refine ask_triple stable (fun _ => stable) (fun state _ _ => harmless.guard state) ?_
  intro choice state reply after _ holds executed
  rwa [harmless.exec executed]

theorem harmless_triple {β : Type} (op : ManagerOp β) (harmless : Harmless op) (own : Belongings)
    (busy : Busy) :
    (sending sender).Triple task (Owns task own busy) (ask op) fun _ => Owns task own busy :=
  harmless_keeps op harmless (owns_stable own busy)

theorem storeLastSeen_triple (own : Belongings) (entry : ManagedConnection) (ms : UInt64) :
    (sending sender).Triple task (fun state => Owns task own {} state ∧
      FromTable (some entry) state)
      (ask (.storeLastSeen entry ms)) fun _ state => Owns task own {} state ∧
        FromTable (some entry) state := by
  have kept : (sending sender).Stable task fun state =>
      Owns task own {} state ∧ FromTable (some entry) state :=
    Stable.and (owns_stable own {}) (fromTable_persistent (some entry)).stable
  refine ask_triple kept (fun _ => kept) (fun state _ holds => holds.2 entry rfl) ?_
  rintro choice state reply after - ⟨owns, known⟩ executed
  simp only [SenderState.execManager, Option.some.injEq, Prod.mk.injEq] at executed
  obtain ⟨-, rfl⟩ := executed
  exact ⟨⟨owns.claim, owns.fresh, owns.held, owns.current, owns.creating, owns.dying, owns.paid⟩,
    known⟩

theorem Owns.load {own : Belongings} {busy : Busy} {state : SenderState}
    (owns : Owns task own busy state) (loaded : Option ManagedConnection) :
    Owns task (own.plusLoaded loaded) busy (state.hold task loaded) := by
  cases loaded with
  | none => exact owns
  | some entry =>
      refine ⟨owns.claim, owns.fresh, ?_, owns.current, owns.creating, owns.dying, owns.paid⟩
      exact (heldBy_cons_self _ _ _).trans (congrArg (entry.address :: ·) owns.held)

theorem loadSlot_triple (own : Belongings) (index : SlotIndex) (earlier : List Nat) :
    (sending sender).Triple task (fun state => Owns task own {} state ∧ earlier ⊆ state.removed)
      (ask (.loadSlot index)) fun loaded state => (Owns task (own.plusLoaded loaded) {} state ∧
        FromTable loaded state) ∧
        ∀ entry, loaded = some entry → entry.slotIndex = index ∧ entry.address ∉ earlier := by
  -- What is in a slot belongs there and has not been removed.
  refine ask_triple ?_ ?_ (fun _ _ _ => trivial) ?_
  · exact Stable.and (owns_stable own {})
      (sending_stable fun _ _ _ grows known => List.Subset.trans known grows.removed.subset)
  · exact fun loaded =>
      Stable.and (Stable.and (owns_stable _ _) (fromTable_persistent loaded).stable)
      (Stable.const _)
  · intro choice state loaded after inv holds executed
    simp only [SenderState.execManager, Option.some.injEq, Prod.mk.injEq] at executed
    obtain ⟨rfl, rfl⟩ := executed
    refine ⟨⟨holds.1.load _, fun entry found => (inv.tabled.slot index entry found).2.1⟩, ?_⟩
    intro entry found
    obtain ⟨slot, -, present⟩ := inv.tabled.slot index entry found
    exact ⟨slot, fun member => present (holds.2 member)⟩

theorem dropHandle_triple (own : Belongings) (address : Nat) :
    (sending sender).Triple task (Owns task (own.plus address) {}) (ask (.dropHandle address))
      fun last => Owns task own { dying := if last then some address else none } := by
  refine ask_triple (owns_stable _ _) (fun last => owns_stable _ _) ?_ ?_
  · exact fun state _ owns => ⟨owns.holds (List.mem_cons_self ..), owns.paid address (by simp)⟩
  · intro choice state last after _ owns executed
    have held : heldBy (state.handles.erase (task, address)) task = own.held := by
      rw [heldBy_erase_self, owns.held]
      exact List.erase_cons_head ..
    simp only [SenderState.execManager] at executed
    split at executed <;> simp only [Option.some.injEq, Prod.mk.injEq] at executed <;>
      obtain ⟨rfl, rfl⟩ := executed
    · exact ⟨owns.claim, owns.fresh, held, owns.current, owns.creating, owns.dying, owns.paid⟩
    · exact ⟨owns.claim, owns.fresh, held, owns.current, owns.creating, by simp, owns.paid⟩

theorem dropProducer_triple (own : Belongings) (ring : ShmRingProducer) :
    (sending sender).Triple task
      (fun state => Owns task own { dying := some ring.address } state ∧ RingAt ring state)
      (ask (.dropProducer ring)) fun _ => Owns task own {} := by
  refine ask_triple (Stable.and (owns_stable _ _) (ringAt_persistent ring).stable)
    (fun _ => owns_stable _ _) ?_ ?_
  · exact fun state _ ⟨owns, ringAt⟩ => ⟨owns.dying, ringAt.path, owns.paid _ (by simp)⟩
  · rintro choice state reply after - ⟨owns, ringAt⟩ executed
    simp only [SenderState.execManager, Option.some.injEq, Prod.mk.injEq] at executed
    obtain ⟨-, rfl⟩ := executed
    refine ⟨owns.claim, owns.fresh, owns.held, owns.current, owns.creating, by simp, ?_⟩
    intro address clear
    by_cases same : address = ring.address
    · subst same
      simpa using owns.paid ring.address (by simp)
    · simpa only [ne_eq, same, not_false_eq_true, Function.update_of_ne] using
        owns.paid address (by simp)

theorem dropArc_triple (own : Belongings) (ring : ShmRingProducer) :
    (sending sender).Triple task
      (fun state => Owns task (own.plus ring.address) {} state ∧ RingAt ring state)
      (dropArc ring) fun _ => Owns task own {} := by
  refine triple_bind ((dropHandle_triple own ring.address).persist (ringAt_persistent ring))
    fun last => ?_
  cases last with
  | true => exact dropProducer_triple own ring
  | false => exact triple_done (owns_stable own {}) fun _ _ holds => holds.1

theorem dropEntry_triple (own : Belongings) (entry : ManagedConnection) :
    (sending sender).Triple task
      (fun state => Owns task (own.plus entry.address) {} state ∧ entry ∈ state.installed)
      (dropArc entry.sink) fun _ => Owns task own {} :=
  triple_weaken (dropArc_triple own entry.sink)
    (fun _ inv holds => ⟨holds.1, inv.ringAt holds.2⟩) fun _ _ _ owns => owns

theorem dropLoaded_triple (own : Belongings) (loaded : Option ManagedConnection) :
    (sending sender).Triple task
      (fun state => Owns task (own.plusLoaded loaded) {} state ∧ FromTable loaded state)
      (dropLoaded loaded) fun _ => Owns task own {} := by
  cases loaded with
  | none => exact triple_done (owns_stable own {}) fun _ _ holds => holds.1
  | some entry =>
      exact triple_weaken (dropEntry_triple own entry)
        (fun _ _ holds => ⟨holds.1, holds.2 entry rfl⟩) fun _ _ _ owns => owns

/-! Closing a sink. -/

theorem onRing_bind {α β : Type} (address : Nat) (program : Program ChannelOp α)
    (rest : α → Program ChannelOp β) : onRing address (program.bind rest) =
      (onRing address program).bind fun value => onRing address (rest value) :=
  Program.lift_bind _ program rest

theorem Owns.onRing {own : Belongings} {busy : Busy} {choice : SenderChoice} {address : Nat}
    {β : Type} {op : ChannelOp β} {before after : SenderState} {reply : β}
    (owns : Owns task own busy before) (inv : SenderInv sender before) (notWrite : ¬ IsWrite op)
    (executed : before.execChannel choice task address op = some (reply, after)) :
    Owns task own busy after := by
  obtain ⟨-, choice', channel, ran, rfl⟩ := SenderState.execChannel_exec inv executed
  have unrecorded : before.recordPush task address op reply = before.dispatched := by
    cases op <;> first | rfl | exact absurd trivial notWrite
  refine ⟨owns.claim, owns.fresh, owns.held, ?_, owns.creating, owns.dying, ?_⟩
  · simpa only [unrecorded] using owns.current
  · intro ring clear owes
    by_cases same : ring = address
    · subst same
      simp only [Function.update_self] at owes
      rcases Channel.exec_owing ran owes with already | ⟨-, isWrite⟩
      · exact owns.paid ring clear already
      · exact notWrite isWrite
    · simp only [ne_eq, same, not_false_eq_true, Function.update_of_ne] at owes
      exact owns.paid ring clear owes

theorem ring_component (own : Belongings) (busy : Busy) (address : Nat)
    {permits : {β : Type} → ChannelOp β → Prop} {frame : SenderState → Prop}
    (owned : ∀ {state}, frame state → Owns task own busy state)
    (stable : (sending sender).Stable task frame)
    (made : ∀ {state}, SenderInv sender state → frame state → address < state.allocated)
    (permitted : ∀ {β : Type} {op : ChannelOp β} {state}, permits op → frame state →
      producerGuard sender task address op state)
    (kept : ∀ {choice} {β : Type} {op : ChannelOp β} {before reply after}, permits op →
      SenderInv sender before → frame before → Owns task own busy after →
      before.execChannel choice task address op = some (reply, after) → frame after)
    (notWrite : ∀ {β : Type} {op : ChannelOp β}, permits op → ¬ IsWrite op) :
    Component (ringDiscipline sender.codecs address) (sending sender) task task
      (fun state => state.channels address) (fun op => .channel address op) permits frame where
  inv := fun inv _ => inv.wired.ring address
  stable := stable
  later := by
    rintro before after holds ⟨inv, other, choice, β, op, reply, different, guarded, executed⟩
    exact ring_later different inv guarded executed (made inv holds)
  guard := fun permit _ holds guarded => ⟨guarded, permitted permit holds⟩
  exec := by
    intro choice β op state reply after permit inv holds guarded executed
    have owns := (owned holds).onRing inv (notWrite permit) executed
    refine ⟨kept permit inv holds owns executed, ?_⟩
    obtain ⟨-, choice', channel, ran, rfl⟩ := SenderState.execChannel_exec inv executed
    refine ⟨choice', ?_⟩
    simp only [Function.update_self]
    exact ran

theorem notify_only : notify.Only IsNotify := by
  refine Program.Only.iterate fun _ => (Program.Only.perform trivial).bind fun reply => ?_
  cases reply <;> trivial

theorem notify_triple (sends : Sends task) (own : Belongings) {address : Nat}
    (held : address ∈ own.held) :
    (sending sender).Triple task (Owns task own { debt := some address }) (onRing address notify)
      fun _ => Owns task own {} := by
  have component : Component (ringDiscipline sender.codecs address) (sending sender) task task
      (fun state => state.channels address) (fun op => .channel address op) IsNotify
      (Owns task own { debt := some address }) := by
    refine ring_component own { debt := some address } address id (owns_stable _ _) ?_ ?_ ?_ ?_
    · exact fun inv owns => (inv.owned.held task address (owns.holds held)).1
    · intro β op state isNotify owns
      cases op <;> first | exact owns.holds held | exact isNotify.elim
    · exact fun _ _ _ owns _ => owns
    · intro β op isNotify isWrite
      cases op <;> first | exact isNotify.elim | exact isWrite.elim
  have writes : notify.Only (Writes fun _ => False) := by
    refine notify_only.mono fun op isNotify => ?_
    cases op <;> trivial
  have ring : (ringDiscipline sender.codecs address).Triple task _ notify _ :=
    (writer_triple (sends.ne_reader address) (fun _ never => never.elim) writes).both
      (notify_wakes task)
  refine triple_weaken (Triple.lift component notify_only ring) ?_ ?_
  · exact fun state _ owns => ⟨owns, fun same => absurd same (sends.ne_reader address), trivial⟩
  · rintro reply state - ⟨owns, -, paid⟩
    refine ⟨owns.claim, owns.fresh, owns.held, owns.current, owns.creating, owns.dying, ?_⟩
    intro ring _
    by_cases same : ring = address
    · subst same
      exact paid
    · exact owns.paid ring (by simpa using Ne.symm same)

theorem writeSentinel_triple (sends : Sends task) (own : Belongings) {address : Nat}
    (held : address ∈ own.held) :
    (sending sender).Triple task (Owns task own {})
      (.perform (.channel address (.tryWriteSlice sentinelBytes)))
      fun _ => Owns task own { debt := some address } := by
  refine triple_perform (owns_stable _ _) (fun _ => owns_stable _ _) ?_ ?_
  · intro state _ owns
    exact ⟨⟨⟨.sentinel, rfl, sends.allows_sentinel⟩,
      fun owes => absurd owes (owns.paid address (by simp)), trivial⟩, owns.holds held, .inl rfl⟩
  · intro choice state reply after inv owns executed
    obtain ⟨-, choice', channel, -, rfl⟩ := SenderState.execChannel_exec inv executed
    refine ⟨owns.claim, owns.fresh, owns.held, ?_, owns.creating, owns.dying, ?_⟩
    · simpa [SenderState.recordPush] using owns.current
    · intro ring clear
      have different : ring ≠ address := fun same => clear (by rw [same])
      simpa only [ne_eq, different, not_false_eq_true, Function.update_of_ne] using
        owns.paid ring (by simp)

theorem sinkClosed_triple (own : Belongings) (address : Nat) :
    (sending sender).Triple task (Owns task own {}) (ask (.note (.sinkClosed address)))
      fun _ state => Owns task own {} state ∧ (task, address) ∈ state.closedBy := by
  refine ask_triple (owns_stable _ _) (fun _ => ?_) (fun _ _ _ => trivial) ?_
  · exact Stable.and (owns_stable _ _)
      (sending_stable fun _ _ _ grows member => grows.closedBy member)
  · intro choice state reply after _ owns executed
    simp only [SenderState.execManager, Option.some.injEq, Prod.mk.injEq] at executed
    obtain ⟨-, rfl⟩ := executed
    exact ⟨⟨owns.claim, owns.fresh, owns.held, owns.current, owns.creating, owns.dying, owns.paid⟩,
      List.mem_cons_self ..⟩

theorem closeSink_triple (sends : Sends task) (own : Belongings) {entry : ManagedConnection}
    (held : entry.address ∈ own.held) :
    (sending sender).Triple task (Owns task own {}) (closeSink entry)
      fun _ state => Owns task own {} state ∧ (task, entry.address) ∈ state.closedBy := by
  refine triple_bind ?_ fun _ => sinkClosed_triple own entry.address
  have closing : onRing entry.address sinkClose =
      (Program.perform (SenderOp.channel entry.address (.tryWriteSlice sentinelBytes))).bind
        fun _ => (onRing entry.address notify).bind fun _ => .done () := rfl
  rw [closing]
  refine triple_bind (writeSentinel_triple sends own held) fun _ => ?_
  exact triple_bind (notify_triple sends own held) fun _ =>
    triple_done (owns_stable own {}) fun _ _ owns => owns

/-! Taking an entry out of its slot. -/

theorem swapOut_triple (own : Belongings) (entry : ManagedConnection) :
    (sending sender).Triple task (fun state => (Owns task own {} state ∧
        (task, entry.address) ∈ state.closedBy) ∧ entry ∈ state.installed)
      (ask (.compareAndSwap entry.slotIndex (some entry) none)) fun previous state =>
        Owns task (own.plusLoaded previous) {} state ∧ FromTable previous state := by
  refine ask_triple ?_ ?_ ?_ ?_
  · exact Stable.and (Stable.and (owns_stable _ _)
      (sending_stable fun _ _ _ grows member => grows.closedBy member))
        (installed_persistent entry).stable
  · exact fun previous => Stable.and (owns_stable _ _) (fromTable_persistent previous).stable
  · exact fun state _ ⟨⟨_, closed⟩, member⟩ => ⟨rfl, member, closed⟩
  · rintro choice state previous after inv ⟨⟨owns, -⟩, -⟩ executed
    have found : FromTable (state.connections entry.slotIndex) state :=
      fun other here => (inv.tabled.slot _ other here).2.1
    simp only [SenderState.execManager] at executed
    split at executed <;> simp only [Option.some.injEq, Prod.mk.injEq] at executed <;>
      obtain ⟨rfl, rfl⟩ := executed
    all_goals
      refine ⟨Owns.load ?_ _, found⟩
      exact ⟨owns.claim, owns.fresh, owns.held, owns.current, owns.creating, owns.dying, owns.paid⟩

theorem evict_triple (sends : Sends task) (own : Belongings) {entry : ManagedConnection}
    (held : entry.address ∈ own.held) :
    (sending sender).Triple task (fun state => Owns task own {} state ∧ entry ∈ state.installed)
      (evict entry.slotIndex entry) fun _ => Owns task own {} := by
  refine triple_bind ((closeSink_triple sends own held).persist (installed_persistent entry))
    fun _ => ?_
  exact triple_bind (swapOut_triple own entry) fun previous => dropLoaded_triple own previous

theorem load_triple (own : Belongings) (index : SlotIndex) :
    (sending sender).Triple task (Owns task own {}) (ask (.loadSlot index)) fun loaded state =>
      (Owns task (own.plusLoaded loaded) {} state ∧ FromTable loaded state) ∧
        ∀ entry, loaded = some entry → entry.slotIndex = index :=
  triple_weaken (loadSlot_triple own index [])
    (fun _ _ owns => ⟨owns, by simp⟩)
    fun _ _ _ holds => ⟨holds.1, fun entry found => (holds.2 entry found).1⟩

theorem cleanupIfSame_triple (sends : Sends task) (own : Belongings) (slotIndex : SlotIndex)
    (connectionId : UInt64) :
    (sending sender).Triple task (Owns task own {}) (cleanupIfSame slotIndex connectionId)
      fun _ => Owns task own {} := by
  refine triple_bind (load_triple own slotIndex) fun current => ?_
  cases current with
  | none => exact triple_done (owns_stable own {}) fun _ _ holds => holds.1.1
  | some entry =>
      refine triple_fact fun slot => ?_
      obtain rfl := slot entry rfl
      have cleaned : (sending sender).Triple task
          (fun state => Owns task (own.plus entry.address) {} state ∧ entry ∈ state.installed)
          (if entry.connectionId = connectionId then evict entry.slotIndex entry else .done ())
          fun _ => Owns task (own.plus entry.address) {} := by
        split
        · exact evict_triple sends _ (List.mem_cons_self ..)
        · exact triple_done (owns_stable _ _) fun _ _ holds => holds.1
      refine triple_bind (triple_weaken (cleaned.persist (installed_persistent entry)) ?_
        fun _ _ _ holds => holds) fun _ => dropEntry_triple own entry
      exact fun _ _ holds => ⟨⟨holds.1, holds.2 entry rfl⟩, holds.2 entry rfl⟩

theorem isStale_triple (own : Belongings) (entry : ManagedConnection) :
    (sending sender).Triple task (Owns task own {}) (isStale entry) fun _ => Owns task own {} := by
  refine triple_bind (harmless_triple .nowMs trivial own {}) fun now => ?_
  refine triple_bind (harmless_triple (.loadLastSeen entry) trivial own {}) fun seen => ?_
  exact triple_done (owns_stable own {}) fun _ _ owns => owns

theorem maybeCleanupStaleSlot_triple (sends : Sends task) (own : Belongings)
    {entry : ManagedConnection} (held : entry.address ∈ own.held) :
    (sending sender).Triple task (fun state => Owns task own {} state ∧ entry ∈ state.installed)
      (maybeCleanupStaleSlot entry.slotIndex entry)
      fun _ state => Owns task own {} state ∧ entry ∈ state.installed := by
  have done : ∀ cleaned : Bool, (sending sender).Triple task
      (fun state => Owns task own {} state ∧ entry ∈ state.installed) (.done cleaned)
      fun _ state => Owns task own {} state ∧ entry ∈ state.installed := fun _ =>
    triple_done (Stable.and (owns_stable own {}) (installed_persistent entry).stable)
      fun _ _ holds => holds
  refine triple_bind ((isStale_triple own entry).persist (installed_persistent entry)) fun stale =>
    ?_
  cases stale with
  | true =>
      refine triple_bind (triple_weaken ((evict_triple sends own held).persist
        (installed_persistent entry)) ?_ fun _ _ _ holds => holds) fun _ => done true
      exact fun _ _ holds => ⟨holds, holds.2⟩
  | false => exact done false

/-! Looking up a token and finding a free slot. -/

/-- The lookup began when the connections in `earlier` had been removed. -/
def LookupAt (lookup : Nat) (token : SlotToken) (earlier : List Nat) (state : SenderState) : Prop :=
  state.lookups[lookup]? = some (token, earlier)

theorem lookupAt_persistent (lookup : Nat) (token : SlotToken) (earlier : List Nat) :
    (sending sender).Persistent (LookupAt lookup token earlier) :=
  sending_persistent fun _ _ grows found => by
    rw [LookupAt, getElem?_grown grows.lookups (List.getElem?_eq_some_iff.mp found).1]
    exact found

theorem lookupBegan_triple (own : Belongings) (token : SlotToken) :
    (sending sender).Triple task (Owns task own {}) (ask (.lookupBegan token)) fun lookup state =>
      ∃ earlier, (Owns task own {} state ∧ earlier ⊆ state.removed) ∧
        LookupAt lookup token earlier state := by
  refine ask_triple (owns_stable _ _) ?_ (fun _ _ _ => trivial) ?_
  · intro lookup
    refine sending_stable fun before after untouched grows holds => ?_
    obtain ⟨earlier, ⟨owns, known⟩, begun⟩ := holds
    refine ⟨earlier, ⟨owns.untouched untouched, List.Subset.trans known grows.removed.subset⟩, ?_⟩
    rw [LookupAt, getElem?_grown grows.lookups (List.getElem?_eq_some_iff.mp begun).1]
    exact begun
  · intro choice state lookup after _ owns executed
    simp only [SenderState.execManager, Option.some.injEq, Prod.mk.injEq] at executed
    obtain ⟨rfl, rfl⟩ := executed
    refine ⟨state.removed, ⟨⟨owns.claim, owns.fresh, owns.held, owns.current, owns.creating,
      owns.dying, owns.paid⟩, List.Subset.refl _⟩, ?_⟩
    simp [LookupAt]

theorem lookupReturned_triple (own : Belongings) {lookup : Nat} {token : SlotToken}
    {earlier : List Nat} {entry : ManagedConnection} (issued : slotToken entry = token)
    (present : entry.address ∉ earlier) :
    (sending sender).Triple task
      (fun state => (Owns task own {} state ∧ entry ∈ state.installed) ∧
        LookupAt lookup token earlier state)
      (ask (.note (.lookupReturned lookup entry)))
      fun _ state => Owns task own {} state ∧ entry ∈ state.installed := by
  refine ask_triple ?_ (fun _ => ?_) ?_ ?_
  · exact Stable.and (Stable.and (owns_stable own {}) (installed_persistent entry).stable)
      (lookupAt_persistent lookup token earlier).stable
  · exact Stable.and (owns_stable own {}) (installed_persistent entry).stable
  · exact fun state _ holds => ⟨holds.1.2, _, holds.2, issued, present⟩
  · rintro choice state reply after - ⟨⟨owns, member⟩, -⟩ executed
    simp only [SenderState.execManager, Option.some.injEq, Prod.mk.injEq] at executed
    obtain ⟨-, rfl⟩ := executed
    exact ⟨⟨owns.claim, owns.fresh, owns.held, owns.current, owns.creating, owns.dying, owns.paid⟩,
      member⟩

theorem slotToken_eq {token : SlotToken} {entry : ManagedConnection}
    (slot : entry.slotIndex.val = token.slotIndex.toNat)
    (id : entry.connectionId = token.generation) : slotToken entry = token := by
  rw [slotToken, slot, id, UInt8.ofNat_toNat]

theorem lookupLoad_triple (own : Belongings) (index : SlotIndex) (lookup : Nat) (token : SlotToken)
    (earlier : List Nat) :
    (sending sender).Triple task (fun state => (Owns task own {} state ∧ earlier ⊆ state.removed) ∧
        LookupAt lookup token earlier state)
      (ask (.loadSlot index)) fun loaded state =>
        match loaded with
        | none => Owns task own {} state
        | some entry => ((Owns task (own.plus entry.address) {} state ∧ entry ∈ state.installed) ∧
            LookupAt lookup token earlier state) ∧
            entry.slotIndex = index ∧ entry.address ∉ earlier := by
  refine triple_weaken ((loadSlot_triple own index earlier).persist
    (lookupAt_persistent lookup token earlier)) (fun _ _ holds => holds) ?_
  rintro loaded state - ⟨⟨⟨owns, found⟩, placed⟩, begun⟩
  cases loaded with
  | none => exact owns
  | some entry => exact ⟨⟨⟨owns, found entry rfl⟩, begun⟩, placed entry rfl⟩

theorem lookupByToken_triple (sends : Sends task) (own : Belongings) (token : SlotToken) :
    (sending sender).Triple task (Owns task own {}) (lookupByToken token) fun found state =>
      (Owns task (own.plusLoaded found) {} state ∧ FromTable found state) ∧
        ∀ entry, found = some entry → slotToken entry = token := by
  have nothing : ∀ {pre : SenderState → Prop}, (∀ state, pre state → Owns task own {} state) →
      (sending sender).Triple task pre (.done none) fun found state =>
        (Owns task (own.plusLoaded found) {} state ∧ FromTable found state) ∧
          ∀ entry, found = some entry → slotToken entry = token := by
    intro pre owned
    refine triple_done (Stable.and (Stable.and (owns_stable _ _) (fromTable_persistent none).stable)
      (Stable.const _)) ?_
    exact fun state _ holds => ⟨⟨owned state holds, by simp [FromTable]⟩, by simp⟩
  refine triple_bind (lookupBegan_triple own token) fun lookup => triple_exists fun earlier => ?_
  simp only
  split
  · rename_i inside
    refine triple_bind (lookupLoad_triple own _ lookup token earlier) fun loaded => ?_
    cases loaded with
    | none => exact nothing fun _ owns => owns
    | some entry =>
        refine triple_fact fun found => ?_
        obtain ⟨slot, present⟩ := found
        have dropped : (sending sender).Triple task
            (fun state => Owns task (own.plus entry.address) {} state ∧ entry ∈ state.installed)
            ((dropArc entry.sink).bind fun _ => .done none) fun found state =>
              (Owns task (own.plusLoaded found) {} state ∧ FromTable found state) ∧
                ∀ entry, found = some entry → slotToken entry = token :=
          triple_bind (dropEntry_triple own entry) fun _ => nothing fun _ owns => owns
        simp only
        split
        · exact triple_weaken dropped (fun _ _ holds => holds.1) fun _ _ _ holds => holds
        · rename_i sameId
          have issued : slotToken entry = token :=
            slotToken_eq (by rw [slot]) (Decidable.not_not.mp sameId)
          rw [← slot]
          refine triple_bind ((maybeCleanupStaleSlot_triple sends (own.plus entry.address)
            (List.mem_cons_self ..)).persist (lookupAt_persistent lookup token earlier))
            fun cleaned => ?_
          cases cleaned with
          | true => exact triple_weaken dropped (fun _ _ holds => holds.1) fun _ _ _ holds => holds
          | false =>
              refine triple_bind (lookupReturned_triple _ issued present) fun _ => ?_
              refine triple_done (Stable.and (Stable.and (owns_stable _ _)
                (fromTable_persistent (some entry)).stable) (Stable.const _)) ?_
              rintro state - ⟨owns, member⟩
              refine ⟨⟨owns, fun other same => ?_⟩, fun other same => ?_⟩
              · obtain rfl := Option.some.inj same
                exact member
              · obtain rfl := Option.some.inj same
                exact issued
  · exact nothing fun _ holds => holds.1.1

theorem findFreeSlotIn_triple (sends : Sends task) (own : Belongings) (slots : List SlotIndex) :
    (sending sender).Triple task (Owns task own {}) (findFreeSlotIn slots)
      fun _ => Owns task own {} := by
  induction slots with
  | nil => exact triple_done (owns_stable own {}) fun _ _ owns => owns
  | cons idx rest ih =>
      refine triple_bind (load_triple own idx) fun loaded => ?_
      cases loaded with
      | none => exact triple_done (owns_stable own {}) fun _ _ holds => holds.1.1
      | some existing =>
          refine triple_fact fun slot => ?_
          obtain rfl := slot existing rfl
          refine triple_bind (triple_weaken (maybeCleanupStaleSlot_triple sends
            (own.plus existing.address) (List.mem_cons_self ..)) ?_ fun _ _ _ holds => holds)
            fun cleaned => ?_
          · exact fun _ _ holds => ⟨holds.1, holds.2 existing rfl⟩
          cases cleaned with
          | false => exact triple_bind (dropEntry_triple own existing) fun _ => ih
          | true =>
              refine triple_bind
                ((load_triple (own.plus existing.address) existing.slotIndex).persist
                (installed_persistent existing)) fun again => ?_
              refine triple_bind (triple_weaken ((dropLoaded_triple (own.plus existing.address)
                again).persist (installed_persistent existing)) ?_ fun _ _ _ holds => holds)
                  fun _ => ?_
              · exact fun _ _ holds => ⟨holds.1.1, holds.2⟩
              refine triple_bind (dropEntry_triple own existing) fun _ => ?_
              split
              · exact triple_done (owns_stable own {}) fun _ _ owns => owns
              · exact ih

theorem touchPing_triple (sends : Sends task) (own : Belongings) (ping : PingRequest) :
    (sending sender).Triple task (Owns task own {}) (touchPing ping) fun _ => Owns task own {} := by
  refine triple_bind (lookupByToken_triple sends own ping.slotToken) fun found =>
    triple_fact fun _ => ?_
  cases found with
  | none => exact triple_done (owns_stable own {}) fun _ _ holds => holds.1
  | some existing =>
      refine triple_bind ((harmless_triple .nowMs trivial _ {}).persist (fromTable_persistent _))
        fun now => ?_
      refine triple_bind (storeLastSeen_triple _ existing now) fun _ => ?_
      refine triple_bind (dropLoaded_triple own (some existing)) fun _ => ?_
      exact triple_done (owns_stable own {}) fun _ _ owns => owns

end

end Qlaster
