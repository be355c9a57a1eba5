import Qlaster.Registry

/-!
The discipline of the sender: under which conditions each atomic operation is
executed, and that what `Registry` describes survives every such step.
-/

namespace Qlaster

open Interleaving Interleaving.Discipline

/-! The rings. -/

def ringAllows : SenderTask → Item → Prop
  | .dispatcher _, item => item.Valid
  | .handler _, .sentinel => True
  | _, _ => False

theorem ringAllows_valid (task : SenderTask) (item : Item) (allowed : ringAllows task item) :
    item.Valid := by
  cases item with
  | sentinel => trivial
  | frame body =>
      cases task with
      | dispatcher kind => exact allowed
      | _ => exact allowed.elim

def noProgram : Empty → Program ChannelOp Unit := Empty.elim
def noStart (_ : SenderTask) : Empty → Bool := Empty.elim

def ringDiscipline (codecs : Codecs) (address : Nat) :
    Discipline (channelSystem noProgram noStart) :=
  (framing noProgram noStart (.reader address) ringAllows (decodeUpdate codecs) .reading
    ringAllows_valid).both (waking noProgram noStart (.reader address))

theorem ringDiscipline_created (codecs : Codecs) (address capacity : Nat) :
    (ringDiscipline codecs address).inv (Channel.created SenderTask capacity) :=
  ⟨Framed.created capacity, fun _ nonempty => absurd rfl nonempty, fun nonzero =>
    absurd rfl nonzero⟩

def IsUnlink : {β : Type} → ChannelOp β → Prop
  | _, .unlink => True
  | _, _ => False

theorem Channel.exec_linked {choice : ChannelChoice} {task : SenderTask} {β : Type}
    {op : ChannelOp β} {before after : Channel SenderTask} {reply : β} (keeps : ¬ IsUnlink op)
    (executed : before.exec choice task op = some (reply, after)) :
    after.linked = before.linked := by
  cases op with
  | tryWriteSlice bytes =>
      simp only [Channel.exec, Channel.markClose] at executed
      repeat' split at executed
      all_goals simp only [Option.some.injEq, Prod.mk.injEq] at executed
      all_goals obtain ⟨-, rfl⟩ := executed
      all_goals rfl
  | unlink => exact absurd trivial keeps
  | note note =>
      simp only [Channel.exec, Option.some.injEq, Prod.mk.injEq] at executed
      obtain ⟨-, rfl⟩ := executed
      cases note with
      | pushReturned parts result =>
          simp only [Channel.record]
          split <;> rfl
      | popReturned result => cases result <;> rfl
      | _ => rfl
  | _ =>
      simp only [Channel.exec] at executed
      repeat' split at executed
      all_goals simp only [reduceCtorEq, Option.some.injEq, Prod.mk.injEq] at executed
      all_goals obtain ⟨-, rfl⟩ := executed
      all_goals rfl

theorem execRing_exec {choice : ChannelChoice} {task : SenderTask} {present : Bool} {β : Type}
    {op : ChannelOp β} {before after : Channel SenderTask} {reply : β}
    (consistent : before.linked = true → present = true)
    (executed : SenderState.execRing choice task present op before = some (reply, after)) :
    ∃ choice, before.exec choice task op = some (reply, after) := by
  -- With its file in place while it is linked, a ring behaves as one on its own.
  cases op with
  | pathExists =>
      simp only [SenderState.execRing, Option.some.injEq, Prod.mk.injEq] at executed
      obtain ⟨rfl, rfl⟩ := executed
      refine ⟨{ choice with present := present }, ?_⟩
      cases present with
      | true => simp [Channel.exec]
      | false =>
          have gone : before.linked = false := by simpa using consistent
          simp [Channel.exec, gone]
  | _ => exact ⟨choice, executed⟩

structure Wired (codecs : Codecs) (channels : Nat → Channel SenderTask)
    (handles : List (SenderTask × Nat)) : Prop where
  ring : ∀ address, (ringDiscipline codecs address).inv (channels address)
  owing : ∀ address task, task ∈ (channels address).owing → (task, address) ∈ handles

section
variable {codecs : Codecs} {channels : Nat → Channel SenderTask} {handles : List (SenderTask × Nat)}

theorem Wired.more (wired : Wired codecs channels handles) {handles' : List (SenderTask × Nat)}
    (more : handles ⊆ handles') : Wired codecs channels handles' :=
  ⟨wired.ring, fun address task owes => more (wired.owing address task owes)⟩

theorem Wired.release (wired : Wired codecs channels handles) {task : SenderTask} {address : Nat}
    (paid : task ∉ (channels address).owing) :
    Wired codecs channels (handles.erase (task, address)) := by
  refine ⟨wired.ring, fun other debtor owes => ?_⟩
  rw [List.mem_erase_of_ne]
  · exact wired.owing other debtor owes
  · intro same
    obtain ⟨rfl, rfl⟩ := Prod.mk.inj same
    exact paid owes

theorem Wired.update (wired : Wired codecs channels handles) {address : Nat}
    {channel : Channel SenderTask} (kept : (ringDiscipline codecs address).inv channel)
    (owing : ∀ task ∈ channel.owing, (task, address) ∈ handles) :
    Wired codecs (Function.update channels address channel) handles := by
  constructor
  · intro other
    by_cases same : other = address
    · subst same
      simpa using kept
    · rw [Function.update_of_ne same]
      exact wired.ring other
  · intro other task owes
    by_cases same : other = address
    · subst same
      exact owing task (by simpa using owes)
    · rw [Function.update_of_ne same] at owes
      exact wired.owing other task owes

end

def linkedOf (channels : Nat → Channel SenderTask) : Nat → Bool := Channel.linked ∘ channels

theorem linkedOf_update (channels : Nat → Channel SenderTask) (address : Nat)
    (channel : Channel SenderTask) :
    linkedOf (Function.update channels address channel) =
      Function.update (linkedOf channels) address channel.linked :=
  Function.comp_update _ _ _ _

theorem linkedOf_update_same {channels : Nat → Channel SenderTask} {address : Nat}
    {channel : Channel SenderTask} (same : channel.linked = (channels address).linked) :
    linkedOf (Function.update channels address channel) = linkedOf channels := by
  rw [linkedOf_update, same]
  exact Function.update_eq_self _ _

/-! What was installed. -/

structure Described (sender : Sender) (installed : List ManagedConnection) (paths : Nat → Path)
    (filterCount : Nat) (handedOut opened : List Nat) (nextConnectionId : UInt64) (issued : Nat) :
    Prop where
  path : ∀ entry ∈ installed, entry.sink.path = paths entry.address ∧
    entry.sink.path = sender.ringPath entry.slotIndex entry.connectionId
  filter : ∀ entry ∈ installed, entry.filter < filterCount
  handed : ∀ address ∈ handedOut, ∃ entry ∈ installed, entry.address = address
  consumed : ∀ address ∈ opened, address ∈ handedOut
  counted : nextConnectionId = UInt64.ofNat (issued + 1)

structure SenderInv (sender : Sender) (state : SenderState) : Prop where
  tabled : Tabled state.connections state.installed state.removed state.swapped
  owned : Owned state.connections state.installed state.handles state.allocated state.fresh
    state.dying (linkedOf state.channels)
  filed : Filed state.files state.allocated state.paths state.creating (linkedOf state.channels)
  described : Described sender state.installed state.paths state.filters.length state.handedOut
    state.opened state.nextConnectionId state.issued
  wired : Wired sender.codecs state.channels state.handles

/-! What each operation requires of the task that executes it. -/

def managerGuard (sender : Sender) (task : SenderTask) :
    {β : Type} → ManagerOp β → SenderState → Prop
  | _, .compareAndSwap index (some entry) none, state => entry.slotIndex = index ∧
      entry ∈ state.installed ∧ (task, entry.address) ∈ state.closedBy
  | _, .compareAndSwap index none (some entry), state => entry.slotIndex = index ∧
      state.fresh task = some entry.address ∧ (task, entry.address) ∈ state.handles ∧
      entry.sink.path = state.paths entry.address ∧
      entry.sink.path = sender.ringPath index entry.connectionId ∧
      entry.filter < state.filters.length ∧
      ∃ ordinal, state.claims task = some ordinal ∧ entry.connectionId = UInt64.ofNat (ordinal + 1)
  | _, .compareAndSwap _ _ _, _ => False
  | _, .dropHandle address, state => (task, address) ∈ state.handles ∧
      task ∉ (state.channels address).owing
  | _, .dropProducer ring, state => state.dying task = some ring.address ∧
      ring.path = state.paths ring.address ∧ task ∉ (state.channels ring.address).owing
  | _, .fetchAddConnectionId, state => state.claims task = none
  | _, .storeFilter entry filter, state => entry.filter < state.filters.length ∧
      ∃ base seed request, state.snapshots task = some (entry.filter, base) ∧
        filter = base.withRequest seed request
  | _, .createNew path, state => ∃ ordinal index, state.claims task = some ordinal ∧
      path = sender.ringPath index (UInt64.ofNat (ordinal + 1))
  | _, .createQueue path _, state => state.creating task = some path
  | _, .removeFile path, state => state.creating task = some path
  | _, .storeLastSeen entry _, state => entry ∈ state.installed
  | _, .newManaged entry _, state => (task, entry.address) ∈ state.handles ∧
      state.fresh task = some entry.address
  | _, .openRing address, _ => task = .reader address
  | _, .note (.dispatchBegan update), _ => task = .dispatcher update.kind
  | _, .note (.lookupReturned lookup entry), state => entry ∈ state.installed ∧
      ∃ begun, state.lookups[lookup]? = some begun ∧ slotToken entry = begun.1 ∧
        entry.address ∉ begun.2
  | _, .note (.refreshed request entry), state => entry ∈ state.installed ∧
      ∃ base seed, (entry.filter, SubscriptionFilter.withRequest base seed request) ∈ state.stored
  | _, .note (.provisioned (.ok (.created token path _ eventfd))), state =>
      ∃ entry ∈ state.installed, entry.address = eventfd ∧ slotToken entry = token ∧
        entry.sink.path = path
  | _, _, _ => True

def FrameOf (codecs : Codecs) (update : Update) (bytes : Bytes) : Prop :=
  ∃ nanos frame, encodeFrame codecs update nanos = .ok frame ∧
    bytes = (Item.frame (frame.header ++ frame.payload)).bytes

/-- A frame goes to a ring once per call, and only when its filter asked for it. -/
def pushGuard (sender : Sender) (task : SenderTask) (address : Nat) (bytes : Bytes)
    (state : SenderState) : Prop :=
  ∃ kind dispatch rest, task = .dispatcher kind ∧ state.dispatched kind = dispatch :: rest ∧
    FrameOf sender.codecs dispatch.update bytes ∧
    (kind = .slot ∨ address ∈ dispatch.subscribed) ∧ address ∉ dispatch.pushed

def producerGuard (sender : Sender) (task : SenderTask) (address : Nat) :
    {β : Type} → ChannelOp β → SenderState → Prop
  | _, .tryWriteSlice bytes, state => (task, address) ∈ state.handles ∧
      (bytes = sentinelBytes ∨ pushGuard sender task address bytes state)
  | _, .writeEventfd, state => (task, address) ∈ state.handles
  | _, .unlink, _ => False
  | _, .pathExists, state => address ∈ state.opened
  | _, _, _ => True

theorem producerGuard_keeps {sender : Sender} {task : SenderTask} {address : Nat} {β : Type}
    {op : ChannelOp β} {state : SenderState}
    (guarded : producerGuard sender task address op state) : ¬ IsUnlink op := by
  cases op <;> first | exact guarded.elim | exact id

theorem producerGuard_holds {sender : Sender} {task : SenderTask} {address : Nat} {β : Type}
    {op : ChannelOp β} {state : SenderState} (guarded : producerGuard sender task address op state)
    (write : IsWrite op) : (task, address) ∈ state.handles := by
  cases op <;> first | exact guarded.1 | exact write.elim

def senderGuard (sender : Sender) (task : SenderTask) :
    {β : Type} → SenderOp β → SenderState → Prop
  | _, .manager op, state => managerGuard sender task op state
  | _, .channel address op, state =>
      (ringDiscipline sender.codecs address).guard task op (state.channels address) ∧
        producerGuard sender task address op state

/-! Every step keeps the registry in order. -/

theorem SenderInv.hold {sender : Sender} {state : SenderState} (inv : SenderInv sender state)
    {address : Nat} (bound : address < state.allocated)
    (alive : linkedOf state.channels address = true)
    (living : ∀ task, state.dying task ≠ some address) (task : SenderTask) :
    SenderInv sender { state with handles := (task, address) :: state.handles } :=
  ⟨inv.tabled, inv.owned.hold bound alive living task, inv.filed, inv.described,
    inv.wired.more (List.subset_cons_self _ _)⟩

theorem SenderInv.load {sender : Sender} {state : SenderState} (inv : SenderInv sender state)
    (task : SenderTask) (index : SlotIndex) :
    SenderInv sender (state.hold task (state.connections index)) := by
  cases here : state.connections index with
  | none => exact inv
  | some entry =>
      exact inv.hold (inv.owned.numbered entry (inv.tabled.slot index entry here).2.1)
        (inv.owned.tabled index entry here) (inv.owned.living_of_tabled here) task

theorem SenderInv.install {sender : Sender} {state : SenderState} (inv : SenderInv sender state)
    {task : SenderTask} {index : SlotIndex} {entry : ManagedConnection}
    (guarded : managerGuard sender task (.compareAndSwap index none (some entry)) state)
    (free : state.connections index = none) :
    SenderInv sender (state.replace task index (some entry)) := by
  obtain ⟨rfl, mine, held, path, named, filter, -⟩ := guarded
  have tabled := inv.tabled.install free (inv.owned.pristine task entry.address mine).2
  refine ⟨?_, inv.owned.install mine held, inv.filed, ?_, inv.wired⟩
  · simpa [SenderState.replace, free] using tabled
  · have described := inv.described
    constructor
    · intro other member
      rcases List.mem_append.mp member with old | new
      · exact described.path other old
      · obtain rfl := List.mem_singleton.mp new
        exact ⟨path, named⟩
    · intro other member
      rcases List.mem_append.mp member with old | new
      · exact described.filter other old
      · obtain rfl := List.mem_singleton.mp new
        exact filter
    · intro address handed
      obtain ⟨other, member, same⟩ := described.handed address handed
      exact ⟨other, List.mem_append_left _ member, same⟩
    · exact described.consumed
    · exact described.counted

theorem SenderInv.evict {sender : Sender} {state : SenderState} (inv : SenderInv sender state)
    {entry : ManagedConnection} (here : state.connections entry.slotIndex = some entry)
    (task : SenderTask) :
    SenderInv sender ({ state with
      swapped := (task, entry.address) :: state.swapped }.replace task entry.slotIndex none) := by
  refine ⟨?_, inv.owned.evict _, inv.filed, inv.described, inv.wired⟩
  simpa [SenderState.replace, here] using inv.tabled.evict here task

theorem SenderInv.missed {sender : Sender} {state : SenderState} (inv : SenderInv sender state)
    {entry : ManagedConnection} (member : entry ∈ state.installed)
    (elsewhere : state.connections entry.slotIndex ≠ some entry) (task : SenderTask) :
    SenderInv sender { state with swapped := (task, entry.address) :: state.swapped } :=
  ⟨inv.tabled.missed member elsewhere task, inv.owned, inv.filed, inv.described, inv.wired⟩

theorem SenderInv.dropHandle {sender : Sender} {state : SenderState} (inv : SenderInv sender state)
    {task : SenderTask} {address : Nat} (held : (task, address) ∈ state.handles)
    (paid : task ∉ (state.channels address).owing) {choice : SenderChoice} {last : Bool}
    {after : SenderState}
    (executed : state.execManager choice task (.dropHandle address) = some (last, after)) :
    SenderInv sender after := by
  simp only [SenderState.execManager] at executed
  split at executed <;> simp only [Option.some.injEq, Prod.mk.injEq] at executed <;>
    obtain ⟨-, rfl⟩ := executed
  · exact ⟨inv.tabled, inv.owned.release _, inv.filed, inv.described, inv.wired.release paid⟩
  · rename_i lastOne
    simp only [SenderState.tabled, Bool.or_eq_true, List.any_eq_true, decide_eq_true_eq,
      not_or, not_exists] at lastOne
    refine ⟨inv.tabled, inv.owned.releaseLast held ?_ ?_, inv.filed, inv.described,
      inv.wired.release paid⟩
    · exact fun other member => lastOne.1 (other, address) ⟨member, rfl⟩
    · intro index entry here same
      exact lastOne.2 index (by simp [here, same])

theorem SenderInv.dropProducer {sender : Sender} {state : SenderState}
    (inv : SenderInv sender state)
    {task : SenderTask} {ring : ShmRingProducer} (ending : state.dying task = some ring.address)
    (path : ring.path = state.paths ring.address)
    (paid : task ∉ (state.channels ring.address).owing) :
    SenderInv sender { state with
      files := state.files.filter (· ≠ ring.path)
      channels := Function.update state.channels ring.address
        { state.channels ring.address with linked := false }
      dying := Function.update state.dying task none } := by
  obtain ⟨bound, alive, -, -⟩ := inv.owned.ending task ring.address ending
  refine ⟨inv.tabled, ?_, ?_, inv.described, ?_⟩
  · rw [linkedOf_update]
    exact inv.owned.unlink ending
  · rw [linkedOf_update, path]
    exact inv.filed.unlink bound alive
  · refine inv.wired.update ?_ fun debtor owes => inv.wired.owing ring.address debtor owes
    -- The ring sees the removal as its own `unlink`.
    have unlinked :
      (channelSystem noProgram noStart).exec ({} : ChannelChoice) task ChannelOp.unlink
        (state.channels ring.address) =
          some ((), { state.channels ring.address with linked := false }) := rfl
    have permitted : (ringDiscipline sender.codecs ring.address).guard task ChannelOp.unlink
        (state.channels ring.address) := ⟨trivial, fun owes => absurd owes paid, trivial⟩
    exact (ringDiscipline sender.codecs ring.address).preserved (inv.wired.ring ring.address)
      permitted unlinked

theorem SenderInv.createQueue {sender : Sender} {state : SenderState} (inv : SenderInv sender state)
    {task : SenderTask} {path : Path} (mine : state.creating task = some path) (capacity : Nat) :
    SenderInv sender { state with
      channels := Function.update state.channels state.allocated
        (Channel.created SenderTask capacity)
      allocated := state.allocated + 1
      paths := Function.update state.paths state.allocated path
      handles := (task, state.allocated) :: state.handles
      creating := Function.update state.creating task none
      fresh := Function.update state.fresh task (some state.allocated) } := by
  refine ⟨inv.tabled, ?_, ?_, ?_, ?_⟩
  · rw [linkedOf_update]
    exact inv.owned.allocate task
  · rw [linkedOf_update]
    exact inv.filed.allocate mine
  · refine ⟨fun entry member => ?_, inv.described.filter, inv.described.handed,
      inv.described.consumed, inv.described.counted⟩
    obtain ⟨path, named⟩ := inv.described.path entry member
    exact ⟨path.trans (Function.update_of_ne (inv.owned.numbered entry member).ne _ _).symm, named⟩
  · refine (inv.wired.more (List.subset_cons_self _ _)).update
      (ringDiscipline_created sender.codecs _ capacity) ?_
    simp [Channel.created]

inductive Swap (task : SenderTask) (state : SenderState) : SlotIndex → Option ManagedConnection →
    Option ManagedConnection → Option ManagedConnection → SenderState → Prop
  | evicted (entry : ManagedConnection) (here : state.connections entry.slotIndex = some entry) :
      Swap task state entry.slotIndex (some entry) none (some entry)
        (({ state with swapped := (task, entry.address) :: state.swapped }.replace task
          entry.slotIndex none).hold task (some entry))
  | missed (entry : ManagedConnection)
      (elsewhere : state.connections entry.slotIndex ≠ some entry) :
      Swap task state entry.slotIndex (some entry) none (state.connections entry.slotIndex)
        ({ state with swapped := (task, entry.address) :: state.swapped }.hold task
          (state.connections entry.slotIndex))
  | installed (entry : ManagedConnection) (free : state.connections entry.slotIndex = none) :
      Swap task state entry.slotIndex none (some entry) none
        (state.replace task entry.slotIndex (some entry))
  | lost (entry other : ManagedConnection)
      (taken : state.connections entry.slotIndex = some other) :
      Swap task state entry.slotIndex none (some entry) (some other) (state.hold task (some other))

theorem SenderInv.swap {sender : Sender} {choice : SenderChoice} {task : SenderTask}
    {index : SlotIndex} {current new previous : Option ManagedConnection}
    {before after : SenderState} (inv : SenderInv sender before)
    (guarded : managerGuard sender task (.compareAndSwap index current new) before)
    (executed : before.execManager choice task (.compareAndSwap index current new) =
      some (previous, after)) : Swap task before index current new previous after := by
  simp only [SenderState.execManager] at executed
  match current, new with
  | some _, some _ => exact guarded.elim
  | none, none => exact guarded.elim
  | some entry, none =>
      obtain ⟨rfl, member, -⟩ := guarded
      by_cases here : before.connections entry.slotIndex = some entry
      · rw [here] at executed
        simp only [if_true, Option.some.injEq, Prod.mk.injEq] at executed
        obtain ⟨rfl, rfl⟩ := executed
        exact .evicted entry here
      · -- Another entry has another address.
        have different : (before.connections entry.slotIndex).map ManagedConnection.address ≠
            some entry.address := by
          intro same
          obtain ⟨other, found, address⟩ := Option.map_eq_some_iff.mp same
          rw [inv.tabled.unique other (inv.tabled.slot _ other found).2.1 entry member
            address] at found
          exact here found
        rw [Option.map_some, if_neg different] at executed
        simp only [Option.some.injEq, Prod.mk.injEq] at executed
        obtain ⟨rfl, rfl⟩ := executed
        exact .missed entry here
  | none, some entry =>
      obtain ⟨rfl, -⟩ := guarded
      cases here : before.connections entry.slotIndex with
      | none =>
          simp only [here, Option.map_none, if_true, Option.some.injEq, Prod.mk.injEq] at executed
          obtain ⟨rfl, rfl⟩ := executed
          exact .installed entry here
      | some other =>
          simp only [here, Option.map_some, Option.map_none, reduceCtorEq, if_false,
            Option.some.injEq, Prod.mk.injEq] at executed
          obtain ⟨rfl, rfl⟩ := executed
          exact .lost entry other here

theorem SenderInv.compareAndSwap {sender : Sender} {choice : SenderChoice} {task : SenderTask}
    {index : SlotIndex} {current new previous : Option ManagedConnection}
    {before after : SenderState} (inv : SenderInv sender before)
    (guarded : managerGuard sender task (.compareAndSwap index current new) before)
    (executed : before.execManager choice task (.compareAndSwap index current new) =
      some (previous, after)) : SenderInv sender after := by
  cases inv.swap guarded executed with
  | evicted entry here =>
      have swept := inv.evict here task
      -- The caller is handed an `Arc` on what it took out.
      exact swept.hold (inv.owned.numbered entry guarded.2.1) (inv.owned.tabled _ entry here)
        (inv.owned.living_of_tabled here) task
  | missed entry elsewhere =>
    exact (inv.missed guarded.2.1 elsewhere task).load task entry.slotIndex
  | installed entry free => exact inv.install guarded free
  | lost entry other taken =>
      have loaded := inv.load task entry.slotIndex
      rwa [taken] at loaded

theorem SenderInv.note {sender : Sender} {task : SenderTask} {note : SenderNote}
    {state : SenderState} (inv : SenderInv sender state)
    (guarded : managerGuard sender task (.note note) state) :
    SenderInv sender (state.record task note) := by
  match note with
  | .provisioned (.ok (.created token path capacity eventfd)) =>
      obtain ⟨entry, member, address, -⟩ := guarded
      have described := inv.described
      refine ⟨inv.tabled, inv.owned, inv.filed, ⟨described.path, described.filter, ?_, ?_,
        described.counted⟩, inv.wired⟩
      · intro handed new
        rcases List.mem_cons.mp new with rfl | old
        · exact ⟨entry, member, address⟩
        · exact described.handed handed old
      · exact fun other opened => List.mem_cons_of_mem _ (described.consumed other opened)
  | .provisioned (.ok (.existing _)) =>
    exact ⟨inv.tabled, inv.owned, inv.filed, inv.described, inv.wired⟩
  | .provisioned (.error _) => exact ⟨inv.tabled, inv.owned, inv.filed, inv.described, inv.wired⟩
  | .dispatchBegan _ => exact ⟨inv.tabled, inv.owned, inv.filed, inv.described, inv.wired⟩
  | .sinkClosed _ => exact ⟨inv.tabled, inv.owned, inv.filed, inv.described, inv.wired⟩
  | .lookupReturned _ _ => exact ⟨inv.tabled, inv.owned, inv.filed, inv.described, inv.wired⟩
  | .refreshed _ _ => exact ⟨inv.tabled, inv.owned, inv.filed, inv.described, inv.wired⟩

theorem SenderInv.manager {sender : Sender} {choice : SenderChoice} {task : SenderTask} {β : Type}
    {op : ManagerOp β} {before after : SenderState} {reply : β} (inv : SenderInv sender before)
    (guarded : managerGuard sender task op before)
    (executed : before.execManager choice task op = some (reply, after)) :
    SenderInv sender after := by
  cases op with
  | loadSlot index =>
      simp only [SenderState.execManager, Option.some.injEq, Prod.mk.injEq] at executed
      obtain ⟨-, rfl⟩ := executed
      exact inv.load task index
  | compareAndSwap index current new => exact inv.compareAndSwap guarded executed
  | dropHandle address => exact inv.dropHandle guarded.1 guarded.2 executed
  | dropProducer ring =>
      simp only [SenderState.execManager, Option.some.injEq, Prod.mk.injEq] at executed
      obtain ⟨-, rfl⟩ := executed
      exact inv.dropProducer guarded.1 guarded.2.1 guarded.2.2
  | createNew path =>
      simp only [SenderState.execManager] at executed
      repeat' split at executed
      all_goals simp only [Option.some.injEq, Prod.mk.injEq] at executed
      all_goals obtain ⟨-, rfl⟩ := executed
      · exact inv
      · exact inv
      · rename_i absent
        exact ⟨inv.tabled, inv.owned, inv.filed.createNew absent task, inv.described, inv.wired⟩
  | createQueue path capacity =>
      simp only [SenderState.execManager] at executed
      split at executed <;> simp only [Option.some.injEq, Prod.mk.injEq] at executed <;>
        obtain ⟨-, rfl⟩ := executed
      · exact inv
      · exact inv.createQueue guarded capacity
  | removeFile path =>
      simp only [SenderState.execManager, Option.some.injEq, Prod.mk.injEq] at executed
      obtain ⟨-, rfl⟩ := executed
      exact ⟨inv.tabled, inv.owned, inv.filed.removeFile guarded, inv.described, inv.wired⟩
  | newManaged entry lastSeenMs =>
      simp only [SenderState.execManager, Option.some.injEq, Prod.mk.injEq] at executed
      obtain ⟨-, rfl⟩ := executed
      obtain ⟨bound, alive⟩ := inv.owned.held task entry.address guarded.1
      have held := inv.hold bound alive (inv.owned.living_of_held guarded.1) task
      exact ⟨held.tabled, held.owned, held.filed, held.described, held.wired⟩
  | newFilter filter =>
      simp only [SenderState.execManager, Option.some.injEq, Prod.mk.injEq] at executed
      obtain ⟨-, rfl⟩ := executed
      have described := inv.described
      refine ⟨inv.tabled, inv.owned, inv.filed, ⟨described.path, fun entry member => ?_,
        described.handed, described.consumed, described.counted⟩, inv.wired⟩
      have bound := described.filter entry member
      rw [List.length_append]
      omega
  | storeFilter entry filter =>
      simp only [SenderState.execManager, Option.some.injEq, Prod.mk.injEq] at executed
      obtain ⟨-, rfl⟩ := executed
      have described := inv.described
      rw [← List.length_set (i := entry.filter) (a := filter)] at described
      exact ⟨inv.tabled, inv.owned, inv.filed, described, inv.wired⟩
  | fetchAddConnectionId =>
      simp only [SenderState.execManager, Option.some.injEq, Prod.mk.injEq] at executed
      obtain ⟨-, rfl⟩ := executed
      have described := inv.described
      refine ⟨inv.tabled, inv.owned, inv.filed, ⟨described.path, described.filter, described.handed,
        described.consumed, ?_⟩, inv.wired⟩
      rw [described.counted, UInt64.ofNat_add (before.issued + 1) 1]
      rfl
  | openRing address =>
      simp only [SenderState.execManager] at executed
      repeat' split at executed
      all_goals simp only [reduceCtorEq, Option.some.injEq, Prod.mk.injEq] at executed
      all_goals obtain ⟨-, rfl⟩ := executed
      · rename_i handed _
        have described := inv.described
        refine ⟨inv.tabled, inv.owned, inv.filed, ⟨described.path, described.filter,
          described.handed, ?_, described.counted⟩, inv.wired⟩
        intro other member
        rcases List.mem_cons.mp member with rfl | old
        · exact handed.1
        · exact described.consumed other old
      · exact inv
  | note note =>
      simp only [SenderState.execManager, Option.some.injEq, Prod.mk.injEq] at executed
      obtain ⟨-, rfl⟩ := executed
      exact inv.note guarded
  | _ =>
      simp only [SenderState.execManager] at executed
      repeat' split at executed
      all_goals simp only [reduceCtorEq, Option.some.injEq, Prod.mk.injEq] at executed
      all_goals obtain ⟨-, rfl⟩ := executed
      all_goals exact ⟨inv.tabled, inv.owned, inv.filed, inv.described, inv.wired⟩

theorem SenderState.execChannel_ring {choice : SenderChoice} {task : SenderTask} {target : Nat}
    {β : Type} {op : ChannelOp β} {before after : SenderState} {reply : β}
    (executed : before.execChannel choice task target op = some (reply, after)) :
    target < before.allocated ∧ ∃ channel,
      SenderState.execRing choice.toChannelChoice task
        (decide (before.paths target ∈ before.files)) op (before.channels target) =
          some (reply, channel) ∧
      after = { before with
        channels := Function.update before.channels target channel
        dispatched := before.recordPush task target op reply } := by
  unfold SenderState.execChannel at executed
  split at executed
  · rename_i bound
    split at executed
    · simp at executed
    · rename_i reply' channel ran
      simp only [Option.some.injEq, Prod.mk.injEq] at executed
      obtain ⟨rfl, rfl⟩ := executed
      exact ⟨bound, channel, ran, rfl⟩
  · simp at executed

theorem SenderInv.ringExec {sender : Sender} {before : SenderState} (inv : SenderInv sender before)
    {choice : ChannelChoice} {task : SenderTask} {address : Nat}
    (bound : address < before.allocated)
    {β : Type} {op : ChannelOp β} {reply : β} {channel : Channel SenderTask}
    (ran : SenderState.execRing choice task (decide (before.paths address ∈ before.files)) op
      (before.channels address) = some (reply, channel)) :
    ∃ choice, (before.channels address).exec choice task op = some (reply, channel) :=
  execRing_exec (fun alive => by simpa using inv.filed.present address bound alive) ran

theorem SenderState.execChannel_exec {sender : Sender} {choice : SenderChoice} {task : SenderTask}
    {address : Nat} {β : Type} {op : ChannelOp β} {before after : SenderState} {reply : β}
    (inv : SenderInv sender before)
    (executed : before.execChannel choice task address op = some (reply, after)) :
    address < before.allocated ∧ ∃ choice channel,
      (before.channels address).exec choice task op = some (reply, channel) ∧
      after = { before with
        channels := Function.update before.channels address channel
        dispatched := before.recordPush task address op reply } := by
  obtain ⟨bound, channel, ran, same⟩ := SenderState.execChannel_ring executed
  obtain ⟨choice', ran'⟩ := inv.ringExec bound ran
  exact ⟨bound, choice', channel, ran', same⟩

theorem SenderInv.channel {sender : Sender} {choice : SenderChoice} {task : SenderTask}
    {address : Nat} {β : Type} {op : ChannelOp β} {before after : SenderState} {reply : β}
    (inv : SenderInv sender before) (guarded : senderGuard sender task (.channel address op) before)
    (executed : before.execChannel choice task address op = some (reply, after)) :
    SenderInv sender after := by
  obtain ⟨-, choice', channel, ran, rfl⟩ := SenderState.execChannel_exec inv executed
  have linked := Channel.exec_linked (producerGuard_keeps guarded.2) ran
  refine ⟨inv.tabled, ?_, ?_, inv.described, inv.wired.update ?_ ?_⟩
  · rw [linkedOf_update_same linked]
    exact inv.owned
  · rw [linkedOf_update_same linked]
    exact inv.filed
  · exact (ringDiscipline sender.codecs address).preserved (inv.wired.ring address) guarded.1 ran
  · intro debtor owes
    rcases Channel.exec_owing ran owes with before | ⟨rfl, isWrite⟩
    · exact inv.wired.owing address debtor before
    · exact producerGuard_holds guarded.2 isWrite

/-! What other tasks leave alone. -/

/-- The part of the history that only ever grows. -/
structure Grows (before after : SenderState) : Prop where
  installed : before.installed <+: after.installed
  removed : before.removed <+: after.removed
  closedBy : before.closedBy ⊆ after.closedBy
  allocated : before.allocated ≤ after.allocated
  paths : ∀ address < before.allocated, after.paths address = before.paths address
  filters : before.filters.length ≤ after.filters.length
  stored : before.stored ⊆ after.stored
  lookups : before.lookups <+: after.lookups
  opened : before.opened ⊆ after.opened
  refreshed : before.refreshed ⊆ after.refreshed

theorem Grows.manager {choice : SenderChoice} {task : SenderTask} {β : Type} {op : ManagerOp β}
    {before after : SenderState} {reply : β}
    (executed : before.execManager choice task op = some (reply, after)) : Grows before after := by
  cases op with
  | createQueue path capacity =>
      simp only [SenderState.execManager] at executed
      split at executed <;> simp only [Option.some.injEq, Prod.mk.injEq] at executed <;>
        obtain ⟨-, rfl⟩ := executed
      · constructor <;> simp
      · refine ⟨List.prefix_rfl, List.prefix_rfl, List.Subset.refl _, Nat.le_succ _,
          ?_, Nat.le_refl _,
          List.Subset.refl _, List.prefix_rfl, List.Subset.refl _, List.Subset.refl _⟩
        exact fun address bound => Function.update_of_ne bound.ne _ _
  | compareAndSwap index current new =>
      simp only [SenderState.execManager] at executed
      split at executed <;> simp only [Option.some.injEq, Prod.mk.injEq] at executed <;>
        obtain ⟨-, rfl⟩ := executed
      · cases new <;> constructor <;> simp [SenderState.hold, SenderState.replace]
      · constructor <;> simp [SenderState.hold]
  | note note =>
      simp only [SenderState.execManager, Option.some.injEq, Prod.mk.injEq] at executed
      obtain ⟨-, rfl⟩ := executed
      unfold SenderState.record
      split <;> constructor <;> simp
  | _ =>
      simp only [SenderState.execManager] at executed
      repeat' split at executed
      all_goals simp only [reduceCtorEq, Option.some.injEq, Prod.mk.injEq] at executed
      all_goals obtain ⟨-, rfl⟩ := executed
      all_goals constructor <;> simp [SenderState.hold]

def heldBy (handles : List (SenderTask × Nat)) (task : SenderTask) : List Nat :=
  (handles.filter fun handle => handle.1 = task).map Prod.snd

theorem mem_heldBy {handles : List (SenderTask × Nat)} {task : SenderTask} {address : Nat} :
    address ∈ heldBy handles task ↔ (task, address) ∈ handles := by
  simp only [heldBy, List.mem_map, List.mem_filter, decide_eq_true_eq, Prod.exists,
    exists_eq_right]

@[simp] theorem heldBy_cons_self (handles : List (SenderTask × Nat)) (task : SenderTask)
    (address : Nat) :
    heldBy ((task, address) :: handles) task = address :: heldBy handles task := by
  simp [heldBy]

@[simp] theorem heldBy_cons_of_ne {task other : SenderTask} (different : other ≠ task)
    (handles : List (SenderTask × Nat)) (address : Nat) :
    heldBy ((other, address) :: handles) task = heldBy handles task := by
  simp [heldBy, different]

theorem heldBy_erase_self (handles : List (SenderTask × Nat)) (task : SenderTask) (address : Nat) :
    heldBy (handles.erase (task, address)) task = (heldBy handles task).erase address := by
  induction handles with
  | nil => rfl
  | cons handle handles ih =>
      obtain ⟨holder, held⟩ := handle
      by_cases mine : holder = task
      · subst mine
        by_cases same : held = address
        · subst same
          simp
        · have apart : (holder, held) ≠ (holder, address) := fun clash => same (Prod.mk.inj clash).2
          rw [List.erase_cons_tail (by simpa using apart), heldBy_cons_self, heldBy_cons_self,
            List.erase_cons_tail (by simpa using same), ih]
      · have apart : (holder, held) ≠ (task, address) := fun clash => mine (Prod.mk.inj clash).1
        rw [List.erase_cons_tail (by simpa using apart), heldBy_cons_of_ne mine,
          heldBy_cons_of_ne mine, ih]

theorem heldBy_erase_of_ne {task other : SenderTask} (different : other ≠ task)
    (handles : List (SenderTask × Nat)) (address : Nat) :
    heldBy (handles.erase (other, address)) task = heldBy handles task := by
  induction handles with
  | nil => rfl
  | cons handle handles ih =>
      by_cases same : handle = (other, address)
      · subst same
        simp [different]
      · rw [List.erase_cons_tail (by simpa using same)]
        simp only [heldBy, List.filter_cons] at ih ⊢
        split <;> simp [ih]

def currentOf (dispatched : Kind → List Dispatch) : SenderTask → Option (Update × List Nat)
  | .dispatcher kind =>
    (dispatched kind).head?.map fun dispatch => (dispatch.update, dispatch.pushed)
  | _ => none

structure Untouched (task : SenderTask) (before after : SenderState) : Prop where
  claims : after.claims task = before.claims task
  fresh : after.fresh task = before.fresh task
  creating : after.creating task = before.creating task
  dying : after.dying task = before.dying task
  snapshots : after.snapshots task = before.snapshots task
  held : heldBy after.handles task = heldBy before.handles task
  dispatched : ∀ kind, task = .dispatcher kind → after.dispatched kind = before.dispatched kind
  owing : ∀ address, task ∈ (after.channels address).owing → task ∈ (before.channels address).owing

theorem SenderState.currentDispatch_other {state : SenderState} {task : SenderTask} {kind : Kind}
    (different : task ≠ .dispatcher kind) (change : Dispatch → Dispatch) :
    state.currentDispatch task change kind = state.dispatched kind := by
  cases task with
  | dispatcher other =>
      have apart : kind ≠ other := fun same => different (by rw [same])
      simp [SenderState.currentDispatch, apart]
  | _ => rfl

theorem heldBy_hold {task other : SenderTask} (different : other ≠ task)
    (loaded : Option ManagedConnection) (handles : List (SenderTask × Nat)) :
    heldBy ((loaded.map fun entry => (other, entry.address)).toList ++ handles) task =
      heldBy handles task := by
  cases loaded with
  | none => rfl
  | some entry => exact heldBy_cons_of_ne different handles entry.address

theorem Untouched.manager {sender : Sender} {choice : SenderChoice} {task other : SenderTask}
    {β : Type} {op : ManagerOp β} {before after : SenderState} {reply : β}
    (different : other ≠ task) (guarded : managerGuard sender other op before)
    (executed : before.execManager choice other op = some (reply, after)) :
    Untouched task before after := by
  have mine : ∀ {γ : Type} (f : SenderTask → γ) (value : γ),
      Function.update f other value task = f task := fun f value =>
    Function.update_of_ne different.symm _ _
  cases op with
  | loadSlot index =>
      simp only [SenderState.execManager, Option.some.injEq, Prod.mk.injEq] at executed
      obtain ⟨-, rfl⟩ := executed
      exact ⟨rfl, rfl, rfl, rfl, rfl, heldBy_hold different _ _, fun _ _ => rfl, fun _ => id⟩
  | compareAndSwap index current new =>
      simp only [SenderState.execManager] at executed
      split at executed <;> simp only [Option.some.injEq, Prod.mk.injEq] at executed <;>
        obtain ⟨-, rfl⟩ := executed
      · cases new with
        | none =>
          exact ⟨rfl, rfl, rfl, rfl, rfl, heldBy_hold different _ _, fun _ _ => rfl, fun _ => id⟩
        | some entry =>
            exact ⟨mine _ _, mine _ _, rfl, rfl, rfl, heldBy_hold different _ _, fun _ _ => rfl,
              fun _ => id⟩
      · exact ⟨rfl, rfl, rfl, rfl, rfl, heldBy_hold different _ _, fun _ _ => rfl, fun _ => id⟩
  | dropHandle address =>
      have held := heldBy_erase_of_ne different before.handles address
      simp only [SenderState.execManager] at executed
      split at executed <;> simp only [Option.some.injEq, Prod.mk.injEq] at executed <;>
        obtain ⟨-, rfl⟩ := executed
      · exact ⟨rfl, rfl, rfl, rfl, rfl, held, fun _ _ => rfl, fun _ => id⟩
      · exact ⟨rfl, rfl, rfl, mine _ _, rfl, held, fun _ _ => rfl, fun _ => id⟩
  | dropProducer ring =>
      simp only [SenderState.execManager, Option.some.injEq, Prod.mk.injEq] at executed
      obtain ⟨-, rfl⟩ := executed
      refine ⟨rfl, rfl, rfl, mine _ _, rfl, rfl, fun _ _ => rfl, fun address owes => ?_⟩
      by_cases same : address = ring.address
      · subst same
        simpa using owes
      · simpa only [ne_eq, same, not_false_eq_true, Function.update_of_ne] using owes
  | createQueue path capacity =>
      simp only [SenderState.execManager] at executed
      split at executed <;> simp only [Option.some.injEq, Prod.mk.injEq] at executed <;>
        obtain ⟨-, rfl⟩ := executed
      · exact ⟨rfl, rfl, rfl, rfl, rfl, rfl, fun _ _ => rfl, fun _ => id⟩
      · refine ⟨rfl, mine _ _, mine _ _, rfl, rfl, heldBy_cons_of_ne different _ _, fun _ _ => rfl,
          fun address owes => ?_⟩
        by_cases same : address = before.allocated
        · simp [same, Channel.created] at owes
        · simpa only [ne_eq, same, not_false_eq_true, Function.update_of_ne] using owes
  | newManaged entry ms =>
      simp only [SenderState.execManager, Option.some.injEq, Prod.mk.injEq] at executed
      obtain ⟨-, rfl⟩ := executed
      exact ⟨rfl, rfl, rfl, rfl, rfl, heldBy_cons_of_ne different _ _, fun _ _ => rfl, fun _ => id⟩
  | loadFilter entry =>
      simp only [SenderState.execManager] at executed
      split at executed
      · simp at executed
      · simp only [Option.some.injEq, Prod.mk.injEq] at executed
        obtain ⟨-, rfl⟩ := executed
        refine ⟨rfl, rfl, rfl, rfl, mine _ _, rfl, fun kind isMine => ?_, fun _ => id⟩
        subst isMine
        exact SenderState.currentDispatch_other different _
  | note note =>
      simp only [SenderState.execManager, Option.some.injEq, Prod.mk.injEq] at executed
      obtain ⟨-, rfl⟩ := executed
      unfold SenderState.record
      split
      · refine ⟨rfl, rfl, rfl, rfl, rfl, rfl, fun kind isMine => ?_, fun _ => id⟩
        subst isMine
        subst guarded
        exact Function.update_of_ne (fun same => different (by rw [same])) _ _
      all_goals
        refine ⟨?_, rfl, rfl, rfl, rfl, rfl, fun _ _ => rfl, fun _ => id⟩
        first | rfl | exact mine _ _
  | _ =>
      simp only [SenderState.execManager] at executed
      repeat' split at executed
      all_goals simp only [reduceCtorEq, Option.some.injEq, Prod.mk.injEq] at executed
      all_goals obtain ⟨-, rfl⟩ := executed
      all_goals
        refine ⟨?_, rfl, ?_, rfl, rfl, rfl, fun _ _ => rfl, fun _ => id⟩
        all_goals first | rfl | exact mine _ _

theorem SenderState.recordPush_other {state : SenderState} {task : SenderTask} {kind : Kind}
    (different : task ≠ .dispatcher kind) (address : Nat) {β : Type} (op : ChannelOp β)
    (reply : β) : state.recordPush task address op reply kind = state.dispatched kind := by
  cases op with
  | tryWriteSlice bytes =>
      simp only [SenderState.recordPush]
      split
      · exact SenderState.currentDispatch_other different _
      · rfl
  | _ => rfl

theorem Untouched.channel {sender : Sender} {choice : SenderChoice} {task other : SenderTask}
    {address : Nat} {β : Type} {op : ChannelOp β} {before after : SenderState} {reply : β}
    (different : other ≠ task) (inv : SenderInv sender before)
    (executed : before.execChannel choice other address op = some (reply, after)) :
    Untouched task before after := by
  obtain ⟨-, choice', channel, ran, rfl⟩ := SenderState.execChannel_exec inv executed
  refine ⟨rfl, rfl, rfl, rfl, rfl, rfl, fun kind isMine => ?_, fun ring owes => ?_⟩
  · subst isMine
    exact SenderState.recordPush_other different address op reply
  · by_cases same : ring = address
    · subst same
      simp only [Function.update_self] at owes
      exact (Channel.exec_owing ran owes).resolve_right fun own => different own.1.symm
    · simpa only [ne_eq, same, not_false_eq_true, Function.update_of_ne] using owes

/-! Seen from a ring, the sender's steps are steps on that ring. -/

def Drops (address : Nat) : {β : Type} → SenderOp β → Prop
  | _, .manager (.dropProducer ring) => ring.address = address
  | _, _ => False

inductive RingStep (sender : Sender) (task : SenderTask) {β : Type} (performed : SenderOp β)
    (address : Nat) (before after : SenderState) : Prop
  | same (unchanged : after.channels address = before.channels address)
  | exec (choice : ChannelChoice) {γ : Type} (op : ChannelOp γ) (reply : γ)
      (bound : address < before.allocated)
      (guarded : senderGuard sender task (.channel address op) before)
      (ran : SenderState.execRing choice task (decide (before.paths address ∈ before.files)) op
        (before.channels address) = some (reply, after.channels address))
  | unlink (drops : Drops address performed) (path : before.paths address ∉ after.files)
      (ending : before.dying task = some address)
      (paid : task ∉ (before.channels address).owing)
      (unlinked : after.channels address = { before.channels address with linked := false })
  | create (capacity : Nat) (unused : address = before.allocated)
      (created : after.channels address = Channel.created SenderTask capacity)

section
variable {sender : Sender} {choice : SenderChoice} {task : SenderTask} {β : Type} {op : SenderOp β}
  {before after : SenderState} {reply : β}

theorem exec_ring (guarded : senderGuard sender task op before)
    (executed : before.exec choice task op = some (reply, after)) (address : Nat) :
    RingStep sender task op address before after := by
  cases op with
  | channel target op =>
      obtain ⟨bound, channel, ran, rfl⟩ := SenderState.execChannel_ring executed
      by_cases same : address = target
      · subst same
        exact .exec choice.toChannelChoice op reply bound guarded (by simpa using ran)
      · exact .same (Function.update_of_ne same _ _)
  | manager op =>
      simp only [SenderState.exec] at executed
      cases op with
      | dropProducer ring =>
          simp only [SenderState.execManager, Option.some.injEq, Prod.mk.injEq] at executed
          obtain ⟨-, rfl⟩ := executed
          by_cases same : address = ring.address
          · subst same
            obtain ⟨ending, path, paid⟩ := guarded
            exact .unlink rfl (by simp [path]) ending paid (by simp)
          · exact .same (Function.update_of_ne same _ _)
      | createQueue path capacity =>
          simp only [SenderState.execManager] at executed
          split at executed <;> simp only [Option.some.injEq, Prod.mk.injEq] at executed <;>
            obtain ⟨-, rfl⟩ := executed
          · exact .same rfl
          · by_cases same : address = before.allocated
            · exact .create capacity same (by simp [same])
            · exact .same (Function.update_of_ne same _ _)
      | compareAndSwap index current new =>
          simp only [SenderState.execManager] at executed
          split at executed <;> simp only [Option.some.injEq, Prod.mk.injEq] at executed <;>
            obtain ⟨-, rfl⟩ := executed
          · cases new <;> exact .same rfl
          · exact .same rfl
      | note note =>
          simp only [SenderState.execManager, Option.some.injEq, Prod.mk.injEq] at executed
          obtain ⟨-, rfl⟩ := executed
          unfold SenderState.record
          split <;> exact .same rfl
      | _ =>
          simp only [SenderState.execManager] at executed
          repeat' split at executed
          all_goals simp only [reduceCtorEq, Option.some.injEq, Prod.mk.injEq] at executed
          all_goals obtain ⟨-, rfl⟩ := executed
          all_goals exact .same rfl

theorem ring_later {other : SenderTask} (different : other ≠ task) (inv : SenderInv sender before)
    (guarded : senderGuard sender other op before)
    (executed : before.exec choice other op = some (reply, after)) {address : Nat}
    (bound : address < before.allocated) :
    (ringDiscipline sender.codecs address).Later task (before.channels address)
      (after.channels address) := by
  have ring := inv.wired.ring address
  cases exec_ring guarded executed address with
  | same unchanged =>
      rw [unchanged]
      exact .refl
  | exec choice' op' reply' _ guarded' ran =>
      obtain ⟨choice'', ran'⟩ := inv.ringExec bound ran
      exact .single ⟨ring, other, choice'', _, op', reply', different, guarded'.1, ran'⟩
  | unlink _ _ _ paid unlinked =>
      have permitted : (ringDiscipline sender.codecs address).guard other ChannelOp.unlink
          (before.channels address) := ⟨trivial, fun owes => absurd owes paid, trivial⟩
      rw [unlinked]
      exact .single ⟨ring, other, {}, Unit, .unlink, (), different, permitted, rfl⟩
  | create capacity unused created => omega

theorem ring_unused (inv : SenderInv sender before) (guarded : senderGuard sender task op before)
    (executed : before.exec choice task op = some (reply, after)) {address : Nat}
    (unused : before.allocated ≤ address) : after.channels address = before.channels address ∨
      ∃ capacity, after.channels address = Channel.created SenderTask capacity := by
  cases exec_ring guarded executed address with
  | same unchanged => exact .inl unchanged
  | exec choice' op' reply' bound guarded' ran => omega
  | unlink _ _ ending _ _ =>
      have bound := (inv.owned.ending task address ending).1
      omega
  | create capacity _ created => exact .inr ⟨capacity, created⟩

end

/-! The discipline. -/

/-- What a task has in hand while it is at work. -/
structure Belongings where
  claim : Option Nat
  fresh : Option Nat
  held : List Nat
  current : Option (Update × List Nat)

structure Busy where
  creating : Option Path := none
  dying : Option Nat := none
  -- A ring written to and not yet notified.
  debt : Option Nat := none

structure Owns (task : SenderTask) (own : Belongings) (busy : Busy) (state : SenderState) :
    Prop where
  claim : state.claims task = own.claim
  fresh : state.fresh task = own.fresh
  held : heldBy state.handles task = own.held
  current : currentOf state.dispatched task = own.current
  creating : state.creating task = busy.creating
  dying : state.dying task = busy.dying
  paid : ∀ address, busy.debt ≠ some address → task ∉ (state.channels address).owing

theorem Owns.untouched {task : SenderTask} {own : Belongings} {busy : Busy}
    {before after : SenderState} (owns : Owns task own busy before)
    (untouched : Untouched task before after) : Owns task own busy after := by
  refine ⟨untouched.claims.trans owns.claim, untouched.fresh.trans owns.fresh,
    untouched.held.trans owns.held, ?_, untouched.creating.trans owns.creating,
    untouched.dying.trans owns.dying, ?_⟩
  · rw [← owns.current]
    cases task with
    | dispatcher kind => simp only [currentOf, untouched.dispatched kind rfl]
    | _ => rfl
  · exact fun address clear owes => owns.paid address clear (untouched.owing address owes)

theorem ringDiscipline_rest_created (codecs : Codecs) (address capacity : Nat) (task : SenderTask) :
    (ringDiscipline codecs address).rest task (Channel.created SenderTask capacity) := by
  refine ⟨fun _ => ⟨0, ⟨Nat.zero_le _, rfl, ?_, ?_⟩, Nat.zero_le _, rfl⟩, List.not_mem_nil⟩
  · intro closed
    simp [Channel.created] at closed
  · intro _ m bound
    omega

theorem Untouched.exec {sender : Sender} {choice : SenderChoice} {task other : SenderTask}
    {β : Type} {op : SenderOp β} {before after : SenderState} {reply : β} (different : other ≠ task)
    (inv : SenderInv sender before) (guarded : senderGuard sender other op before)
    (executed : before.exec choice other op = some (reply, after)) :
    Untouched task before after := by
  cases op with
  | manager op => exact Untouched.manager different guarded executed
  | channel address op => exact Untouched.channel different inv executed

theorem Grows.exec {sender : Sender} {choice : SenderChoice} {task : SenderTask} {β : Type}
    {op : SenderOp β} {before after : SenderState} {reply : β} (inv : SenderInv sender before)
    (executed : before.exec choice task op = some (reply, after)) : Grows before after := by
  cases op with
  | manager op => exact Grows.manager executed
  | channel address op =>
      obtain ⟨-, -, -, -, rfl⟩ := SenderState.execChannel_exec inv executed
      constructor <;> simp

/-- Tasks of the sender and of its consumers keep to the guards; between calls a task holds nothing.
-/
def sending (sender : Sender) : Discipline (senderSystem sender) where
  inv := SenderInv sender
  guard task _ op state := senderGuard sender task op state
  rest task state := (∃ fresh current, Owns task ⟨none, fresh, [], current⟩ {} state) ∧
    ∀ address, (ringDiscipline sender.codecs address).rest task (state.channels address)
  preserved := by
    intro choice task β op state reply after inv guarded executed
    cases op with
    | manager op => exact inv.manager guarded executed
    | channel address op => exact inv.channel guarded executed
  rest_stable := by
    intro choice task other β op state reply after different inv guarded executed rest
    obtain ⟨⟨fresh, current, owns⟩, rings⟩ := rest
    refine ⟨⟨fresh, current, owns.untouched (Untouched.exec different inv guarded executed)⟩, ?_⟩
    intro address
    rcases Nat.lt_or_ge address state.allocated with bound | unused
    · exact stable_rest.later (ring_later different inv guarded executed bound) (rings address)
    · rcases ring_unused inv guarded executed unused with same | ⟨capacity, new⟩
      · rw [same]
        exact rings address
      · rw [new]
        exact ringDiscipline_rest_created sender.codecs address capacity task

theorem sending_stable {sender : Sender} {task : SenderTask} {assertion : SenderState → Prop}
    (kept : ∀ before after, Untouched task before after → Grows before after → assertion before →
      assertion after) : (sending sender).Stable task assertion := by
  rintro before after ⟨inv, other, choice, β, op, reply, different, guarded, executed⟩ holds
  exact kept before after (Untouched.exec different inv guarded executed)
    (Grows.exec inv executed) holds

theorem sending_persistent {sender : Sender} {assertion : SenderState → Prop}
    (kept : ∀ before after, Grows before after → assertion before → assertion after) :
    (sending sender).Persistent assertion :=
  fun _ _ _ _ _ _ _ inv _ executed holds => kept _ _ (Grows.exec inv executed) holds

theorem owns_stable {sender : Sender} {task : SenderTask} (own : Belongings) (busy : Busy) :
    (sending sender).Stable task (Owns task own busy) :=
  sending_stable fun _ _ untouched _ owns => owns.untouched untouched

end Qlaster
