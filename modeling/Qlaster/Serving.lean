import Qlaster.Delivery
import Qlaster.Sequential

/-!
One turn of the dispatch loop with no concurrent step: what becomes of a slot is a function
of the slot, the frame and the clock.
-/

namespace Qlaster

open Interleaving Interleaving.System

/-- What a dispatch looks at and changes. -/
structure Table where
  connections : SlotIndex → Option ManagedConnection
  channels : Nat → Channel SenderTask
  filters : List SubscriptionFilter
  lastSeen : Nat → UInt64
  allocated : Nat
  files : List Path
  handles : List (SenderTask × Nat)

def SenderState.table (state : SenderState) : Table where
  connections := state.connections
  channels := state.channels
  filters := state.filters
  lastSeen := state.lastSeen
  allocated := state.allocated
  files := state.files
  handles := state.handles

def Table.unheld (table : Table) : Table := { table with handles := [] }

/-- Entries carry their own index and their own ring, as `upsert_shm` installs them. -/
structure OwnRings (table : Table) : Prop where
  indexed : ∀ index entry, table.connections index = some entry → entry.slotIndex = index
  apart : ∀ index index' entry entry', table.connections index = some entry →
    table.connections index' = some entry' → index ≠ index' →
    entry.address ≠ entry'.address ∧ entry.sink.path ≠ entry'.sink.path
  ring : ∀ index entry, table.connections index = some entry → entry.address < table.allocated ∧
    (table.channels entry.address).capacity = entry.sink.capacity
  filter : ∀ index entry, table.connections index = some entry → entry.filter < table.filters.length

/-- One slot that is taken. -/
structure SlotView where
  entry : ManagedConnection
  queue : Bytes
  lastSeen : UInt64
  filter : SubscriptionFilter

def Table.slot (table : Table) (index : SlotIndex) : Option SlotView :=
  (table.connections index).bind fun entry =>
    (table.filters[entry.filter]?).map fun filter =>
      ⟨entry, (table.channels entry.address).queue, table.lastSeen entry.address, filter⟩

structure Table.Shows (table : Table) (index : SlotIndex) (view : SlotView) : Prop where
  entry : table.connections index = some view.entry
  filter : table.filters[view.entry.filter]? = some view.filter
  queue : (table.channels view.entry.address).queue = view.queue
  lastSeen : table.lastSeen view.entry.address = view.lastSeen

theorem Table.slot_shows {table : Table} {index : SlotIndex} {view : SlotView}
    (found : table.slot index = some view) : table.Shows index view := by
  simp only [Table.slot, Option.bind_eq_some_iff, Option.map_eq_some_iff] at found
  obtain ⟨entry, tabled, filter, filtered, rfl⟩ := found
  exact ⟨tabled, filtered, rfl, rfl⟩

theorem Table.Shows.slot {table : Table} {index : SlotIndex} {view : SlotView}
    (shows : table.Shows index view) : table.slot index = some view := by
  simp only [Table.slot, shows.entry, Option.bind_some, shows.filter, Option.map_some, shows.queue,
    shows.lastSeen]

/-- The ring after a `close`: the sentinel is written if there is room for it. -/
def closedQueue (capacity : Nat) (queue : Bytes) : Bytes :=
  if queue.length + sentinelBytes.length ≤ capacity then queue ++ sentinelBytes else queue

def SlotView.stale (view : SlotView) (now : UInt64) : Bool :=
  decide (slotIdleTimeoutMs < now.toNat - view.lastSeen.toNat)

def OutboundFrame.item (frame : OutboundFrame) :
    Bytes := (Item.frame (frame.header ++ frame.payload)).bytes

/-- What a dispatch makes of a slot: who is left in it, and what is in the ring. -/
def SlotView.served (view : SlotView) (wanted : SubscriptionFilter → Bool) (item : Bytes)
    (now : UInt64) : Option ManagedConnection × Bytes :=
  if view.stale now then (none, closedQueue view.entry.sink.capacity view.queue)
  else if !wanted view.filter then (some view.entry, view.queue)
  else if view.queue.length + item.length ≤
    view.entry.sink.capacity then (some view.entry, view.queue ++ item)
  else (none, closedQueue view.entry.sink.capacity view.queue)

/-! One ring. -/

structure Wrote (address : Nat) (added : Bytes) (before after : Table) : Prop where
  only : after =
    { before with channels := Function.update before.channels address (after.channels address) }
  queue : (after.channels address).queue = (before.channels address).queue ++ added
  capacity : (after.channels address).capacity = (before.channels address).capacity
  marked : (before.channels address).closeMark.isSome = true →
    (after.channels address).closeMark.isSome = true
  linked : (after.channels address).linked = (before.channels address).linked

theorem Wrote.trans {address : Nat} {first second : Bytes} {before mid after : Table}
    (earlier : Wrote address first before mid) (later : Wrote address second mid after) :
    Wrote address (first ++ second) before after where
  only := by rw [later.only, earlier.only]; simp
  queue := by rw [later.queue, earlier.queue, List.append_assoc]
  capacity := later.capacity.trans earlier.capacity
  marked := later.marked ∘ earlier.marked
  linked := later.linked.trans earlier.linked

structure Pushed (address : Nat) (added : Bytes) (before after : Table) : Prop
    extends Wrote address added before after where
  unmarked : (after.channels address).closeMark = (before.channels address).closeMark

theorem Pushed.trans {address : Nat} {first second : Bytes} {before mid after : Table}
    (earlier : Pushed address first before mid) (later : Pushed address second mid after) :
    Pushed address (first ++ second) before after :=
  ⟨earlier.toWrote.trans later.toWrote, later.unmarked.trans earlier.unmarked⟩

section
variable {sender : Sender} {task : SenderTask} {choices : Nat → SenderChoice} {tick : Nat}
  {state : SenderState}

/-- The environment of a dispatch that runs alone: `shaq` takes what fits, and interruptions end. -/
structure Undisturbed (choices : Nat → SenderChoice) (bound : Nat) : Prop where
  admitted : ∀ n, (choices n).admitted = true
  settled : ∀ n, bound ≤ n → (choices n).interrupted = false

theorem ring_then {address : Nat} {α β : Type} {op : ChannelOp β} {next : β → Program SenderOp α}
    {post : α → Nat → SenderState → Prop} {reply : β} {channel : Channel SenderTask}
    (exists' : address < state.allocated)
    (executed : ∀ present, SenderState.execRing (choices tick).toChannelChoice task present op
      (state.channels address) = some (reply, channel))
    (rest : ∀ after : SenderState, after.table =
        { state.table with channels := Function.update state.channels address channel } →
      (senderSystem sender).Alone task choices (next reply) (tick + 1) after post) :
    (senderSystem sender).Alone task choices (.request (.channel address op) next) tick
      state post := by
  have ran : (senderSystem sender).exec (choices tick) task (.channel address op) state =
      some (reply, { state with
        channels := Function.update state.channels address channel
        dispatched := state.recordPush task address op reply }) := by
    simp only [senderSystem, SenderState.exec, SenderState.execChannel, if_pos exists', executed]
  exact .request ran (rest _ rfl)

theorem Pushed.same {address : Nat} {table : Table} : Pushed address [] table table :=
  ⟨⟨by simp, by simp, rfl, id, rfl⟩, rfl⟩

theorem Wrote.ofExec {address : Nat} {added : Bytes} {channel : Channel SenderTask}
    {before after : Table}
    (table : after = { before with channels := Function.update before.channels address channel })
    (queue : channel.queue = (before.channels address).queue ++ added)
    (capacity : channel.capacity = (before.channels address).capacity)
    (marked : (before.channels address).closeMark.isSome = true → channel.closeMark.isSome = true)
    (linked : channel.linked = (before.channels address).linked) :
    Wrote address added before after := by
  subst table
  exact ⟨by simp, by simp [queue], by simp [capacity], by simpa using marked, by simp [linked]⟩

theorem Pushed.ofExec {address : Nat} {added : Bytes} {channel : Channel SenderTask}
    {before after : Table}
    (table : after = { before with channels := Function.update before.channels address channel })
    (queue : channel.queue = (before.channels address).queue ++ added)
    (capacity : channel.capacity = (before.channels address).capacity)
    (unmarked : channel.closeMark = (before.channels address).closeMark)
    (linked : channel.linked = (before.channels address).linked) :
    Pushed address added before after := by
  refine ⟨.ofExec table queue capacity (fun marks => by rw [unmarked]; exact marks) linked, ?_⟩
  simp [table, unmarked]

theorem Wrote.allocated {address : Nat} {added : Bytes} {before after : Table}
    (wrote : Wrote address added before after) : after.allocated = before.allocated := by
  rw [wrote.only]

theorem Channel.exec_writeEventfd (task : SenderTask) {choice : ChannelChoice}
    (settled : ¬ choice.interrupted = true) (channel : Channel SenderTask) :
    ∃ reply after, (reply = .wouldBlock ∨ reply = .done ()) ∧
      (∀ present, SenderState.execRing choice task present .writeEventfd channel = some
        (reply, after)) ∧
      after.queue = channel.queue ∧ after.capacity = channel.capacity ∧
        after.closeMark = channel.closeMark ∧
      after.linked = channel.linked := by
  simp only [SenderState.execRing, Channel.exec, if_neg settled]
  split
  · exact ⟨_, _, .inl rfl, fun _ => rfl, rfl, rfl, rfl, rfl⟩
  · exact ⟨_, _, .inr rfl, fun _ => rfl, rfl, rfl, rfl, rfl⟩

theorem Wrote.there {address : Nat} {added : Bytes} {after : SenderState}
    (wrote : Wrote address added state.table after.table) (exists' : address < state.allocated) :
    address < after.allocated := by
  rw [show after.allocated = state.allocated from wrote.allocated]
  exact exists'

theorem notify_alone {bound : Nat} (settled : ∀ n, bound ≤ n → (choices n).interrupted = false)
    {address : Nat} (exists' : address < state.allocated) :
    (senderSystem sender).Alone task choices (onRing address notify) tick state
      fun _ _ after => Pushed address [] state.table after.table := by
  refine Alone.iterate bound (fun now => Pushed address [] state.table now.table) ?_ Pushed.same
  intro tick now wrote
  have there := wrote.there exists'
  by_cases interrupted : (choices tick).interrupted = true
  · have executed : ∀ present, SenderState.execRing (choices tick).toChannelChoice task present
      .writeEventfd
        (now.channels address) = some (.interrupted, now.channels address) := by
      intro present
      simp only [SenderState.execRing, Channel.exec, interrupted, if_true]
    refine ring_then there executed fun after table => ?_
    refine .done
      ⟨?_, by omega, wrote.trans (.ofExec table (by simp [SenderState.table]) rfl rfl rfl)⟩
    by_contra late
    simp [settled tick (by omega)] at interrupted
  · obtain ⟨reply, channel, replied, executed, queue, capacity, unmarked, linked⟩ :=
      Channel.exec_writeEventfd task interrupted (now.channels address)
    refine ring_then there executed fun after table => ?_
    have silent : Pushed address [] now.table after.table :=
      .ofExec table (by simp [SenderState.table, queue]) capacity unmarked linked
    rcases replied with rfl | rfl
    · exact .done (wrote.trans silent)
    · exact .done (wrote.trans silent)

/-- A sentinel marks the ring as closed, accepted or not; other bytes do not. -/
def MarksClose (bytes : Bytes) (before after : Channel SenderTask) : Prop :=
  if bytes = sentinelBytes then after.closeMark.isSome = true else after.closeMark =
    before.closeMark

theorem Channel.markClose_marks (channel : Channel SenderTask) (bytes : Bytes) :
    MarksClose bytes channel (channel.markClose bytes) := by
  by_cases sentinel : bytes = sentinelBytes
  · rw [MarksClose, if_pos sentinel, Channel.markClose, if_pos sentinel]
    rfl
  · rw [MarksClose, if_neg sentinel, Channel.markClose, if_neg sentinel]

theorem MarksClose.keeps {bytes : Bytes} {before after : Channel SenderTask}
    (marks : MarksClose bytes before after)
    (marked : before.closeMark.isSome = true) : after.closeMark.isSome = true := by
  rw [MarksClose] at marks
  split at marks
  · exact marks
  · rwa [marks]

theorem Channel.markClose_same (channel : Channel SenderTask) (bytes : Bytes) :
    (channel.markClose bytes).queue = channel.queue ∧
      (channel.markClose bytes).capacity = channel.capacity ∧
      (channel.markClose bytes).linked = channel.linked := by
  simp only [Channel.markClose]
  split
  · exact ⟨rfl, rfl, rfl⟩
  · exact ⟨rfl, rfl, rfl⟩

theorem write_then {bound : Nat} (undisturbed : Undisturbed choices bound)
    {address : Nat} {α : Type}
    {bytes : Bytes} {next : Bool → Program SenderOp α} {post : α → Nat → SenderState → Prop}
    (exists' : address < state.allocated)
    (taken : (state.channels address).queue.length + bytes.length ≤
      (state.channels address).capacity →
      ∀ after : SenderState, Wrote address bytes state.table after.table →
        MarksClose bytes (state.channels address) (after.channels address) →
        (senderSystem sender).Alone task choices (next true) (tick + 1) after post)
    (refused : ¬ (state.channels address).queue.length + bytes.length ≤
      (state.channels address).capacity →
      ∀ after : SenderState, Wrote address [] state.table after.table →
        MarksClose bytes (state.channels address) (after.channels address) →
        (senderSystem sender).Alone task choices (next false) (tick + 1) after post) :
    (senderSystem sender).Alone task choices
      (.request (.channel address (.tryWriteSlice bytes)) next) tick state post := by
  have marks := (state.channels address).markClose_marks bytes
  obtain ⟨queue, capacity, linked⟩ := (state.channels address).markClose_same bytes
  have found : ∀ {channel : Channel SenderTask} {after : SenderState}, after.table =
      { state.table with channels := Function.update state.channels address channel } →
      after.channels address = channel := by
    intro channel after table
    exact (congrFun (congrArg Table.channels table) address).trans (Function.update_self ..)
  by_cases fits :
    (state.channels address).queue.length + bytes.length ≤ (state.channels address).capacity
  · have executed : ∀ present, SenderState.execRing (choices tick).toChannelChoice task present
        (.tryWriteSlice bytes) (state.channels address) =
          some (true, ((state.channels address).markClose bytes).append task bytes) := by
      intro present
      simp [SenderState.execRing, Channel.exec, undisturbed.admitted, fits]
    refine ring_then exists' executed fun after table => taken fits after ?_ ?_
    · exact .ofExec table (congrArg (· ++ bytes) queue) capacity marks.keeps linked
    · rw [found table]
      exact marks
  · have executed : ∀ present, SenderState.execRing (choices tick).toChannelChoice task present
        (.tryWriteSlice bytes) (state.channels address) =
          some (false, (state.channels address).markClose bytes) := by
      intro present
      simp [SenderState.execRing, Channel.exec, undisturbed.admitted, fits]
    refine ring_then exists' executed fun after table => refused fits after ?_ ?_
    · exact .ofExec table (by rw [queue, List.append_nil]; rfl) capacity marks.keeps linked
    · rw [found table]
      exact marks

def Closed (address : Nat) (before after : Table) : Prop :=
  ∃ added, Wrote address added before after ∧ (after.channels address).closeMark.isSome = true ∧
    (before.channels address).queue ++ added =
      closedQueue (before.channels address).capacity (before.channels address).queue

theorem sinkClose_alone {bound : Nat} (undisturbed : Undisturbed choices bound) {address : Nat}
    (exists' : address < state.allocated) :
    (senderSystem sender).Alone task choices (onRing address sinkClose) tick state
      fun _ _ after => Closed address state.table after.table := by
  have rest : ∀ (mid : SenderState) (added : Bytes), Wrote address added state.table mid.table →
      (mid.channels address).closeMark.isSome = true →
      (senderSystem sender).Alone task choices (onRing address notify) (tick + 1) mid
        fun _ _ after => Wrote address added state.table after.table ∧
          (after.channels address).closeMark.isSome = true := by
    intro mid added wrote marked
    refine (notify_alone undisturbed.settled (wrote.there exists')).mono fun _ _ after silent => ?_
    exact ⟨by simpa using wrote.trans silent.toWrote, silent.marked marked⟩
  refine write_then undisturbed exists' (fun fits mid wrote marks => ?_) fun full mid wrote marks =>
    ?_
  · rw [MarksClose, if_pos rfl] at marks
    refine (rest mid _ wrote marks).bind fun _ _ after holds => .done ⟨_, holds.1, holds.2, ?_⟩
    exact (if_pos fits).symm
  · rw [MarksClose, if_pos rfl] at marks
    refine (rest mid _ wrote marks).bind fun _ _ after holds => .done ⟨_, holds.1, holds.2, ?_⟩
    rw [List.append_nil]
    exact (if_neg full).symm

theorem sinkTryPush_alone {bound : Nat} (undisturbed : Undisturbed choices bound) {address : Nat}
    (exists' : address < state.allocated) {frame : OutboundFrame}
    (valid : (Item.frame (frame.header ++ frame.payload)).Valid) {capacity : Nat}
    (sized : (state.channels address).capacity = capacity) :
    (senderSystem sender).Alone task choices (onRing address (sinkTryPush capacity frame))
      tick state fun result _ after =>
        if (state.channels address).queue.length + frame.item.length ≤ capacity then
          result = .ok () ∧ Pushed address frame.item state.table after.table
        else result = .error frame ∧ Wrote address [] state.table after.table := by
  have itemEq : framed (UInt32.ofNat (frame.header.length + frame.payload.length))
    [frame.header, frame.payload] =
      frame.item := by
    simp [framed, OutboundFrame.item, Item.bytes]
  have itemLength : frame.item.length = 4 + (frame.header.length + frame.payload.length) := by
    rw [OutboundFrame.item, Item.frame_bytes_length, List.length_append]
  simp only [Item.Valid, List.length_append] at valid
  have bodyLen : ([frame.header, frame.payload].map List.length).sum =
      frame.header.length + frame.payload.length := by simp
  rw [sinkTryPush, ringTryPush, bodyLen]
  rw [if_neg (by omega)]
  have four : frameLenBytes = 4 := rfl
  by_cases large : capacity < frameLenBytes + (frame.header.length + frame.payload.length)
  · simp only [if_pos large]
    refine .done ?_
    rw [if_neg (by omega)]
    exact ⟨rfl, Pushed.same.toWrote⟩
  simp only [if_neg large, itemEq]
  refine write_then undisturbed exists' (fun fits mid wrote marks => ?_) fun full mid wrote _ => ?_
  · rw [sized] at fits
    rw [MarksClose, if_neg (show frame.item ≠ sentinelBytes from Item.frame_ne_sentinel _)] at marks
    refine (notify_alone undisturbed.settled (wrote.there exists')).bind
      fun notified _ after silent => ?_
    have written : Pushed address frame.item state.table after.table := by
      simpa using Pushed.trans ⟨wrote, marks⟩ silent
    have posted : ∀ final : SenderState, final.table = after.table →
        if (state.channels address).queue.length + frame.item.length ≤ capacity then
          (.ok () : Except OutboundFrame Unit) = .ok () ∧
            Pushed address frame.item state.table final.table
        else (.ok () : Except OutboundFrame Unit) = .error frame ∧
          Wrote address [] state.table final.table := by
      intro final same
      rw [if_pos fits, same]
      exact ⟨rfl, written⟩
    cases notified with
    | ok _ => exact .done (posted after rfl)
    | error kind =>
        refine ring_then (written.there exists') (fun _ => rfl) fun final table =>
          .done (posted final ?_)
        rw [table, Function.update_eq_self]
        rfl
  · rw [sized] at full
    refine ring_then (wrote.there exists') (fun _ => rfl) fun after table => .done ?_
    rw [if_neg full]
    exact ⟨rfl, wrote.trans (.ofExec table (by simp [SenderState.table]) rfl id rfl)⟩

/-! One slot. -/

structure SlotChange (index : SlotIndex) (entry : ManagedConnection) (before after : Table) :
    Prop where
  slots : ∀ other, other ≠ index → after.connections other = before.connections other
  rings : ∀ address, address ≠ entry.address → after.channels address = before.channels address
  capacity : (after.channels entry.address).capacity = (before.channels entry.address).capacity
  marked : (before.channels entry.address).closeMark.isSome = true →
    (after.channels entry.address).closeMark.isSome = true
  filters : after.filters = before.filters
  lastSeen : after.lastSeen = before.lastSeen
  allocated : after.allocated = before.allocated
  files : ∀ path, path ≠ entry.sink.path → (path ∈ after.files ↔ path ∈ before.files)

theorem SlotChange.trans {index : SlotIndex} {entry : ManagedConnection} {before mid after : Table}
    (first : SlotChange index entry before mid) (second : SlotChange index entry mid after) :
    SlotChange index entry before after where
  slots other different := (second.slots other different).trans (first.slots other different)
  rings address different := (second.rings address different).trans (first.rings address different)
  capacity := second.capacity.trans first.capacity
  marked := second.marked ∘ first.marked
  filters := second.filters.trans first.filters
  lastSeen := second.lastSeen.trans first.lastSeen
  allocated := second.allocated.trans first.allocated
  files path different := (second.files path different).trans (first.files path different)

theorem SlotChange.same {index : SlotIndex} {entry : ManagedConnection} {before after : Table}
    (same : after.unheld = before.unheld) : SlotChange index entry before after := by
  simp only [Table.unheld, Table.mk.injEq] at same
  obtain ⟨slots, rings, filters, lastSeen, allocated, files, -⟩ := same
  refine ⟨fun _
    _ => by rw [slots], fun _ _ => by rw [rings], by rw [rings], ?_, filters, lastSeen, allocated,
    fun _ _ => by rw [files]⟩
  rw [rings]
  exact id

theorem Wrote.change {index : SlotIndex} {entry : ManagedConnection} {added : Bytes}
    {before after : Table}
    (wrote : Wrote entry.address added before after) : SlotChange index entry before after where
  slots _ _ := by rw [wrote.only]
  rings _ different := by rw [wrote.only]; exact Function.update_of_ne different _ _
  capacity := wrote.capacity
  marked := wrote.marked
  filters := by rw [wrote.only]
  lastSeen := by rw [wrote.only]
  allocated := wrote.allocated
  files _ _ := by rw [wrote.only]

theorem Wrote.connections {address : Nat} {added : Bytes} {before after : Table}
    (wrote : Wrote address added before after) : after.connections = before.connections := by
  rw [wrote.only]

def SenderState.unlinked (state : SenderState) (task : SenderTask) (ring : ShmRingProducer) :
    SenderState :=
  { state with
    handles := state.handles.erase (task, ring.address)
    files := state.files.filter (· ≠ ring.path)
    channels := Function.update state.channels ring.address
      { state.channels ring.address with linked := false }
    dying := Function.update (Function.update state.dying task (some ring.address)) task none }

theorem dropArc_shared {ring : ShmRingProducer}
    (shared :
      ((state.handles.erase (task, ring.address)).any (fun handle => handle.2 = ring.address) ||
      state.tabled ring.address) = true) :
    (senderSystem sender).Alone task choices (dropArc ring) tick state fun _ _ after =>
      after = { state with handles := state.handles.erase (task, ring.address) } := by
  refine .request (by
    simp only [senderSystem, SenderState.exec, SenderState.execManager, shared, if_true]; rfl)
      (.done ?_)
  rfl

theorem dropArc_last {ring : ShmRingProducer}
    (last : ((state.handles.erase (task, ring.address)).any
      (fun handle => handle.2 = ring.address) || state.tabled ring.address) = false) :
    (senderSystem sender).Alone task choices (dropArc ring) tick state fun _ _ after =>
      after = state.unlinked task ring := by
  refine .request (by
    simp only [senderSystem, SenderState.exec, SenderState.execManager, last]; rfl) ?_
  exact .request rfl (.done rfl)

/-- The file of a ring that is in no slot stays as long as some task holds the ring. -/
structure Released (entry : ManagedConnection) (before after : Table) : Prop where
  held : (∃ handle ∈ after.handles, handle.2 = entry.address) →
    (after.channels entry.address).linked = (before.channels entry.address).linked ∧
      (entry.sink.path ∈ after.files ↔ entry.sink.path ∈ before.files)
  last : (∀ handle ∈ after.handles, handle.2 ≠ entry.address) →
    (after.channels entry.address).linked = false ∧ entry.sink.path ∉ after.files

theorem Released.since {entry : ManagedConnection} {before mid after : Table}
    (released : Released entry mid after)
    (linked : (mid.channels entry.address).linked = (before.channels entry.address).linked)
    (files : entry.sink.path ∈ mid.files ↔ entry.sink.path ∈ before.files) :
    Released entry before after := by
  refine ⟨fun held => ?_, released.last⟩
  obtain ⟨same, there⟩ := released.held held
  exact ⟨same.trans linked, there.trans files⟩

theorem Released.later {entry : ManagedConnection} {before mid after : Table}
    (released : Released entry before mid) (handles : after.handles = mid.handles)
    (ring : after.channels entry.address = mid.channels entry.address)
    (file : entry.sink.path ∈ after.files ↔ entry.sink.path ∈ mid.files) :
    Released entry before after := by
  refine ⟨?_, ?_⟩
  · rw [handles, ring, file]
    exact released.held
  · rw [handles, ring, file]
    exact released.last

structure Dropped (task : SenderTask) (index : SlotIndex) (entry : ManagedConnection)
    (before after : SenderState) : Prop where
  change : SlotChange index entry before.table after.table
  slots : after.connections = before.connections
  queue : (after.channels entry.address).queue = (before.channels entry.address).queue
  handles : after.handles = before.handles.erase (task, entry.address)
  kept : before.tabled entry.address = true → after.table.unheld = before.table.unheld
  released : before.tabled entry.address = false → Released entry before.table after.table

theorem dropArc_alone (index : SlotIndex) (entry : ManagedConnection) :
    (senderSystem sender).Alone task choices (dropArc entry.sink) tick state fun _ _ after =>
      Dropped task index entry state after := by
  cases shared : (state.handles.erase (task, entry.sink.address)).any
      (fun handle => handle.2 = entry.sink.address) || state.tabled entry.sink.address with
  | true =>
      refine (dropArc_shared shared).mono ?_
      rintro _ _ _ rfl
      refine ⟨⟨fun _ _ => rfl, fun _ _ => rfl, rfl, id, rfl, rfl, rfl, fun _ _ => Iff.rfl⟩, rfl,
        rfl, rfl, fun _ => rfl, fun untabled => ⟨fun _ => ⟨rfl, Iff.rfl⟩, fun unheld => ?_⟩⟩
      rw [show state.tabled entry.sink.address = false from untabled, Bool.or_false,
        List.any_eq_true] at shared
      obtain ⟨handle, member, same⟩ := shared
      exact absurd (of_decide_eq_true same) (unheld handle member)
  | false =>
      obtain ⟨unheld, untabled⟩ := Bool.or_eq_false_iff.mp shared
      refine (dropArc_last shared).mono ?_
      rintro _ _ _ rfl
      refine ⟨⟨fun _ _ => rfl, fun address different => Function.update_of_ne different _ _, ?_,
        ?_, rfl, rfl, rfl, ?_⟩, rfl, ?_, rfl, fun tabled => ?_, fun _ => ⟨?_, fun _ => ?_⟩⟩
      · simp [SenderState.table, SenderState.unlinked, ManagedConnection.address]
      · simp [SenderState.table, SenderState.unlinked, ManagedConnection.address]
      · intro path different
        simp [SenderState.table, SenderState.unlinked, different]
      · simp [SenderState.unlinked, ManagedConnection.address]
      · rw [show state.tabled entry.address = false from untabled] at tabled
        cases tabled
      · rintro ⟨handle, member, same⟩
        rw [List.any_eq_false] at unheld
        exact absurd (decide_eq_true same) (unheld handle member)
      · simp [SenderState.table, SenderState.unlinked, ManagedConnection.address]

structure Evicted (index : SlotIndex) (entry : ManagedConnection) (before after : Table) :
    Prop where
  change : SlotChange index entry before after
  gone : after.connections index = none
  queue : (after.channels entry.address).queue =
    closedQueue (before.channels entry.address).capacity (before.channels entry.address).queue
  closed : (after.channels entry.address).closeMark.isSome = true
  released : Released entry before after

def Unshared (connections : SlotIndex → Option ManagedConnection) (index : SlotIndex)
    (entry : ManagedConnection) : Prop :=
  ∀ other found, connections other = some found → other ≠ index → found.address ≠ entry.address

theorem tabled_of_slot {index : SlotIndex} {entry : ManagedConnection}
    (tabled : state.connections index = some entry) : state.tabled entry.address = true := by
  simp only [SenderState.tabled, decide_eq_true_eq]
  exact ⟨index, by rw [tabled]; rfl⟩

theorem OwnRings.unshared {table : Table} {index : SlotIndex} {entry : ManagedConnection}
    (own : OwnRings table) (tabled : table.connections index = some entry) :
    Unshared table.connections index entry :=
  fun other found slot different => (own.apart other index found entry slot tabled different).1

theorem untabled_of_emptied {index : SlotIndex} {entry : ManagedConnection}
    (unshared : Unshared state.connections index entry)
    (gone : state.connections index = none) : state.tabled entry.address = false := by
  refine decide_eq_false ?_
  rintro ⟨other, tabled⟩
  obtain ⟨found, slot, same⟩ := Option.map_eq_some_iff.mp tabled
  refine unshared other found slot ?_ same
  rintro rfl
  rw [gone] at slot
  cases slot

theorem SlotChange.emptied {index : SlotIndex} {entry : ManagedConnection} (table : Table)
    (handles : List (SenderTask × Nat)) :
    SlotChange index entry table
      { table with connections := Function.update table.connections index none, handles := handles } :=
  ⟨fun _ different => Function.update_of_ne different _ _, fun _ _ => rfl, rfl, id, rfl, rfl, rfl,
    fun _ _ => Iff.rfl⟩

theorem closeSink_alone {bound : Nat} (undisturbed : Undisturbed choices bound)
    {entry : ManagedConnection} (there : entry.address < state.allocated) :
    (senderSystem sender).Alone task choices (closeSink entry) tick state
      fun _ _ after => Closed entry.address state.table after.table :=
  (sinkClose_alone undisturbed there).bind fun _ _ _ holds => .request rfl (.done holds)

theorem Dropped.emptied {index : SlotIndex} {entry : ManagedConnection}
    {before mid after : SenderState}
    (dropped : Dropped task index entry mid after) (taken : mid.table = { before.table with
      connections := Function.update before.connections index none
      handles := (task, entry.address) :: before.handles })
    (unshared : Unshared before.connections index entry) :
    SlotChange index entry before.table after.table ∧ after.connections index = none ∧
      (after.channels entry.address).queue = (before.channels entry.address).queue ∧
      after.handles = before.handles ∧ Released entry before.table after.table := by
  have slots : mid.connections = Function.update before.connections index none :=
    congrArg Table.connections taken
  have gone : mid.connections index = none := by rw [slots, Function.update_self]
  have rings : mid.channels = before.channels := congrArg Table.channels taken
  have files : mid.files = before.files := congrArg Table.files taken
  have untabled : mid.tabled entry.address = false := by
    refine untabled_of_emptied (fun other found tabled different => ?_) gone
    rw [slots, Function.update_of_ne different] at tabled
    exact unshared other found tabled different
  have released := dropped.released untabled
  refine ⟨?_, ?_, ?_, ?_, ?_⟩
  · have emptied : SlotChange index entry before.table mid.table := by
      rw [taken]
      exact .emptied _ _
    exact emptied.trans dropped.change
  · rw [dropped.slots, gone]
  · rw [dropped.queue, rings]
  · rw [dropped.handles, show mid.handles = _ from congrArg Table.handles taken]
    exact List.erase_cons_head ..
  · refine released.since ?_ ?_
    · rw [show mid.table.channels = before.table.channels from rings]
    · rw [show mid.table.files = before.table.files from files]

theorem evict_alone {bound : Nat} (undisturbed : Undisturbed choices bound) {index : SlotIndex}
    {entry : ManagedConnection} (there : entry.address < state.allocated)
    (tabled : state.connections index = some entry)
    (unshared : Unshared state.connections index entry) :
    (senderSystem sender).Alone task choices (evict index entry) tick state
      fun _ _ after => Evicted index entry state.table after.table ∧
        after.handles = state.handles := by
  refine (closeSink_alone undisturbed there).bind ?_
  rintro _ _ noted ⟨added, wrote, marked, queue⟩
  have slots : noted.connections = state.connections := wrote.connections
  have found : noted.connections index = some entry := by
    rw [slots]
    exact tabled
  refine .request (by
    simp only [senderSystem, SenderState.exec, SenderState.execManager, found, if_true]; rfl) ?_
  refine (dropArc_alone index entry).mono fun _ _ after dropped => ?_
  have emptied : SlotChange index entry noted.table after.table ∧
    _ := dropped.emptied rfl (by rwa [slots])
  obtain ⟨change, gone, kept, handles, released⟩ := emptied
  refine ⟨⟨wrote.change.trans change, gone, ?_, change.marked marked, ?_⟩, ?_⟩
  · rw [show (after.table.channels entry.address).queue = _ from kept, ← queue]
    exact wrote.queue
  · exact released.since wrote.linked (by rw [wrote.only])
  · rw [handles]
    exact congrArg Table.handles wrote.only

theorem isStale_alone {entry : ManagedConnection} :
    (senderSystem sender).Alone task choices (isStale entry) tick state fun stale _ after =>
      stale = decide (slotIdleTimeoutMs <
        (choices tick).now.toNat - (state.lastSeen entry.address).toNat) ∧ after = state :=
  .request rfl (.request rfl (.done ⟨rfl, rfl⟩))

theorem maybeCleanupStaleSlot_alone {bound : Nat} (undisturbed : Undisturbed choices bound)
    {index : SlotIndex} {entry : ManagedConnection} (there : entry.address < state.allocated)
    (tabled : state.connections index = some entry)
    (unshared : Unshared state.connections index entry) :
    (senderSystem sender).Alone task choices (maybeCleanupStaleSlot index entry) tick state
      fun cleaned _ after =>
      cleaned =
        decide (slotIdleTimeoutMs <
        (choices tick).now.toNat - (state.lastSeen entry.address).toNat) ∧
        if cleaned then Evicted index entry state.table after.table ∧ after.handles = state.handles
        else after = state := by
  refine isStale_alone.bind ?_
  rintro stale _ _ ⟨judged, rfl⟩
  cases stale with
  | false => exact .done ⟨judged, rfl⟩
  | true =>
      refine (evict_alone undisturbed there tabled unshared).bind fun _ _ after evicted =>
        .done ⟨judged, ?_⟩
      exact evicted

theorem Evicted.dropped {index : SlotIndex} {entry : ManagedConnection} {before : Table}
    {mid after : SenderState} (evicted : Evicted index entry before mid.table)
    (unshared : Unshared mid.connections index entry)
    (dropped : Dropped task index entry mid after) : Evicted index entry before after.table where
  change := evicted.change.trans dropped.change
  gone := by rw [show after.table.connections = _ from dropped.slots]; exact evicted.gone
  queue := dropped.queue.trans evicted.queue
  closed := dropped.change.marked evicted.closed
  released := by
    have released := dropped.released (untabled_of_emptied unshared evicted.gone)
    refine ⟨fun held => ?_, released.last⟩
    obtain ⟨handle, member, same⟩ := held
    have earlier : handle ∈ mid.handles := by
      rw [show after.table.handles = _ from dropped.handles] at member
      exact List.mem_of_mem_erase member
    obtain ⟨linked, files⟩ := evicted.released.held ⟨handle, earlier, same⟩
    obtain ⟨linked', files'⟩ := released.held ⟨handle, member, same⟩
    exact ⟨linked'.trans linked, files'.trans files⟩

theorem Evicted.ofTable {index : SlotIndex} {entry : ManagedConnection} {before mid after : Table}
    (evicted : Evicted index entry mid after) (wrote : Wrote entry.address [] before mid) :
    Evicted index entry before after where
  change := wrote.change.trans evicted.change
  gone := evicted.gone
  queue := by rw [evicted.queue, wrote.queue, wrote.capacity, List.append_nil]
  closed := evicted.closed
  released := evicted.released.since wrote.linked (by rw [wrote.only])

theorem SlotChange.ofHeld {index : SlotIndex} {entry : ManagedConnection} {before after : Table}
    {handles : List (SenderTask × Nat)}
    (change : SlotChange index entry { before with handles := handles } after) :
    SlotChange index entry before after :=
  ⟨change.slots, change.rings, change.capacity, change.marked, change.filters, change.lastSeen,
    change.allocated, change.files⟩

theorem Evicted.ofHeld {index : SlotIndex} {entry : ManagedConnection} {before after : Table}
    {handles : List (SenderTask × Nat)}
    (evicted : Evicted index entry { before with handles := handles } after) :
    Evicted index entry before after :=
  ⟨evicted.change.ofHeld, evicted.gone, evicted.queue, evicted.closed,
    ⟨evicted.released.held, evicted.released.last⟩⟩

theorem Unshared.evicted {index : SlotIndex} {entry : ManagedConnection} {before after : Table}
    (unshared : Unshared before.connections index entry)
    (evicted : Evicted index entry before after) : Unshared after.connections index entry := by
  intro other found tabled different
  rw [evicted.change.slots other different] at tabled
  exact unshared other found tabled different

theorem cleanupIfSame_alone {bound : Nat} (undisturbed : Undisturbed choices bound)
    {index : SlotIndex} {entry : ManagedConnection} (there : entry.address < state.allocated)
    (tabled : state.connections index = some entry)
    (unshared : Unshared state.connections index entry) :
    (senderSystem sender).Alone task choices (cleanupIfSame index entry.connectionId) tick state
      fun _ _ after => Evicted index entry state.table after.table ∧
        after.handles = state.handles := by
  have evicted : (senderSystem sender).Alone task choices
      (if entry.connectionId = entry.connectionId then evict index entry else pure ()) (tick + 1)
      (state.hold task (some entry)) fun _ _ after =>
        Evicted index entry (state.hold task (some entry)).table after.table ∧
        after.handles = (task, entry.address) :: state.handles := by
    rw [if_pos rfl]
    exact evict_alone undisturbed there tabled unshared
  refine .request rfl ?_
  simp only [tabled]
  refine evicted.bind fun _ _ mid gone => ?_
  refine (dropArc_alone index entry).mono fun _ _ after dropped => ⟨?_, ?_⟩
  · exact (gone.1.dropped (Unshared.evicted unshared gone.1) dropped).ofHeld
  · rw [dropped.handles, gone.2]
    exact List.erase_cons_head ..

theorem pushToEntry_alone {bound : Nat} (undisturbed : Undisturbed choices bound)
    {entry : ManagedConnection} (there : entry.address < state.allocated)
    (tabled : state.connections entry.slotIndex = some entry)
    (unshared : Unshared state.connections entry.slotIndex entry)
    (sized : (state.channels entry.address).capacity = entry.sink.capacity) {frame : OutboundFrame}
    (valid : (Item.frame (frame.header ++ frame.payload)).Valid) :
    (senderSystem sender).Alone task choices (pushToEntry entry frame) tick state fun _ _ after =>
      if (state.channels entry.address).queue.length + frame.item.length ≤ entry.sink.capacity then
        Pushed entry.address frame.item state.table after.table
      else Evicted entry.slotIndex entry state.table after.table ∧
        after.handles = state.handles := by
  refine (sinkTryPush_alone undisturbed there valid sized).bind fun result _ pushed holds => ?_
  split at holds
  · rename_i fits
    obtain ⟨rfl, wrote⟩ := holds
    refine .done ?_
    rw [if_pos fits]
    exact wrote
  · rename_i full
    obtain ⟨rfl, wrote⟩ := holds
    have slots : pushed.connections = state.connections := wrote.connections
    have still : pushed.connections entry.slotIndex = some entry := by
      rw [slots]
      exact tabled
    refine (cleanupIfSame_alone undisturbed (wrote.there there) still (by rwa [slots])).mono
      fun _ _ after evicted => ?_
    rw [if_neg full]
    exact ⟨evicted.1.ofTable wrote, evicted.2.trans (congrArg Table.handles wrote.only)⟩

/-- What a dispatch has made of one slot. -/
structure SlotServed (wanted : SubscriptionFilter → Bool) (item : Bytes) (now : UInt64)
    (view : SlotView) (index : SlotIndex) (before after : Table) : Prop where
  change : SlotChange index view.entry before after
  entry : after.connections index = (view.served wanted item now).1
  queue : (after.channels view.entry.address).queue = (view.served wanted item now).2
  closed : (view.served wanted item now).1 = none →
    (after.channels view.entry.address).closeMark.isSome = true
  kept : (view.served wanted item now).1 ≠ none →
    (after.channels view.entry.address).linked = (before.channels view.entry.address).linked ∧
      (after.channels view.entry.address).closeMark =
        (before.channels view.entry.address).closeMark ∧
      (view.entry.sink.path ∈ after.files ↔ view.entry.sink.path ∈ before.files)
  released : (view.served wanted item now).1 = none → Released view.entry before after
  quiet : view.stale now = false → wanted view.filter = false → after.unheld = before.unheld

section
variable {wanted : SubscriptionFilter → Bool} {item : Bytes} {now : UInt64} {view : SlotView}
  {index : SlotIndex} {before after : Table}

theorem SlotServed.ofHeld {handles : List (SenderTask × Nat)}
    (turn : SlotServed wanted item now view index { before with handles := handles } after) :
    SlotServed wanted item now view index before after :=
  ⟨turn.change.ofHeld, turn.entry, turn.queue, turn.closed, turn.kept,
    fun gone => ⟨(turn.released gone).held, (turn.released gone).last⟩, turn.quiet⟩

theorem SlotServed.ofEvicted (evicted : Evicted index view.entry before after)
    (shows : before.Shows index view)
    (sized : (before.channels view.entry.address).capacity = view.entry.sink.capacity)
    (served : view.served wanted item now =
      (none, closedQueue view.entry.sink.capacity view.queue)) :
    SlotServed wanted item now view index before after where
  change := evicted.change
  entry := by rw [served, evicted.gone]
  queue := by rw [served, evicted.queue, shows.queue, sized]
  closed _ := evicted.closed
  kept left := by simp [served] at left
  released _ := evicted.released
  quiet live unwanted := by simp [SlotView.served, live, unwanted] at served

theorem SlotServed.ofSame (same : after.unheld = before.unheld) (shows : before.Shows index view)
    (live : view.stale now = false) (unwanted : wanted view.filter = false) :
    SlotServed wanted item now view index before after := by
  have served : view.served wanted item now = (some view.entry, view.queue) := by
    simp [SlotView.served, live, unwanted]
  refine ⟨.same same, ?_, ?_, by simp [served], fun _ => ?_, by simp [served], fun _ _ => same⟩
  all_goals simp only [Table.unheld, Table.mk.injEq] at same
  all_goals obtain ⟨slots, rings, -, -, -, files, -⟩ := same
  · rw [served, slots, shows.entry]
  · rw [served, rings, shows.queue]
  · rw [rings, files]
    exact ⟨rfl, rfl, Iff.rfl⟩

theorem SlotServed.ofPushed {mid : Table} (pushed : Pushed view.entry.address item before mid)
    (same : after.unheld = mid.unheld) (shows : before.Shows index view)
    (live : view.stale now = false) (want : wanted view.filter = true)
    (fits : view.queue.length + item.length ≤ view.entry.sink.capacity) :
    SlotServed wanted item now view index before after := by
  have served : view.served wanted item now = (some view.entry, view.queue ++ item) := by
    simp [SlotView.served, live, want, fits]
  refine ⟨pushed.change.trans (.same same), ?_,
    ?_, by simp [served], fun _ => ?_, by simp [served], by simp [want]⟩
  all_goals simp only [Table.unheld, Table.mk.injEq] at same
  all_goals obtain ⟨slots, rings, -, -, -, files, -⟩ := same
  · rw [served, slots, pushed.connections, shows.entry]
  · rw [served, rings, pushed.queue, shows.queue]
  · rw [rings, files]
    exact ⟨pushed.linked, pushed.unmarked, by rw [pushed.only]⟩

end

section
variable {wants : ManagedConnection → Program SenderOp Bool} {wanted : SubscriptionFilter → Bool}
  {encode : UInt64 → Outcome OutboundFrame}

def Asks (sender : Sender) (task : SenderTask) (choices : Nat → SenderChoice)
    (wants : ManagedConnection → Program SenderOp Bool) (wanted : SubscriptionFilter → Bool) :
    Prop :=
  ∀ entry filter tick state, state.filters[entry.filter]? = some filter →
    (senderSystem sender).Alone task choices (wants entry) tick state fun reply _ after =>
      reply = wanted filter ∧ after.table = state.table

def Encodes (encode : UInt64 → Outcome OutboundFrame) : Prop :=
  ∀ nanos, ∃ frame, encode nanos = .ok frame

def MakesItems (encode : UInt64 → Outcome OutboundFrame) : Prop :=
  ∀ nanos frame, encode nanos = .ok frame → (Item.frame (frame.header ++ frame.payload)).Valid

theorem sharedFrame_alone (encodes : Encodes encode) (shared : Option OutboundFrame) :
    (senderSystem sender).Alone task choices (sharedFrame encode shared) tick state
      fun framed _ after =>
      (∃ frame, framed = some frame ∧
        (shared = some frame ∨ shared = none ∧ ∃ nanos, encode nanos = .ok frame)) ∧
        after = state := by
  cases shared with
  | some frame => exact .done ⟨⟨frame, rfl, .inl rfl⟩, rfl⟩
  | none =>
      obtain ⟨frame, made⟩ := encodes (choices tick).nanos
      refine .request rfl ?_
      dsimp only [Program.bind]
      rw [made]
      exact .done ⟨⟨frame, rfl, .inr ⟨rfl, _, made⟩⟩, rfl⟩

-- A slot whose connection is live and asks for the update; whatever follows the push.
theorem pushToEntry_then {bound : Nat} (undisturbed : Undisturbed choices bound) {view : SlotView}
    {index : SlotIndex} {now : UInt64} (own : OwnRings state.table)
    (found : state.table.slot index = some view) (live : view.stale now = false)
    (want : wanted view.filter = true) {frame : OutboundFrame}
    (valid : (Item.frame (frame.header ++ frame.payload)).Valid) {next : Program SenderOp Unit}
    {post : Unit → Nat → SenderState → Prop}
    (sent : ∀ later after,
      SlotServed wanted frame.item now view index state.table after.table →
      after.handles = state.handles.erase (task, view.entry.address) →
      (senderSystem sender).Alone task choices next later after post) :
    (senderSystem sender).Alone task choices (do
      pushToEntry view.entry frame
      dropArc view.entry.sink
      next) tick state post := by
  have shows := Table.slot_shows found
  have tabled : state.connections index = some view.entry := shows.entry
  obtain rfl : view.entry.slotIndex = index := own.indexed index view.entry tabled
  obtain ⟨there, sized⟩ := own.ring _ view.entry tabled
  have unshared := own.unshared shows.entry
  refine (pushToEntry_alone undisturbed there tabled unshared sized valid).bind ?_
  intro _ later pushed holds
  rw [show (state.channels view.entry.address).queue = _ from shows.queue] at holds
  refine (dropArc_alone view.entry.slotIndex view.entry).bind fun _ later after dropped => ?_
  split at holds
  · rename_i fits
    have slots : pushed.connections = state.connections := holds.connections
    have still := dropped.kept (tabled_of_slot (by rw [slots, tabled]))
    refine sent later after (.ofPushed holds still shows live want fits) ?_
    rw [dropped.handles, show pushed.handles = _ from congrArg Table.handles holds.only]
    rfl
  · rename_i full
    obtain ⟨evicted, kept⟩ := holds
    refine sent later after ?_ (by rw [dropped.handles, kept])
    refine .ofEvicted (evicted.dropped (Unshared.evicted unshared evicted) dropped) shows sized ?_
    simp [SlotView.served, live, want, full]

theorem serveSlot_alone {bound : Nat} (undisturbed : Undisturbed choices bound)
    (asks : Asks sender task choices wants wanted) (encodes : Encodes encode)
    (makes : MakesItems encode) {shared : Option OutboundFrame}
    (sharable : ∀ frame, shared = some frame → (Item.frame (frame.header ++ frame.payload)).Valid)
    {view : SlotView} {index : SlotIndex} (own : OwnRings state.table)
    (found : state.table.slot index = some view)
    (next : Option OutboundFrame → Program SenderOp Unit) {post : Unit → Nat → SenderState → Prop}
    (skipped :
      ∀ later after,
      (∀ item, SlotServed wanted item (choices tick).now view index state.table after.table) →
      after.handles = state.handles.erase (task, view.entry.address) →
      (senderSystem sender).Alone task choices (next shared) later after post)
    (sent : ∀ frame later after,
      (shared = some frame ∨ shared = none ∧ ∃ nanos, encode nanos = .ok frame) →
      SlotServed wanted frame.item (choices tick).now view index state.table after.table →
      after.handles = state.handles.erase (task, view.entry.address) →
      (senderSystem sender).Alone task choices (next (some frame)) later after post) :
    (senderSystem sender).Alone task choices (do
      let cleaned ← maybeCleanupStaleSlot index view.entry
      if cleaned then
        dropArc view.entry.sink
        next shared
      else
        let wanted ← wants view.entry
        if wanted then
          let framed ← sharedFrame encode shared
          match framed with
          | none => dropArc view.entry.sink
          | some frame =>
              pushToEntry view.entry frame
              dropArc view.entry.sink
              next (some frame)
        else
          dropArc view.entry.sink
          next shared) tick state post := by
  have shows := Table.slot_shows found
  have tabled : state.connections index = some view.entry := shows.entry
  obtain ⟨there, sized⟩ := own.ring index view.entry tabled
  have unshared := own.unshared shows.entry
  refine (maybeCleanupStaleSlot_alone undisturbed there tabled unshared).bind ?_
  rintro cleaned later mid ⟨judged, cleanedUp⟩
  rw [show state.lastSeen view.entry.address = view.lastSeen from shows.lastSeen] at judged
  cases cleaned with
  | true =>
      simp only [if_true] at cleanedUp ⊢
      obtain ⟨evicted, handles⟩ := cleanedUp
      refine (dropArc_alone index view.entry).bind fun _ later after dropped => ?_
      refine skipped later after (fun item => ?_) (by rw [dropped.handles, handles])
      refine .ofEvicted (evicted.dropped (Unshared.evicted unshared evicted) dropped) shows sized ?_
      rw [SlotView.served, SlotView.stale, ← judged, if_pos rfl]
  | false =>
      simp only [Bool.false_eq_true, if_false] at cleanedUp ⊢
      subst cleanedUp
      have live : view.stale (choices tick).now = false := judged.symm
      refine (asks view.entry view.filter later mid shows.filter).bind ?_
      rintro reply later asked ⟨rfl, same⟩
      have slots : asked.connections = mid.connections := congrArg Table.connections same
      have handles : asked.handles = mid.handles := congrArg Table.handles same
      cases want : wanted view.filter with
      | false =>
          simp only [Bool.false_eq_true, if_false]
          refine (dropArc_alone index view.entry).bind fun _ later after dropped => ?_
          refine skipped later after (fun item => ?_) (by rw [dropped.handles, handles])
          exact .ofSame ((dropped.kept (tabled_of_slot (by rw [slots, tabled]))).trans
            (congrArg Table.unheld same)) shows live want
      | true =>
          simp only [if_true]
          refine (sharedFrame_alone encodes shared).bind ?_
          rintro _ later framed ⟨⟨frame, rfl, source⟩, rfl⟩
          have valid : (Item.frame (frame.header ++ frame.payload)).Valid := by
            rcases source with kept | ⟨_, nanos, made⟩
            · exact sharable frame kept
            · exact makes nanos frame made
          refine pushToEntry_then undisturbed (same ▸ own) (same ▸ found) live want valid
            fun later after served kept => sent frame later after source (same ▸ served) ?_
          rw [kept, handles]

end

end

end Qlaster
