import Qlaster.Cells
import Qlaster.Serving

/-!
Lookups and the search for a free slot with no concurrent step: which connections are live,
which slot is the first that is free, and that only stale connections are removed on the way.
-/

namespace Qlaster

open Interleaving Interleaving.System

/-- The state of the sender without the history of the run. -/
structure Process extends Table where
  nextConnectionId : UInt64
  paths : Nat → Path

def SenderState.process (state : SenderState) : Process where
  toTable := state.table
  nextConnectionId := state.nextConnectionId
  paths := state.paths

def Table.stale (table : Table) (now : UInt64) (entry : ManagedConnection) : Bool :=
  decide (slotIdleTimeoutMs < now.toNat - (table.lastSeen entry.address).toNat)

structure Table.Live (table : Table) (now : UInt64) (index : SlotIndex)
    (entry : ManagedConnection) : Prop where
  tabled : table.connections index = some entry
  seen : table.stale now entry = false

def Table.Free (table : Table) (now : UInt64) (index : SlotIndex) : Prop :=
  ∀ entry, table.connections index = some entry → table.stale now entry = true

theorem Table.Live.not_free {table : Table} {now : UInt64} {index : SlotIndex}
    {entry : ManagedConnection} (live : table.Live now index entry) : ¬ table.Free now index := by
  intro free
  have stale := free entry live.tabled
  rw [live.seen] at stale
  exact Bool.false_ne_true stale

/-- What the connections of the table have of their own. -/
structure Registered (process : Process) : Prop where
  indexed : ∀ index entry, process.connections index = some entry → entry.slotIndex = index
  known : ∀ index entry, process.connections index = some entry →
    entry.address < process.allocated ∧
    entry.sink.path ∈ process.files ∧ entry.filter < process.filters.length
  apart : ∀ index index' entry entry', process.connections index = some entry →
    process.connections index' = some entry' → index ≠ index' →
    entry.address ≠ entry'.address ∧ entry.sink.path ≠ entry'.sink.path ∧
      entry.filter ≠ entry'.filter
  held : ∀ handle ∈ process.handles, handle.2 < process.allocated

theorem registered {sender : Sender} {files : List Path}
    {config : Config SenderOp SenderTask SenderState}
    (run : (senderSystem sender).Reachable (senderStart files) config) :
    Registered config.shared.process := by
  have inv := sender_inv run
  have described : ∀ index entry, config.shared.connections index = some entry →
      entry.slotIndex = index ∧ entry ∈ config.shared.installed ∧
        entry.address < config.shared.allocated ∧
        linkedOf config.shared.channels entry.address = true ∧
        entry.sink.path = config.shared.paths entry.address := by
    intro index entry tabled
    obtain ⟨slot, member, -⟩ := inv.tabled.slot index entry tabled
    exact ⟨slot, member, inv.owned.numbered entry member, inv.owned.tabled index entry tabled,
      (inv.described.path entry member).1⟩
  refine ⟨fun index entry tabled => (described index entry tabled).1, ?_, ?_, ?_⟩
  · intro index entry tabled
    obtain ⟨-, member, bound, alive, path⟩ := described index entry tabled
    refine ⟨bound, ?_, inv.described.filter entry member⟩
    rw [path]
    exact inv.filed.present entry.address bound alive
  · intro index index' entry entry' tabled tabled' different
    obtain ⟨slot, member, bound, alive, path⟩ := described index entry tabled
    obtain ⟨slot', member', bound', alive', path'⟩ := described index' entry' tabled'
    have distinct : entry ≠ entry' := by
      rintro rfl
      exact different (slot.symm.trans slot')
    have rings : entry.address ≠ entry'.address :=
      fun same => distinct (inv.tabled.unique entry member entry' member' same)
    refine ⟨rings, fun same => rings ?_, fun same => distinct ?_⟩
    · rw [path, path'] at same
      exact inv.filed.distinct _ bound _ bound' alive alive' same
    · exact filters_apart run entry member entry' member' same
  · exact fun handle member => (inv.owned.held handle.1 handle.2 member).1

/-! Stale connections are removed. -/

/-- One ring and its file may have changed, and who refers to it. -/
structure RingChange (ring : ShmRingProducer) (before after : Process) : Prop where
  rings : ∀ address, address ≠ ring.address → after.channels address = before.channels address
  fewer : ∀ path, path ∈ after.files → path ∈ before.files
  files : ∀ path, path ≠ ring.path → path ∈ before.files → path ∈ after.files
  filters : after.filters = before.filters
  lastSeen : after.lastSeen = before.lastSeen
  allocated : after.allocated = before.allocated
  nextConnectionId : after.nextConnectionId = before.nextConnectionId

theorem RingChange.trans {ring : ShmRingProducer} {before mid after : Process}
    (first : RingChange ring before mid)
    (second : RingChange ring mid after) : RingChange ring before after where
  rings address different := (second.rings address different).trans (first.rings address different)
  fewer path there := first.fewer path (second.fewer path there)
  files path different there := second.files path different (first.files path different there)
  filters := second.filters.trans first.filters
  lastSeen := second.lastSeen.trans first.lastSeen
  allocated := second.allocated.trans first.allocated
  nextConnectionId := second.nextConnectionId.trans first.nextConnectionId

structure Emptied (index : SlotIndex) (entry : ManagedConnection) (before after : Process) : Prop
    extends RingChange entry.sink before after where
  slots : after.connections = Function.update before.connections index none
  handles : after.handles = before.handles

/-- All that has been taken away is stale; filters and the counter are not looked at. -/
structure Swept (now : UInt64) (before after : Process) : Prop where
  live : ∀ index entry, before.Live now index entry → after.connections index = some entry
  kept : ∀ index entry, after.connections index = some entry →
    before.connections index = some entry ∧
    after.channels entry.address = before.channels entry.address ∧ entry.sink.path ∈ after.files
  files : ∀ path, path ∈ after.files → path ∈ before.files
  lastSeen : after.lastSeen = before.lastSeen
  allocated : before.allocated ≤ after.allocated
  handles : after.handles = before.handles

section
variable {now : UInt64} {before mid after : Process}

theorem Swept.refl (registered : Registered before) : Swept now before before where
  live _ _ live := live.tabled
  kept index entry tabled := ⟨tabled, rfl, (registered.known index entry tabled).2.1⟩
  files _ := id
  lastSeen := rfl
  allocated := Nat.le_refl _
  handles := rfl

theorem Swept.stays (swept : Swept now before after) {index : SlotIndex} {entry : ManagedConnection}
    (live : before.Live now index entry) : after.Live now index entry := by
  refine ⟨swept.live index entry live, ?_⟩
  have seen := live.seen
  rw [Table.stale] at seen ⊢
  rwa [swept.lastSeen]

theorem Swept.trans (first : Swept now before mid) (second : Swept now mid after) :
    Swept now before after where
  live index entry live := second.live index entry (first.stays live)
  kept index entry tabled := by
    obtain ⟨earlier, ring, file⟩ := second.kept index entry tabled
    obtain ⟨earliest, ring', -⟩ := first.kept index entry earlier
    exact ⟨earliest, ring.trans ring', file⟩
  files path there := first.files path (second.files path there)
  lastSeen := second.lastSeen.trans first.lastSeen
  allocated := first.allocated.trans second.allocated
  handles := second.handles.trans first.handles

theorem Swept.free_iff (swept : Swept now before after) (index : SlotIndex) :
    after.Free now index ↔ before.Free now index := by
  constructor
  · intro free entry tabled
    by_contra seen
    have live : before.Live now index entry := ⟨tabled, by simpa using seen⟩
    exact (swept.stays live).not_free free
  · intro free entry tabled
    rw [Table.stale, swept.lastSeen]
    exact free entry (swept.kept index entry tabled).1

theorem Swept.ofEmptied {index : SlotIndex} {entry : ManagedConnection}
    (registered : Registered before)
    (emptied : Emptied index entry before after) (tabled : before.connections index = some entry)
    (stale : before.stale now entry = true) : Swept now before after where
  live other found live := by
    have different : other ≠ index := by
      rintro rfl
      obtain rfl := Option.some.inj (live.tabled.symm.trans tabled)
      exact Bool.false_ne_true (live.seen.symm.trans stale)
    rw [emptied.slots, Function.update_of_ne different]
    exact live.tabled
  kept other found there := by
    rw [emptied.slots] at there
    have different : other ≠ index := by
      rintro rfl
      simp at there
    rw [Function.update_of_ne different] at there
    obtain ⟨ring, path, -⟩ := registered.apart other index found entry there tabled different
    exact ⟨there, emptied.rings _ ring,
      emptied.files _ path (registered.known other found there).2.1⟩
  files := emptied.fewer
  lastSeen := emptied.lastSeen
  allocated := emptied.allocated.ge
  handles := emptied.handles

end

structure Purged (now : UInt64) (before after : Process) : Prop extends Swept now before after where
  filters : after.filters = before.filters
  nextConnectionId : after.nextConnectionId = before.nextConnectionId

theorem Purged.refl {now : UInt64} {before : Process} (registered : Registered before) :
    Purged now before before :=
  ⟨.refl registered, rfl, rfl⟩

theorem Purged.trans {now : UInt64} {before mid after : Process} (first : Purged now before mid)
    (second : Purged now mid after) : Purged now before after :=
  ⟨first.toSwept.trans second.toSwept, second.filters.trans first.filters,
    second.nextConnectionId.trans first.nextConnectionId⟩

theorem Purged.registered {now : UInt64} {before after : Process} (purged : Purged now before after)
    (registered : Registered before) : Registered after := by
  refine ⟨?_, ?_, ?_, ?_⟩
  · exact fun index entry tabled => registered.indexed index entry
      (purged.kept index entry tabled).1
  · intro index entry tabled
    obtain ⟨earlier, -, file⟩ := purged.kept index entry tabled
    obtain ⟨bound, -, filter⟩ := registered.known index entry earlier
    exact ⟨bound.trans_le purged.allocated, file, by rwa [purged.filters]⟩
  · intro index index' entry entry' tabled tabled'
    exact registered.apart index index' entry entry' (purged.kept index entry tabled).1
      (purged.kept index' entry' tabled').1
  · intro handle member
    rw [purged.handles] at member
    exact (registered.held handle member).trans_le purged.allocated

theorem Purged.ofEmptied {now : UInt64} {before after : Process} {index : SlotIndex}
    {entry : ManagedConnection}
    (registered : Registered before) (emptied : Emptied index entry before after)
    (tabled : before.connections index = some entry) (stale : before.stale now entry = true) :
    Purged now before after :=
  ⟨.ofEmptied registered emptied tabled stale, emptied.filters, emptied.nextConnectionId⟩

section
variable {sender : Sender} {task : SenderTask} {choices : Nat → SenderChoice} {tick bound : Nat}
  {state : SenderState}

def OnRing (address : Nat) : {β : Type} → SenderOp β → Prop
  | _, .channel target _ => target = address
  | _, .manager _ => False

theorem closeSink_frame (settled : ∀ n, bound ≤ n → (choices n).interrupted = false)
    {entry : ManagedConnection} (there : entry.address < state.allocated) :
    (senderSystem sender).Alone task choices (closeSink entry) tick state fun _ _ after =>
      ∃ channel, after.process =
        { state.process with channels := Function.update state.channels entry.address channel } := by
  obtain ⟨accepted, channel, written⟩ : ∃ accepted channel, ∀ present,
      SenderState.execRing (choices tick).toChannelChoice task present
        (.tryWriteSlice sentinelBytes)
        (state.channels entry.address) = some (accepted, channel) := by
    simp only [SenderState.execRing, Channel.exec]
    split
    · exact ⟨_, _, fun _ => rfl⟩
    · exact ⟨_, _, fun _ => rfl⟩
  have returns :
    (senderSystem sender).Alone task choices (onRing entry.address sinkClose) tick state
      fun _ _ _ => True := by
    refine ring_then there written fun mid table => ?_
    have there' : entry.address < mid.allocated := by
      rw [show mid.allocated = state.allocated from congrArg Table.allocated table]
      exact there
    exact (notify_alone settled there').bind fun _ _ _ _ => .done trivial
  have framed : (senderSystem sender).Alone task choices (onRing entry.address sinkClose) tick state
      fun _ _ after => True ∧ ∃ channel, after.process =
        { state.process with channels := Function.update state.channels entry.address channel } := by
    have only : (onRing entry.address sinkClose).Only (OnRing entry.address) :=
      Program.lift_only (fun _ => rfl) sinkClose
    refine returns.along only ?_
      ⟨state.channels entry.address, by simp [SenderState.process, SenderState.table]⟩
    rintro choice β op before reply after on executed ⟨channel, framed⟩
    cases op with
    | manager op => exact on.elim
    | channel target op =>
        obtain rfl := on
        obtain ⟨-, channel', -, rfl⟩ := SenderState.execChannel_ring executed
        refine ⟨channel', ?_⟩
        change { before.process with
          channels := Function.update before.process.channels entry.address channel' } = _
        rw [framed]
        simp
  exact framed.bind fun _ _ _ holds => .request rfl (.done holds.2)

theorem dropArc_tabled {ring : ShmRingProducer} (tabled : state.tabled ring.address = true) :
    (senderSystem sender).Alone task choices (dropArc ring) tick state fun _ _ after =>
      after = { state with handles := state.handles.erase (task, ring.address) } :=
  dropArc_shared (by simp [tabled])

theorem dropArc_frame (ring : ShmRingProducer) :
    (senderSystem sender).Alone task choices (dropArc ring) tick state fun _ _ after =>
      RingChange ring state.process after.process ∧ after.connections = state.connections ∧
        after.handles = state.handles.erase (task, ring.address) := by
  cases shared :
    (state.handles.erase (task, ring.address)).any (fun handle => handle.2 = ring.address) ||
      state.tabled ring.address with
  | true =>
      refine (dropArc_shared shared).mono ?_
      rintro _ _ _ rfl
      exact ⟨⟨fun _ _ => rfl, fun _ => id, fun _ _ => id, rfl, rfl, rfl, rfl⟩, rfl, rfl⟩
  | false =>
      refine (dropArc_last shared).mono ?_
      rintro _ _ _ rfl
      refine ⟨⟨fun address different => Function.update_of_ne different _ _, ?_, ?_, rfl, rfl, rfl,
        rfl⟩, rfl, rfl⟩
      · exact fun path there => (List.mem_filter.mp there).1
      · exact fun path different there => List.mem_filter.mpr ⟨there, by simpa using different⟩

theorem evict_frame (settled : ∀ n, bound ≤ n → (choices n).interrupted = false) {index : SlotIndex}
    {entry : ManagedConnection} (there : entry.address < state.allocated)
    (tabled : state.connections index = some entry) :
    (senderSystem sender).Alone task choices (evict index entry) tick state
      fun _ _ after => Emptied index entry state.process after.process := by
  refine (closeSink_frame settled there).bind ?_
  rintro _ _ noted ⟨channel, framed⟩
  have slots : noted.connections = state.connections :=
    congrArg (fun process => process.connections) framed
  have found : noted.connections index = some entry := by rw [slots, tabled]
  have closed : RingChange entry.sink state.process noted.process := by
    rw [framed]
    exact ⟨fun address different => Function.update_of_ne different _ _, fun _ => id, fun _ _ =>
      id, rfl, rfl, rfl, rfl⟩
  refine .request (by
    simp only [senderSystem, SenderState.exec, SenderState.execManager, found, if_true]; rfl) ?_
  refine (dropArc_frame entry.sink).mono ?_
  rintro _ _ after ⟨dropped, same, handles⟩
  refine ⟨closed.trans ⟨dropped.rings, dropped.fewer, dropped.files, dropped.filters,
    dropped.lastSeen, dropped.allocated, dropped.nextConnectionId⟩, ?_, ?_⟩
  · change after.connections = Function.update state.connections index none
    rw [same, ← slots]
    rfl
  · rw [show after.process.handles = _ from handles]
    exact (List.erase_cons_head ..).trans (congrArg (fun process => process.handles) framed)

theorem maybeCleanupStaleSlot_frame (settled : ∀ n, bound ≤ n → (choices n).interrupted = false)
    {now : UInt64}
    (constant : ∀ n, (choices n).now = now) {index : SlotIndex} {entry : ManagedConnection}
    (there : entry.address < state.allocated) (tabled : state.connections index = some entry) :
    (senderSystem sender).Alone task choices (maybeCleanupStaleSlot index entry) tick state
      fun cleaned _ after =>
      cleaned = state.table.stale now entry ∧
        if cleaned then Emptied index entry state.process after.process else after = state := by
  refine isStale_alone.bind ?_
  rintro stale _ _ ⟨judged, rfl⟩
  rw [constant] at judged
  cases stale with
  | false => exact .done ⟨judged, rfl⟩
  | true =>
    exact (evict_frame settled there tabled).bind fun _ _ _ emptied => .done ⟨judged, emptied⟩

def Process.holding (process : Process) (task : SenderTask) (entry : ManagedConnection) : Process :=
  { process with handles := (task, entry.address) :: process.handles }

theorem loadSlot_then {α : Type} {index : SlotIndex}
    {next : Option ManagedConnection → Program SenderOp α} {post : α → Nat → SenderState → Prop}
    (empty : state.connections index = none → ∀ held : SenderState, held.process = state.process →
      (senderSystem sender).Alone task choices (next none) (tick + 1) held post)
    (taken : ∀ entry, state.connections index = some entry → ∀ held : SenderState,
      held.process = state.process.holding task entry →
      (senderSystem sender).Alone task choices (next (some entry)) (tick + 1) held post) :
    (senderSystem sender).Alone task choices ((ask (.loadSlot index)).bind next) tick
      state post := by
  refine .request rfl ?_
  cases loaded : state.connections index with
  | none => exact empty loaded _ rfl
  | some entry => exact taken entry loaded _ rfl

section
variable {before : Process} {index : SlotIndex} {entry : ManagedConnection}

theorem dropHeld_alone (tabled : before.connections index = some entry)
    (held : state.process = before.holding task entry) :
    (senderSystem sender).Alone task choices (dropArc entry.sink) tick state
      fun _ _ after => after.process = before := by
  have there : state.connections index = some entry :=
    (congrArg (fun process => process.connections index) held).trans tabled
  refine (dropArc_tabled (tabled_of_slot there)).mono ?_
  rintro _ _ _ rfl
  change { state.process with handles := state.process.handles.erase (task, entry.address) } =
    before
  rw [held, Process.holding]
  simp

theorem cleanHeld_alone (settled : ∀ n, bound ≤ n → (choices n).interrupted = false) {now : UInt64}
    (constant : ∀ n, (choices n).now = now) (registered : Registered before)
    (tabled : before.connections index = some entry)
    (held : state.process = before.holding task entry) :
    (senderSystem sender).Alone task choices (maybeCleanupStaleSlot index entry) tick state
      fun cleaned _ after =>
      cleaned = before.stale now entry ∧
        if cleaned then Emptied index entry (before.holding task entry) after.process
        else after.process = before.holding task entry := by
  have there : entry.address < state.allocated := by
    rw [show state.allocated = _ from congrArg (fun process => process.allocated) held]
    exact (registered.known index entry tabled).1
  have found : state.connections index = some entry :=
    (congrArg (fun process => process.connections index) held).trans tabled
  refine (maybeCleanupStaleSlot_frame settled constant there found).mono ?_
  rintro cleaned _ after ⟨judged, cleanedUp⟩
  refine ⟨?_, ?_⟩
  · rw [judged, show state.table = _ from congrArg Process.toTable held]
    rfl
  · cases cleaned with
    | true => exact held ▸ cleanedUp
    | false =>
        rw [show after = state from cleanedUp]
        exact held

theorem dropEmptied_alone
    (emptied : Emptied index entry (before.holding task entry) state.process) :
    (senderSystem sender).Alone task choices (dropArc entry.sink) tick state
      fun _ _ after => Emptied index entry before after.process := by
  refine (dropArc_frame entry.sink).mono ?_
  rintro _ _ after ⟨dropped, same, handles⟩
  have change := emptied.toRingChange.trans dropped
  refine ⟨⟨change.rings, change.fewer, change.files, change.filters, change.lastSeen,
    change.allocated, change.nextConnectionId⟩, ?_, ?_⟩
  · exact same.trans emptied.slots
  · rw [show after.process.handles = _ from handles, show state.handles = _ from emptied.handles]
    exact List.erase_cons_head ..

end

theorem slotToken_fields {entry : ManagedConnection} {token : SlotToken}
    (same : slotToken entry = token) :
    token.slotIndex.toNat = entry.slotIndex.val ∧ token.generation = entry.connectionId := by
  subst same
  have small : entry.slotIndex.val < 10 := entry.slotIndex.isLt
  refine ⟨?_, rfl⟩
  simp only [slotToken, UInt8.toNat_ofNat']
  omega

def LookedUp (now : UInt64) (token : SlotToken) (task : SenderTask) (before after : Process) :
    Option ManagedConnection → Prop
  | some entry => before.Live now entry.slotIndex entry ∧ slotToken entry = token ∧
      after = before.holding task entry
  | none =>
    (∀ index entry, before.Live now index entry → slotToken entry ≠ token) ∧ Purged now before after

theorem lookupByToken_alone (settled : ∀ n, bound ≤ n → (choices n).interrupted = false)
    {now : UInt64} (constant : ∀ n, (choices n).now = now) (registered : Registered state.process)
    (token : SlotToken) :
    (senderSystem sender).Alone task choices (lookupByToken token) tick state
      fun found _ after => LookedUp now token task state.process after.process found := by
  refine .request rfl ?_
  dsimp only
  split
  · rename_i inside
    -- A connection with the token can only be in the slot that the token names.
    have placed : ∀ index entry, state.connections index = some entry → slotToken entry = token →
        state.connections ⟨token.slotIndex.toNat, inside⟩ = some entry := by
      intro index entry tabled same
      have slot : (⟨token.slotIndex.toNat, inside⟩ : SlotIndex) = index := by
        rw [← registered.indexed index entry tabled]
        exact Fin.ext (slotToken_fields same).1
      rw [slot, tabled]
    refine loadSlot_then (fun loaded held same => ?_) fun entry loaded held holding => ?_
    · refine .done ⟨fun index entry live token => ?_, ?_⟩
      · have found := placed index entry live.tabled token
        simp [show state.connections ⟨_, inside⟩ = none from loaded] at found
      · rw [same]
        exact .refl registered
    have there : ∀ index found, state.connections index = some found → slotToken found = token →
        found = entry :=
      fun index found tabled same =>
        Option.some.inj ((placed index found tabled same).symm.trans loaded)
    dsimp only
    split
    · rename_i other
      refine (dropHeld_alone loaded holding).bind fun _ _ after dropped => .done ⟨?_, ?_⟩
      · intro index found live same
        obtain rfl := there index found live.tabled same
        exact other (slotToken_fields same).2.symm
      · rw [dropped]
        exact .refl registered
    · rename_i issued
      refine (cleanHeld_alone settled constant registered loaded holding).bind ?_
      rintro cleaned _ mid ⟨judged, cleanedUp⟩
      cases cleaned with
      | true =>
          refine (dropEmptied_alone cleanedUp).bind fun _ _ after emptied => .done ⟨?_, ?_⟩
          · intro index found live same
            obtain rfl := there index found live.tabled same
            exact Bool.false_ne_true (live.seen.symm.trans judged.symm)
          · exact .ofEmptied registered emptied loaded judged.symm
      | false =>
          have indexed := registered.indexed _ entry loaded
          refine .request rfl (.done ⟨⟨?_, judged.symm⟩, ?_, cleanedUp⟩)
          · rw [indexed]
            exact loaded
          · exact slotToken_eq (by rw [indexed]) (not_not.mp issued)
  · rename_i outside
    refine .done ⟨fun index entry live same => ?_, .refl registered⟩
    have slot := (slotToken_fields same).1
    have small : entry.slotIndex.val < maxConnectionSlots := entry.slotIndex.isLt
    omega

/-- The first of the slots that is free, emptied if it was not. -/
def FoundFree (now : UInt64) (slots : List SlotIndex) (before after : Process) :
    Option SlotIndex → Prop
  | none => after = before ∧ ∀ index ∈ slots, ¬ before.Free now index
  | some index =>
    (∃ earlier later, slots = earlier ++ index :: later ∧ ∀ lower ∈ earlier,
      ¬ before.Free now lower) ∧
      before.Free now index ∧ after.connections index = none ∧ Purged now before after

theorem FoundFree.cons {now : UInt64} {index : SlotIndex} {rest : List SlotIndex}
    {before after : Process} {found : Option SlotIndex} (taken : ¬ before.Free now index)
    (holds : FoundFree now rest before after found) :
    FoundFree now (index :: rest) before after found := by
  cases found with
  | none =>
      obtain ⟨same, all⟩ := holds
      exact ⟨same, List.forall_mem_cons.mpr ⟨taken, all⟩⟩
  | some free =>
      obtain ⟨⟨earlier, later, split, all⟩, holds⟩ := holds
      refine ⟨⟨index :: earlier, later, ?_, List.forall_mem_cons.mpr ⟨taken, all⟩⟩, holds⟩
      rw [split, List.cons_append]

theorem findFreeSlotIn_alone (settled : ∀ n, bound ≤ n → (choices n).interrupted = false)
    {now : UInt64}
    (constant : ∀ n, (choices n).now = now) {before : Process} (registered : Registered before)
    (slots : List SlotIndex) (same : state.process = before) :
    (senderSystem sender).Alone task choices (findFreeSlotIn slots) tick state
      fun found _ after => FoundFree now slots before after.process found := by
  induction slots generalizing tick state with
  | nil => exact .done ⟨same, by simp⟩
  | cons index rest ih =>
      subst same
      refine loadSlot_then (fun loaded held same => ?_) fun existing loaded held holding => ?_
      · refine .done ⟨⟨[], rest, rfl, by simp⟩, ?_, ?_, ?_⟩
        · intro entry tabled
          simp [show state.process.connections index = none from loaded] at tabled
        · rw [same]
          exact loaded
        · rw [same]
          exact .refl registered
      refine (cleanHeld_alone settled constant registered loaded holding).bind ?_
      rintro cleaned _ mid ⟨judged, cleanedUp⟩
      cases cleaned with
      | false =>
          have live : state.process.Live now index existing := ⟨loaded, judged.symm⟩
          refine (dropHeld_alone loaded cleanedUp).bind fun _ _ after dropped => ?_
          exact (ih dropped).mono fun _ _ _ holds => holds.cons live.not_free
      | true =>
          have gone : mid.connections index = none := by
            rw [show mid.connections = _ from cleanedUp.slots, Function.update_self]
          refine loadSlot_then (fun _ again same => ?_) fun entry loaded => ?_
          · rw [← same] at cleanedUp
            refine (dropEmptied_alone cleanedUp).bind fun _ _ after emptied =>
              .done ⟨⟨[], rest, rfl, by simp⟩, ?_, ?_, ?_⟩
            · intro entry tabled
              obtain rfl := Option.some.inj (tabled.symm.trans loaded)
              exact judged.symm
            · rw [emptied.slots, Function.update_self]
            · exact .ofEmptied registered emptied loaded judged.symm
          · simp [gone] at loaded

end

end Qlaster
