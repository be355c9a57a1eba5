import Mathlib.Data.List.FinRange
import Qlaster.FilterCore
import Qlaster.ChannelCore
import Qlaster.PrefixCode

/-!
The sender of `sender/mod.rs`: the slot table, its dispatchers and its upserts, as
programs over the atomic operations of `arc_swap`, `Arc`, the file system and the
rings, together with the consumers at the other end of the rings.
-/

namespace Qlaster

open Interleaving PrefixCode

def maxConnectionSlots : Nat := 10

def slotIdleTimeoutMs : Nat := 30 * 1000

abbrev SlotIndex := Fin maxConnectionSlots

abbrev Path := Bytes

/-- What the code of one sender process runs with; `toStringLossy` is that of `Path`. -/
structure Sender where
  codecs : Codecs
  contains : BloomContains
  pid : Nat
  shmDir : Path
  ringCapacity : Nat
  toStringLossy : Path → String

/-- `PathBuf::join` with a name that is not absolute. -/
def joinOsPath (dir name : Path) : Path :=
  if dir = [] ∨ dir.getLast? = some 47 then dir ++ name else dir ++ 47 :: name

/-- `shm_dir.join(format!("{pid}-{slot_index}-{connection_id}"))`. -/
def ringOsPath (shmDir : Path) (pid : Nat) (slotIndex : SlotIndex) (connectionId : UInt64) : Path :=
  joinOsPath shmDir
    (utf8 (String.ofList (Nat.toDigits 10 pid ++ '-' :: Nat.toDigits 10 slotIndex.val ++
    '-' :: Nat.toDigits 10 connectionId.toNat)))

def Sender.ringPath (sender : Sender) (slotIndex : SlotIndex) (connectionId : UInt64) : Path :=
  ringOsPath sender.shmDir sender.pid slotIndex connectionId

/-- `Arc<ShmRingProducer>` with the eventfd made for it; the address is the identity of both. -/
structure ShmRingProducer where
  address : Nat
  capacity : Nat
  path : Path
  deriving DecidableEq, Repr

/-- `Arc<ManagedConnection>`. Every connection has a ring of its own, so the ring's
address also tells connections apart; `filter` names the shared `ArcSwap`. -/
structure ManagedConnection where
  slotIndex : SlotIndex
  connectionId : UInt64
  filter : Nat
  sink : ShmRingProducer
  deriving DecidableEq, Repr

def ManagedConnection.address (entry : ManagedConnection) : Nat := entry.sink.address

def slotToken (entry : ManagedConnection) : SlotToken :=
  ⟨UInt8.ofNat entry.slotIndex.val, entry.connectionId⟩

inductive ShmSlotProvision
  | existing (slotToken : SlotToken)
  | created (slotToken : SlotToken) (ringPath : Path) (ringCapacity : Nat) (eventfd : Nat)

/-- Marks in the history of a run; they change nothing else. -/
inductive SenderNote
  | dispatchBegan (update : Update)
  | sinkClosed (address : Nat)
  | lookupReturned (lookup : Nat) (entry : ManagedConnection)
  | refreshed (request : SubscriptionRequest) (entry : ManagedConnection)
  | provisioned (result : Except QlasterError ShmSlotProvision)

inductive ManagerOp : Type → Type
  | loadSlot (index : SlotIndex) : ManagerOp (Option ManagedConnection)
  | compareAndSwap (index : SlotIndex) (current new : Option ManagedConnection) :
      ManagerOp (Option ManagedConnection)
  -- Give up one `Arc`; the answer tells whether it was the last.
  | dropHandle (address : Nat) : ManagerOp Bool
  -- `Drop for ShmRingProducer`.
  | dropProducer (ring : ShmRingProducer) : ManagerOp Unit
  | fetchAddConnectionId : ManagerOp UInt64
  | nowMs : ManagerOp UInt64
  | unixTimeNanos : ManagerOp UInt64
  -- The randomness of `Bloom::random`.
  | bloomSeed : ManagerOp Nat
  | newFilter (filter : SubscriptionFilter) : ManagerOp Nat
  | loadFilter (entry : ManagedConnection) : ManagerOp SubscriptionFilter
  | storeFilter (entry : ManagedConnection) (filter : SubscriptionFilter) : ManagerOp Unit
  | loadLastSeen (entry : ManagedConnection) : ManagerOp UInt64
  | storeLastSeen (entry : ManagedConnection) (ms : UInt64) : ManagerOp Unit
  | createDirAll : ManagerOp (Except String Unit)
  | createNew (path : Path) : ManagerOp (Except String Unit)
  | createQueue (path : Path) (capacity : Nat) : ManagerOp (Except String Nat)
  | removeFile (path : Path) : ManagerOp Unit
  | eventfdNew : ManagerOp (Except String Unit)
  -- `Arc::new(ManagedConnection { .. })`, which holds the ring as well.
  | newManaged (entry : ManagedConnection) (lastSeenMs : UInt64) : ManagerOp Unit
  | encodeFailed (error : QlasterError) : ManagerOp Unit
  | panicked : ManagerOp Unit
  -- `ShmRingConsumer::open` at the other end of the handshake.
  | openRing (address : Nat) : ManagerOp Bool
  | lookupBegan (token : SlotToken) : ManagerOp Nat
  | note (note : SenderNote) : ManagerOp Unit

inductive SenderOp (β : Type) : Type
  | manager (op : ManagerOp β)
  | channel (address : Nat) (op : ChannelOp β)

def ask {β : Type} (op : ManagerOp β) : Program SenderOp β := .perform (.manager op)

def onRing {α : Type} (address : Nat) (program : Program ChannelOp α) : Program SenderOp α :=
  program.lift fun op => .channel address op

/-! Arcs and their last drop. -/

def dropArc (ring : ShmRingProducer) : Program SenderOp Unit := do
  let last ← ask (.dropHandle ring.address)
  if last then ask (.dropProducer ring) else return ()

def dropLoaded : Option ManagedConnection → Program SenderOp Unit
  | none => return ()
  | some entry => dropArc entry.sink

/-! Eviction. -/

def isStale (entry : ManagedConnection) : Program SenderOp Bool := do
  let now ← ask .nowMs
  let seen ← ask (.loadLastSeen entry)
  return decide (slotIdleTimeoutMs < now.toNat - seen.toNat)

def closeSink (entry : ManagedConnection) : Program SenderOp Unit := do
  onRing entry.address sinkClose
  ask (.note (.sinkClosed entry.address))

def evict (slotIndex : SlotIndex) (entry : ManagedConnection) : Program SenderOp Unit := do
  closeSink entry
  let previous ← ask (.compareAndSwap slotIndex (some entry) none)
  dropLoaded previous

def cleanupIfSame (slotIndex : SlotIndex) (connectionId : UInt64) : Program SenderOp Unit := do
  let current ← ask (.loadSlot slotIndex)
  match current with
  | none => return ()
  | some entry =>
      (if entry.connectionId = connectionId then evict slotIndex entry else return ())
      dropArc entry.sink

def maybeCleanupStaleSlot (idx : SlotIndex) (entry : ManagedConnection) :
    Program SenderOp Bool := do
  let stale ← isStale entry
  if stale then
    evict idx entry
    return true
  else return false

def lookupByToken (token : SlotToken) : Program SenderOp (Option ManagedConnection) := do
  let lookup ← ask (.lookupBegan token)
  if inside : token.slotIndex.toNat < maxConnectionSlots then
    let idx : SlotIndex := ⟨token.slotIndex.toNat, inside⟩
    let loaded ← ask (.loadSlot idx)
    match loaded with
    | none => return none
    | some entry =>
        if entry.connectionId ≠ token.generation then
          dropArc entry.sink
          return none
        else
          let cleaned ← maybeCleanupStaleSlot idx entry
          if cleaned then
            dropArc entry.sink
            return none
          else
            ask (.note (.lookupReturned lookup entry))
            return some entry
  else return none

def findFreeSlotIn : List SlotIndex → Program SenderOp (Option SlotIndex)
  | [] => return none
  | idx :: rest => do
      let loaded ← ask (.loadSlot idx)
      match loaded with
      | none => return some idx
      | some existing =>
          let cleaned ← maybeCleanupStaleSlot idx existing
          if cleaned then
            let again ← ask (.loadSlot idx)
            dropLoaded again
            dropArc existing.sink
            if again.isNone then return some idx else findFreeSlotIn rest
          else
            dropArc existing.sink
            findFreeSlotIn rest

def findFreeSlot : Program SenderOp (Option SlotIndex) := findFreeSlotIn (List.finRange _)

def touchPing (ping : PingRequest) : Program SenderOp Bool := do
  let found ← lookupByToken ping.slotToken
  match found with
  | none => return false
  | some existing =>
      let now ← ask .nowMs
      ask (.storeLastSeen existing now)
      dropArc existing.sink
      return true

/-! The dispatchers. -/

def encodeAccountFrame (codecs : Codecs) (update : AccountUpdate) (nanos : UInt64) :
    Outcome OutboundFrame := do
  let (header, payload) ← update.encodePartsAt codecs.lz4 nanos
  return ⟨header, payload⟩

def encodeTransactionFrame (update : TransactionUpdate) (nanos : UInt64) :
    Outcome OutboundFrame := do
  let (header, payload) ← update.encodePartsAt nanos
  return ⟨header, payload⟩

def encodeSlotFrame (update : SlotUpdate) (nanos : UInt64) : Outcome OutboundFrame := do
  let (header, payload) ← update.encodePartsAt nanos
  return ⟨header, payload⟩

def encodeFrame (codecs : Codecs) : Update → UInt64 → Outcome OutboundFrame
  | .account update => encodeAccountFrame codecs update
  | .transaction update => encodeTransactionFrame update
  | .slot update => encodeSlotFrame update

def pushToEntry (entry : ManagedConnection) (frame : OutboundFrame) : Program SenderOp Unit := do
  let pushed ← onRing entry.address (sinkTryPush entry.sink.capacity frame)
  match pushed with
  | .ok _ => return ()
  | .error _ => cleanupIfSame entry.slotIndex entry.connectionId

/-- The frame shared by all recipients, encoded when the first one is found. -/
def sharedFrame (encode : UInt64 → Outcome OutboundFrame) :
    Option OutboundFrame → Program SenderOp (Option OutboundFrame)
  | some frame => return some frame
  | none => do
      let nanos ← ask .unixTimeNanos
      match encode nanos with
      | .ok frame => return some frame
      | .error (.error error) =>
          ask (.encodeFailed error)
          return none
      | .error .panic =>
          ask .panicked
          return none

/-- The loop the three dispatchers share: what an entry `wants` and how the frame is encoded differ.
-/
def dispatchSlots (wants : ManagedConnection → Program SenderOp Bool)
    (encode : UInt64 → Outcome OutboundFrame) :
    List SlotIndex → Option OutboundFrame → Program SenderOp Unit
  | [], _ => return ()
  | idx :: rest, shared => do
      let loaded ← ask (.loadSlot idx)
      match loaded with
      | none => dispatchSlots wants encode rest shared
      | some entry =>
          let cleaned ← maybeCleanupStaleSlot idx entry
          if cleaned then
            dropArc entry.sink
            dispatchSlots wants encode rest shared
          else
            let wanted ← wants entry
            if wanted then
              let framed ← sharedFrame encode shared
              match framed with
              | none => dropArc entry.sink
              | some frame =>
                  pushToEntry entry frame
                  dropArc entry.sink
                  dispatchSlots wants encode rest (some frame)
            else
              dropArc entry.sink
              dispatchSlots wants encode rest shared

def wantsAccount (sender : Sender) (update : AccountUpdate) (entry : ManagedConnection) :
    Program SenderOp Bool := do
  let filter ← ask (.loadFilter entry)
  return filter.matchesAccount sender.contains update

def wantsTransaction (entry : ManagedConnection) : Program SenderOp Bool := do
  let filter ← ask (.loadFilter entry)
  return filter.matchesTransaction

def dispatchAccountUpdate (sender : Sender) (update : AccountUpdate) : Program SenderOp Unit :=
  dispatchSlots (wantsAccount sender update) (encodeAccountFrame sender.codecs update)
    (List.finRange _) none

def dispatchTransactionUpdate (update : TransactionUpdate) : Program SenderOp Unit :=
  dispatchSlots wantsTransaction (encodeTransactionFrame update) (List.finRange _) none

def dispatchSlotUpdate (update : SlotUpdate) : Program SenderOp Unit :=
  dispatchSlots (fun _ => return true) (encodeSlotFrame update) (List.finRange _) none

/-! Subscriptions. -/

def applyRequest (entry : ManagedConnection) (request : SubscriptionRequest) :
    Program SenderOp Unit := do
  let current ← ask (.loadFilter entry)
  let seed ← ask .bloomSeed
  ask (.storeFilter entry (current.withRequest seed request))

/-- `ShmRingProducer::create`. -/
def createRing (toStringLossy : Path → String) (path : Path) (capacity : Nat) :
    Program SenderOp (Except QlasterError ShmRingProducer) := do
  if capacity < 64 then return .error (.shmError s!"capacity {capacity} too small (min 64)")
  else
    let parent ← ask .createDirAll
    match parent with
    | .error text => return .error (.shmError s!"create parent dir: {text}")
    | .ok _ =>
        let file ← ask (.createNew path)
        match file with
        | .error text => return .error (.shmError s!"open {toStringLossy path}: {text}")
        | .ok _ =>
            if 2 ^ 63 < capacity then
              -- `next_power_of_two` overflows.
              ask .panicked
              return .error .shmFull
            else
              let queue ← ask (.createQueue path (Nat.nextPowerOfTwo capacity))
              match queue with
              | .error text =>
                  ask (.removeFile path)
                  return .error (.shmError s!"shaq create: {text}")
              | .ok address => return .ok ⟨address, Nat.nextPowerOfTwo capacity, path⟩

/-- One turn of the install loop; `inl` is a lost `compare_and_swap`. -/
def installTurn (sender : Sender) (filter : Nat) (connectionId : UInt64) :
    Program SenderOp (Sum Unit (Except QlasterError ShmSlotProvision)) := do
  let free ← findFreeSlot
  match free with
  | none =>
      return .inr (.error (.configError s!"connection slots exhausted (max {maxConnectionSlots})"))
  | some slotIndex =>
      let ringPath := sender.ringPath slotIndex connectionId
      let created ← createRing sender.toStringLossy ringPath sender.ringCapacity
      match created with
      | .error error => return .inr (.error error)
      | .ok ring =>
          let eventfd ← ask .eventfdNew
          match eventfd with
          | .error text =>
              dropArc ring
              return .inr (.error (.shmError s!"eventfd: {text}"))
          | .ok _ =>
              let now ← ask .nowMs
              let managed : ManagedConnection := ⟨slotIndex, connectionId, filter, ring⟩
              ask (.newManaged managed now)
              let previous ← ask (.compareAndSwap slotIndex none (some managed))
              match previous with
              | none =>
                  -- The locals `managed` and `ring` go out of scope.
                  dropArc ring
                  dropArc ring
                  let token : SlotToken := ⟨UInt8.ofNat slotIndex.val, connectionId⟩
                  return .inr (.ok (.created token ringPath sender.ringCapacity ring.address))
              | some other =>
                  dropArc other.sink
                  dropArc ring
                  dropArc ring
                  return .inl ()

/-- `request.slot_token.and_then(|token| self.lookup_by_token(token))`. -/
def existingFor (request : SubscriptionRequest) : Program SenderOp (Option ManagedConnection) :=
  match request.slotToken with
  | none => return none
  | some token => lookupByToken token

def upsertShm (sender : Sender) (request : SubscriptionRequest) :
    Program SenderOp (Except QlasterError ShmSlotProvision) := do
  let found ← existingFor request
  match found with
  | some existing =>
      let now ← ask .nowMs
      ask (.storeLastSeen existing now)
      applyRequest existing request
      ask (.note (.refreshed request existing))
      dropArc existing.sink
      return .ok (.existing (slotToken existing))
  | none =>
      let seed ← ask .bloomSeed
      let filter ← ask (.newFilter (.fromRequest seed request))
      let connectionId ← ask .fetchAddConnectionId
      .iterate () fun _ => installTurn sender filter connectionId

/-! The tasks and what they are asked to do. -/

/-- The tasks of the sender process; and for each ring its consumer's reader, the
client that takes updates from the queues, and the runtime that polls the eventfd. -/
inductive SenderTask
  | dispatcher (kind : Kind)
  | handler (connection : Nat)
  | reader (ring : Nat)
  | client (ring : Nat)
  | runtime (ring : Nat)
  deriving DecidableEq, Repr

inductive SenderCall
  | dispatch (update : Update)
  | subscribe (request : SubscriptionRequest)
  | ping (ping : PingRequest)
  | consume (ring : Nat)
  | tryNext (ring : Nat) (kind : Kind)
  | poll (ring : Nat)

def dispatchUpdate (sender : Sender) : Update → Program SenderOp Unit
  | .account update => dispatchAccountUpdate sender update
  | .transaction update => dispatchTransactionUpdate update
  | .slot update => dispatchSlotUpdate update

def senderProgram (sender : Sender) : SenderCall → Program SenderOp Unit
  | .dispatch update => do
      ask (.note (.dispatchBegan update))
      dispatchUpdate sender update
  | .subscribe request => do
      let result ← upsertShm sender request
      ask (.note (.provisioned result))
  | .ping ping => do
      let _ ← touchPing ping
  | .consume ring => do
      let opened ← ask (.openRing ring)
      if opened then onRing ring (runReader sender.codecs) else return ()
  | .tryNext ring kind => do
      let _ ← onRing ring (.perform (.pop kind))
  | .poll ring => onRing ring (.perform .pollEvents)

/-- Every stream of updates has one dispatcher, and a ring one reader. -/
def senderMayStart : SenderTask → SenderCall → Bool
  | .dispatcher kind, .dispatch update => decide (update.kind = kind)
  | .handler _, .subscribe _ => true
  | .handler _, .ping _ => true
  | .reader ring, .consume ring' => decide (ring = ring')
  | .client ring, .tryNext ring' _ => decide (ring = ring')
  | .runtime ring, .poll ring' => decide (ring = ring')
  | _, _ => false

/-! What the operations do. -/

/-- One call of a dispatcher: the update, the connections whose filter asked for it when the
dispatcher looked, and those whose ring took it. -/
structure Dispatch where
  update : Update
  subscribed : List Nat
  pushed : List Nat
  deriving DecidableEq

/-- The process and its files; from `installed` on, the history of the run. -/
structure SenderState where
  connections : SlotIndex → Option ManagedConnection
  nextConnectionId : UInt64
  filters : List SubscriptionFilter
  lastSeen : Nat → UInt64
  channels : Nat → Channel SenderTask
  -- How many rings were ever made; a ring's address is its number.
  allocated : Nat
  paths : Nat → Path
  files : List Path
  -- The `Arc`s tasks hold, apart from those in the table.
  handles : List (SenderTask × Nat)
  installed : List ManagedConnection
  removed : List Nat
  closedBy : List (SenderTask × Nat)
  -- Evictions whose `compare_and_swap` has been executed.
  swapped : List (SenderTask × Nat)
  issued : Nat
  -- For each installed connection, which `fetch_add` its id came from.
  ordinals : List Nat
  -- The `fetch_add` whose id each task is to use for its next connection.
  claims : SenderTask → Option Nat
  -- Files created for a ring that does not exist yet.
  creating : SenderTask → Option Path
  -- The ring each task made last, until it is installed.
  fresh : SenderTask → Option Nat
  -- Producers whose last `Arc` is gone and whose file is still to be removed.
  dying : SenderTask → Option Nat
  handedOut : List Nat
  -- Tokens returned with a ring, and the ring's address.
  tokens : List (SlotToken × Nat)
  opened : List Nat
  -- Lookups begun, with the connections that had been removed by then.
  lookups : List (SlotToken × List Nat)
  resolved : List (SlotToken × List Nat × ManagedConnection)
  -- The filter each task loaded last.
  snapshots : SenderTask → Option (Nat × SubscriptionFilter)
  stored : List (Nat × SubscriptionFilter)
  refreshed : List (SubscriptionRequest × ManagedConnection)
  -- Calls of each dispatcher, newest first.
  dispatched : Kind → List Dispatch

/-- The sender before its first call; `files` is what the directory already holds. -/
def SenderState.created (files : List Path) : SenderState where
  connections := fun _ => none
  nextConnectionId := 1
  filters := []
  lastSeen := fun _ => 0
  channels := fun _ => Channel.created SenderTask 0
  allocated := 0
  paths := fun _ => []
  files := files
  handles := []
  installed := []
  removed := []
  closedBy := []
  swapped := []
  issued := 0
  ordinals := []
  claims := fun _ => none
  creating := fun _ => none
  fresh := fun _ => none
  dying := fun _ => none
  handedOut := []
  tokens := []
  opened := []
  lookups := []
  resolved := []
  snapshots := fun _ => none
  stored := []
  refreshed := []
  dispatched := fun _ => []

structure SenderChoice extends ChannelChoice where
  now : UInt64 := 0
  nanos : UInt64 := 0
  seed : Nat := 0
  -- The text of the error, when the system call is to fail.
  refused : Option String := none

def SubscriptionFilter.subscribes (filter : SubscriptionFilter) : Update → Bool
  | .account update => decide (filter.Subscribed update)
  | .transaction _ => filter.includeTransactions
  | .slot _ => true

namespace SenderState

def tabled (state : SenderState) (address : Nat) : Bool :=
  decide (∃ index, (state.connections index).map ManagedConnection.address = some address)

def hold (state : SenderState) (task : SenderTask) (loaded : Option ManagedConnection) :
    SenderState :=
  { state with handles := (loaded.map fun entry => (task, entry.address)).toList ++ state.handles }

def replace (state : SenderState) (task : SenderTask) (index : SlotIndex) :
    Option ManagedConnection → SenderState
  | none =>
      { state with
        connections := Function.update state.connections index none
        removed := state.removed ++ ((state.connections index).map ManagedConnection.address).toList
          }
  | some entry =>
      { state with
        connections := Function.update state.connections index (some entry)
        installed := state.installed ++ [entry]
        removed := state.removed ++ ((state.connections index).map ManagedConnection.address).toList
        ordinals := state.ordinals ++ (state.claims task).toList
        claims := Function.update state.claims task none
        fresh := Function.update state.fresh task none }

def currentDispatch (state : SenderState) (task : SenderTask) (change : Dispatch → Dispatch) :
    Kind → List Dispatch :=
  match task with
  | .dispatcher kind =>
      Function.update state.dispatched kind ((state.dispatched kind).modifyHead change)
  | _ => state.dispatched

def observed (state : SenderState) (task : SenderTask) (entry : ManagedConnection)
    (filter : SubscriptionFilter) : Kind → List Dispatch :=
  state.currentDispatch task fun dispatch =>
    if filter.subscribes dispatch.update then
      { dispatch with subscribed := entry.address :: dispatch.subscribed }
    else dispatch

def recordPush (state : SenderState) (task : SenderTask) (address : Nat) :
    {β : Type} → ChannelOp β → β → Kind → List Dispatch
  | _, .tryWriteSlice bytes, accepted =>
      if accepted && bytes ≠ sentinelBytes then
        state.currentDispatch task fun dispatch =>
          { dispatch with pushed := address :: dispatch.pushed }
      else state.dispatched
  | _, _, _ => state.dispatched

def record (state : SenderState) (task : SenderTask) : SenderNote → SenderState
  | .dispatchBegan update =>
      { state with
        dispatched := Function.update state.dispatched update.kind
          (⟨update, [], []⟩ :: state.dispatched update.kind) }
  | .sinkClosed address => { state with closedBy := (task, address) :: state.closedBy }
  | .lookupReturned lookup entry =>
      { state with
        resolved := state.resolved ++
          (state.lookups[lookup]?.map fun begun => (begun.1, begun.2, entry)).toList }
  | .refreshed request entry => { state with refreshed := (request, entry) :: state.refreshed }
  | .provisioned (.ok (.created token _ _ eventfd)) =>
      { state with
        claims := Function.update state.claims task none
        handedOut := eventfd :: state.handedOut
        tokens := (token, eventfd) :: state.tokens }
  | .provisioned _ => { state with claims := Function.update state.claims task none }

def execManager (choice : SenderChoice) (task : SenderTask) :
    {β : Type} → ManagerOp β → SenderState → Option (β × SenderState)
  | _, .loadSlot index, state =>
    some (state.connections index, state.hold task (state.connections index))
  | _, .compareAndSwap index current new, state =>
      -- Pointers are compared, and the caller is handed an `Arc` on what was there.
      let previous := state.connections index
      let noted := { state with
        swapped := (current.map fun entry : ManagedConnection => (task, entry.address)).toList ++
          state.swapped }
      if previous.map ManagedConnection.address = current.map ManagedConnection.address then
        some (previous, (noted.replace task index new).hold task previous)
      else some (previous, noted.hold task previous)
  | _, .dropHandle address, state =>
      let handles := state.handles.erase (task, address)
      if handles.any (fun handle => handle.2 = address) || state.tabled address then
        some (false, { state with handles := handles })
      else
        some (true, { state with
          handles := handles
          dying := Function.update state.dying task (some address) })
  | _, .dropProducer ring, state =>
      some ((), { state with
        files := state.files.filter (· ≠ ring.path)
        channels := Function.update state.channels ring.address
          { state.channels ring.address with linked := false }
        dying := Function.update state.dying task none })
  | _, .fetchAddConnectionId, state =>
      some (state.nextConnectionId, { state with
        nextConnectionId := state.nextConnectionId + 1
        issued := state.issued + 1
        claims := Function.update state.claims task (some state.issued) })
  | _, .nowMs, state => some (choice.now, state)
  | _, .unixTimeNanos, state => some (choice.nanos, state)
  | _, .bloomSeed, state => some (choice.seed, state)
  | _, .newFilter filter, state =>
      some (state.filters.length, { state with filters := state.filters ++ [filter] })
  | _, .loadFilter entry, state =>
      match state.filters[entry.filter]? with
      | none => none
      | some filter =>
          some (filter, { state with
            dispatched := state.observed task entry filter
            snapshots := Function.update state.snapshots task (some (entry.filter, filter)) })
  | _, .storeFilter entry filter, state =>
      some ((), { state with
        filters := state.filters.set entry.filter filter
        stored := (entry.filter, filter) :: state.stored })
  | _, .loadLastSeen entry, state => some (state.lastSeen entry.address, state)
  | _, .storeLastSeen entry ms, state =>
      some ((), { state with lastSeen := Function.update state.lastSeen entry.address ms })
  | _, .createDirAll, state =>
      match choice.refused with
      | some text => some (.error text, state)
      | none => some (.ok (), state)
  | _, .createNew path, state =>
      match choice.refused with
      | some text => some (.error text, state)
      | none =>
          if path ∈ state.files then some (.error "File exists (os error 17)", state)
          else some (.ok (), { state with
            files := path :: state.files
            creating := Function.update state.creating task (some path) })
  | _, .createQueue path capacity, state =>
      match choice.refused with
      | some text => some (.error text, state)
      | none =>
          let address := state.allocated
          some (.ok address, { state with
            channels := Function.update state.channels address (Channel.created SenderTask capacity)
            allocated := address + 1
            paths := Function.update state.paths address path
            handles := (task, address) :: state.handles
            creating := Function.update state.creating task none
            fresh := Function.update state.fresh task (some address) })
  | _, .removeFile path, state =>
      some ((), { state with
        files := state.files.filter (· ≠ path)
        creating := Function.update state.creating task none })
  | _, .eventfdNew, state =>
      match choice.refused with
      | some text => some (.error text, state)
      | none => some (.ok (), state)
  | _, .newManaged entry lastSeenMs, state =>
      some ((), { state with
        handles := (task, entry.address) :: state.handles
        lastSeen := Function.update state.lastSeen entry.address lastSeenMs })
  | _, .encodeFailed _, state => some ((), state)
  | _, .panicked, _ => none
  | _, .openRing address, state =>
      -- A consumer learns of a ring from the handshake, and opens it once.
      if address ∈ state.handedOut ∧ address ∉ state.opened then
        if state.paths address ∈ state.files then
          some (true, { state with opened := address :: state.opened })
        else some (false, state)
      else none
  | _, .lookupBegan token, state =>
      some (state.lookups.length,
        { state with lookups := state.lookups ++ [(token, state.removed)] })
  | _, .note note, state => some ((), state.record task note)

/-- An operation on a ring whose path does or does not exist. -/
def execRing (choice : ChannelChoice) (task : SenderTask) (present : Bool) :
    {β : Type} → ChannelOp β → Channel SenderTask → Option (β × Channel SenderTask)
  | _, .pathExists, channel => some (present, if present then channel.sawPath else channel)
  | _, op, channel => channel.exec choice task op

def execChannel (choice : SenderChoice) (task : SenderTask) (address : Nat) {β : Type}
    (op : ChannelOp β) (state : SenderState) : Option (β × SenderState) :=
  if address < state.allocated then
    match execRing choice.toChannelChoice task (decide (state.paths address ∈ state.files)) op
        (state.channels address) with
    | none => none
    | some (reply, channel) =>
        some (reply, { state with
          channels := Function.update state.channels address channel
          dispatched := state.recordPush task address op reply })
  else none

def exec (choice : SenderChoice) (task : SenderTask) :
    {β : Type} → SenderOp β → SenderState → Option (β × SenderState)
  | _, .manager op, state => state.execManager choice task op
  | _, .channel address op, state => state.execChannel choice task address op

end SenderState

def senderSystem (sender : Sender) :
    System SenderOp SenderTask SenderState SenderChoice SenderCall where
  exec choice task _ op state := state.exec choice task op
  program := senderProgram sender
  mayStart := senderMayStart

def senderStart (files : List Path) : Config SenderOp SenderTask SenderState where
  shared := SenderState.created files
  pool := fun _ => .done ()

end Qlaster
