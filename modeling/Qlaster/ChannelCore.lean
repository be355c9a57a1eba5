import Qlaster.DropOldest
import Qlaster.Program
import Qlaster.TypesCore

/-!
One ring with its wakeup counter: `shm/ring.rs`, `shm/eventfd.rs`, `transport.rs`
and the reader of `consumer/shm.rs`, as programs over the atomic operations of
`shaq`, the kernel and the runtime.
-/

namespace Qlaster

open LittleEndian Interleaving

def frameLenBytes : Nat := 4
def closeSentinel : UInt32 := 4294967295
def sentinelBytes : Bytes := u32ToLeBytes closeSentinel
def consumerUpdateQueueCapacity : Nat := 2048

def eventfdMax : Nat := 2 ^ 64 - 2

inductive Kind
  | account
  | transaction
  | slot
  deriving DecidableEq, Repr

inductive Update
  | account (update : AccountUpdate)
  | transaction (update : TransactionUpdate)
  | slot (update : SlotUpdate)
  deriving DecidableEq, Repr

def Update.kind : Update → Kind
  | .account _ => .account
  | .transaction _ => .transaction
  | .slot _ => .slot

structure OutboundFrame where
  header : Bytes
  payload : Bytes
  deriving DecidableEq, Repr

inductive TraceEvent
  | partialFrame (requested received : Nat)
  | notifyFailed (kind : IoErrorKind)
  | asyncSetupFailed (kind : IoErrorKind)
  | nonUpdateFrame (frame : ServerFrameWithMeta)
  | decodeFailed (error : QlasterError)
  | waitFailed (kind : IoErrorKind)

/-- Marks that a call has returned; they only touch the history. -/
inductive ChannelNote
  | pushReturned (parts : List Bytes) (result : Except QlasterError Unit)
  | closeReturned
  | popReturned (result : Option Bytes)
  | readerReturned (closed : Bool)

inductive SyscallReply (α : Type)
  | done (value : α)
  | wouldBlock
  | interrupted
  | failed (kind : IoErrorKind)

inductive ChannelOp : Type → Type
  | tryWriteSlice (bytes : Bytes) : ChannelOp Bool
  | fetchAddDropped : ChannelOp Unit
  | reserveReadBatch (len : Nat) : ChannelOp (Option Bytes)
  | storeClosed : ChannelOp Unit
  | loadClosed : ChannelOp Bool
  | pathExists : ChannelOp Bool
  | unlink : ChannelOp Unit
  | writeEventfd : ChannelOp (SyscallReply Unit)
  | readEventfd : ChannelOp (SyscallReply Nat)
  | registerEventfd : ChannelOp (Except IoErrorKind Unit)
  | readable : ChannelOp (Except IoErrorKind Nat)
  | clearReady (tick : Nat) : ChannelOp Unit
  | pollEvents : ChannelOp Unit
  | forcePush (update : Update) : ChannelOp Unit
  | pop (kind : Kind) : ChannelOp (Option Update)
  | trace (event : TraceEvent) : ChannelOp Unit
  | panicked : ChannelOp Unit
  | note (note : ChannelNote) : ChannelOp Unit

/-! The ring, `shm/ring.rs`. -/

def framed (bodyLen : UInt32) (parts : List Bytes) : Bytes := u32ToLeBytes bodyLen ++ parts.flatten

def ringTryPush (capacity : Nat) (parts : List Bytes) :
    Program ChannelOp (Except QlasterError Unit) := do
  let bodyLen := (parts.map List.length).sum
  if 2 ^ 32 ≤ bodyLen then return .error (.payloadTooLarge bodyLen (2 ^ 32 - 1))
  else
    let frameSize := frameLenBytes + bodyLen
    if capacity < frameSize then
      return .error (.shmError s!"frame {frameSize} > ring capacity {capacity}")
    else
      let accepted ← .perform (.tryWriteSlice (framed (UInt32.ofNat bodyLen) parts))
      if accepted then return .ok ()
      else
        .perform .fetchAddDropped
        return .error .shmFull

def ringClose : Program ChannelOp Unit := do
  let _ ← .perform (.tryWriteSlice sentinelBytes)

def isClosed : Program ChannelOp Bool := do
  let closed ← .perform .loadClosed
  if closed then return true
  else
    let present ← .perform .pathExists
    return !present

def readExact (len : Nat) : Program ChannelOp (Option Bytes) := do
  let reserved ← .perform (.reserveReadBatch len)
  match reserved with
  | none => return none
  | some batch =>
      if batch.length ≠ len then
        .perform (.trace (.partialFrame len batch.length))
        return none
      else return some batch

/-- What `try_pop` does once the length bytes are read. -/
def popBody (lenBytes : Bytes) : Program ChannelOp (Option Bytes) :=
  let frameLen := u32FromLeBytes lenBytes
  if frameLen = closeSentinel then do
    .perform .storeClosed
    return none
  else
    let bodyLen := frameLen.toNat
    if bodyLen = 0 then return some []
    else readExact bodyLen

def tryPop : Program ChannelOp (Option Bytes) := do
  let lenBytes ← readExact frameLenBytes
  match lenBytes with
  | none => return none
  | some lenBytes => if lenBytes.length = 4 then popBody lenBytes else return none

/-! The wakeup counter, `shm/eventfd.rs`. -/

def notify : Program ChannelOp (Except IoErrorKind Unit) :=
  .iterate () fun _ => do
    let reply ← .perform .writeEventfd
    match reply with
    | .done _ => return .inr (.ok ())
    | .wouldBlock => return .inr (.ok ())
    | .interrupted => return .inl ()
    | .failed kind => return .inr (.error kind)

def drain : Program ChannelOp (Except IoErrorKind Nat) :=
  .iterate () fun _ => do
    let reply ← .perform .readEventfd
    match reply with
    | .done count => return .inr (.ok count)
    | .wouldBlock => return .inr (.ok 0)
    | .interrupted => return .inl ()
    | .failed kind => return .inr (.error kind)

def wait : Program ChannelOp (Except IoErrorKind Nat) :=
  .iterate () fun _ => do
    let ready ← .perform .readable
    match ready with
    | .error kind => return .inr (.error kind)
    | .ok tick =>
        let drained ← drain
        match drained with
        | .ok 0 =>
            .perform (.clearReady tick)
            return .inl ()
        | .ok (count + 1) => return .inr (.ok (count + 1))
        | .error .wouldBlock =>
            .perform (.clearReady tick)
            return .inl ()
        | .error kind => return .inr (.error kind)

/-! The sink, `transport.rs`. -/

def sinkTryPush (capacity : Nat) (frame : OutboundFrame) :
    Program ChannelOp (Except OutboundFrame Unit) := do
  let pushed ← ringTryPush capacity [frame.header, frame.payload]
  match pushed with
  | .ok _ =>
      let notified ← notify
      match notified with
      | .ok _ => return .ok ()
      | .error kind =>
          .perform (.trace (.notifyFailed kind))
          return .ok ()
  | .error _ => return .error frame

def sinkClose : Program ChannelOp Unit := do
  ringClose
  let _ ← notify

/-! The reader, `consumer/shm.rs`. -/

/-- One popped frame: decode it and queue the update it carries. -/
def handleFrame (codecs : Codecs) (bytes : Bytes) : Program ChannelOp Unit :=
  match decodeServerFrameOwnedWithMeta codecs bytes with
  | .ok (.accountUpdate update _) => .perform (.forcePush (.account update))
  | .ok (.transactionUpdate update _) => .perform (.forcePush (.transaction update))
  | .ok (.slotUpdate update _) => .perform (.forcePush (.slot update))
  | .ok other => .perform (.trace (.nonUpdateFrame other))
  | .error (.error error) => .perform (.trace (.decodeFailed error))
  | .error .panic => .perform .panicked

def drainRing (codecs : Codecs) : Program ChannelOp Unit :=
  .iterate () fun _ => do
    let popped ← tryPop
    match popped with
    | some bytes =>
        handleFrame codecs bytes
        return .inl ()
    | none => return .inr ()

/-- One turn of the reader's outer loop; `inr` is a return. -/
def readTurn (codecs : Codecs) : Program ChannelOp (Sum Unit Unit) := do
  drainRing codecs
  let closed ← isClosed
  if closed then
    .perform (.note (.readerReturned true))
    return .inr ()
  else
    let waited ← wait
    match waited with
    | .error kind =>
        .perform (.trace (.waitFailed kind))
        .perform (.note (.readerReturned false))
        return .inr ()
    | .ok _ => return .inl ()

def runReader (codecs : Codecs) : Program ChannelOp Unit := do
  let registered ← .perform .registerEventfd
  match registered with
  | .error kind =>
      .perform (.trace (.asyncSetupFailed kind))
      .perform (.note (.readerReturned false))
  | .ok _ => .iterate () fun _ => readTurn codecs

/-! What the operations do. -/

/-- Where the reader stands: it checks after a pop that found the ring empty, and
waits once it has seen the ring file still there. -/
inductive ReaderPhase
  | busy
  | checking
  | waiting
  | returned
  deriving DecidableEq, Repr

/-- The ring's bytes and counters; from `writes` on, the history of the run. -/
structure Channel (Task : Type) where
  capacity : Nat
  queue : Bytes
  droppedFrames : UInt64
  closed : Bool
  counter : Nat
  ready : Bool
  tick : Nat
  edge : Bool
  queues : Kind → List Update
  -- The ring file has not been removed.
  linked : Bool
  -- Accepted writes, oldest first.
  writes : List (Task × Bytes)
  -- Bytes read so far.
  taken : Bytes
  -- Tasks that have written and not yet notified.
  owing : List Task
  -- Accepted writes of calls that have not returned.
  unreported : List (Task × Bytes)
  -- `ShmFull` results returned so far.
  fullReturned : Nat
  -- Tasks that have counted a dropped frame and not yet returned.
  fullPending : List Task
  -- Frames `try_pop` has returned.
  popped : List Bytes
  -- Updates the reader has queued.
  enqueued : List Update
  -- Updates the client has taken from its queues.
  received : List Update
  phase : ReaderPhase
  -- How many writes had been accepted when `close` was first called.
  closeMark : Option Nat
  -- The reader returned because `is_closed` was true.
  stopped : Bool

def Channel.created (Task : Type) (capacity : Nat) : Channel Task where
  capacity := capacity
  queue := []
  droppedFrames := 0
  closed := false
  counter := 0
  ready := false
  tick := 0
  edge := false
  queues := fun _ => []
  linked := true
  writes := []
  taken := []
  owing := []
  unreported := []
  fullReturned := 0
  fullPending := []
  popped := []
  enqueued := []
  received := []
  phase := .busy
  closeMark := none
  stopped := false

/-- What the environment decides about one operation. -/
structure ChannelChoice where
  -- `shaq` may refuse a write although it would fit.
  admitted : Bool := true
  interrupted : Bool := false
  -- The path may name a newer file once the ring's own is gone.
  present : Bool := true
  failure : Option IoErrorKind := none

/-- `ArrayQueue::force_push`: a full queue loses its oldest element. -/
def forcePushOnto {α : Type} (capacity : Nat) (queue : List α) (value : α) : List α :=
  DropOldest.push capacity queue value

def isShmFull : Except QlasterError Unit → Bool
  | .error .shmFull => true
  | _ => false

namespace Channel

variable {Task : Type} [DecidableEq Task]

def markClose (channel : Channel Task) (bytes : Bytes) : Channel Task :=
  if bytes = sentinelBytes then
    { channel with closeMark := some (channel.closeMark.getD channel.writes.length) }
  else channel

def append (channel : Channel Task) (task : Task) (bytes : Bytes) : Channel Task :=
  { channel with
    queue := channel.queue ++ bytes
    writes := channel.writes ++ [(task, bytes)]
    owing := task :: channel.owing
    unreported := channel.unreported ++ [(task, bytes)] }

def report (channel : Channel Task) (task : Task) : Channel Task :=
  { channel with unreported := channel.unreported.filter fun write => write.1 ≠ task }

def record (channel : Channel Task) (task : Task) : ChannelNote → Channel Task
  | .pushReturned _ result =>
      if isShmFull result then
        { channel.report task with
          fullReturned := channel.fullReturned + 1
          fullPending := channel.fullPending.erase task }
      else channel.report task
  | .closeReturned => channel.report task
  | .popReturned (some body) => { channel with popped := channel.popped ++ [body] }
  | .popReturned none => channel
  | .readerReturned closed =>
      { channel with phase := .returned, stopped := channel.stopped || closed }

def sawPath (channel : Channel Task) : Channel Task :=
  { channel with phase := if channel.phase = .checking then .waiting else channel.phase }

def exec (choice : ChannelChoice) (task : Task) :
    {β : Type} → ChannelOp β → Channel Task → Option (β × Channel Task)
  | _, .tryWriteSlice bytes, channel =>
      if choice.admitted && channel.queue.length + bytes.length ≤ channel.capacity then
        some (true, (channel.markClose bytes).append task bytes)
      else some (false, channel.markClose bytes)
  | _, .fetchAddDropped, channel =>
      some ((), { channel with
        droppedFrames := channel.droppedFrames + 1
        fullPending := task :: channel.fullPending })
  | _, .reserveReadBatch len, channel =>
      if channel.queue = [] then some (none, { channel with phase := .checking })
      else
        let batch := channel.queue.take len
        some (some batch, { channel with
          queue := channel.queue.drop len
          taken := channel.taken ++ batch
          phase := .busy })
  | _, .storeClosed, channel => some ((), { channel with closed := true })
  | _, .loadClosed, channel => some (channel.closed, channel)
  | _, .pathExists, channel =>
      if choice.present then some (true, channel.sawPath)
      else if channel.linked then none
      else some (false, channel)
  | _, .unlink, channel => some ((), { channel with linked := false })
  | _, .writeEventfd, channel =>
      if choice.interrupted then some (.interrupted, channel)
      else if eventfdMax ≤ channel.counter then
        some (.wouldBlock, { channel with owing := channel.owing.filter (· ≠ task) })
      else
        some (.done (), { channel with
          counter := channel.counter + 1
          edge := true
          owing := channel.owing.filter (· ≠ task) })
  | _, .readEventfd, channel =>
      if choice.interrupted then some (.interrupted, channel)
      else if channel.counter = 0 then some (.wouldBlock, channel)
      else some (.done channel.counter, { channel with counter := 0, phase := .busy })
  | _, .registerEventfd, channel =>
      match choice.failure with
      | some kind => some (.error kind, channel)
      | none => some (.ok (), { channel with ready := false, edge := decide (channel.counter ≠ 0) })
  | _, .readable, channel =>
      match choice.failure with
      | some kind => some (.error kind, channel)
      | none => if channel.ready then some (.ok channel.tick, channel) else none
  | _, .clearReady tick, channel =>
      if tick = channel.tick then some ((), { channel with ready := false })
      else some ((), channel)
  | _, .pollEvents, channel =>
      if channel.edge then
        some ((), { channel with ready := true, tick := channel.tick + 1, edge := false })
      else some ((), channel)
  | _, .forcePush update, channel =>
      let queue := forcePushOnto consumerUpdateQueueCapacity (channel.queues update.kind) update
      some ((), { channel with
        queues := Function.update channel.queues update.kind queue
        enqueued := channel.enqueued ++ [update] })
  | _, .pop kind, channel =>
      match channel.queues kind with
      | [] => some (none, channel)
      | update :: rest =>
          some (some update, { channel with
            queues := Function.update channel.queues kind rest
            received := channel.received ++ [update] })
  | _, .trace _, channel => some ((), channel)
  | _, .panicked, _ => none
  | _, .note note, channel => some ((), channel.record task note)

end Channel

end Qlaster
