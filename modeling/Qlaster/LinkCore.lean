import Qlaster.HandshakeCore

/-!
The control sockets: `wire.rs`, `handle_uds_connection` of `sender/shm.rs` and the calls of
`consumer/shm.rs`. Every consumer has a socket of its own, served by a handler of its own.
-/

namespace Qlaster

open Interleaving LittleEndian PrefixCode

def maxFrameSize : Nat := 16 * 1024 * 1024

inductive Side
  | client
  | server
  deriving DecidableEq, Repr

/-- `QlasterShmConsumer`: the token it stores, and what its reader opened. -/
structure ShmConsumer where
  slotTokenIndex : UInt8
  slotTokenGeneration : UInt64
  ring : OpenedRing
  deriving DecidableEq, Repr

def ShmConsumer.new (ring : OpenedRing) : ShmConsumer :=
  ⟨ring.slotToken.slotIndex, ring.slotToken.generation, ring⟩

structure Answer where
  request : SubscriptionRequest
  provision : ShmSlotProvision
  payload : Bytes

/-- Marks in the history of a socket; they change nothing else. -/
inductive LinkNote
  | sending (payload : Bytes)
  | announcing (eventfd : Nat)
  | answering (answer : Answer)
  | exchanged (request : SubscriptionRequest) (reply : Bytes)
  | confirmed (request : SubscriptionRequest)

inductive LinkOp : Type → Type
  | connect : LinkOp (Except String Unit)
  | accept : LinkOp Unit
  | readExact (side : Side) (count : Nat) : LinkOp (Except IoErrorKind Bytes)
  | writeAll (side : Side) (bytes : Bytes) : LinkOp (Except IoErrorKind Unit)
  | sendmsg (message : Bytes) (fd : Nat) : LinkOp (Except String Unit)
  | recvmsg : LinkOp (Except String (Bytes × Option Nat))
  -- `ShmRingConsumer::open` opens the file and joins the queue in it.
  | openRing (path : Path) : LinkOp (Except String Unit)
  -- The eventfd is the one that came with the path.
  | joinRing (path : Path) (eventfd : Option Nat) : LinkOp (Except String Unit)
  | drop (side : Side) : LinkOp Unit
  | install (consumer : ShmConsumer) : LinkOp Unit
  | loadSlotTokenIndex : LinkOp UInt8
  | loadSlotTokenGeneration : LinkOp UInt64
  | storeSlotTokenIndex (index : UInt8) : LinkOp Unit
  | storeSlotTokenGeneration (generation : UInt64) : LinkOp Unit
  | panicked : LinkOp Empty
  -- From now on the system calls of that side fail.
  | fail (side : Side) : LinkOp Unit
  | note (note : LinkNote) : LinkOp Unit

/-- The `?` operator. -/
def attempt {Op : Type → Type} {α β : Type} (first : Program Op (Except QlasterError α))
    (rest : α → Program Op (Except QlasterError β)) : Program Op (Except QlasterError β) :=
  first.bind fun result =>
    match result with
    | .ok value => rest value
    | .error error => .done (.error error)

def settle {α : Type} (outcome : Outcome α) : Program LinkOp (Except QlasterError α) :=
  match outcome with
  | .ok value => return .ok value
  | .error (.error error) => return .error error
  | .error .panic => (Program.perform .panicked).bind Empty.elim

def call {ε α : Type} (op : LinkOp (Except ε α)) (convert : ε → QlasterError) :
    Program LinkOp (Except QlasterError α) :=
  (Program.perform op).bind fun result => .done (result.mapError convert)

/-! `wire.rs`. -/

def readFramed (side : Side) : Program LinkOp (Except QlasterError Bytes) :=
  attempt (call (.readExact side 4) .io) fun len =>
    let size := (u32FromLeBytes len).toNat
    if maxFrameSize < size then .done (.error (.frameTooLarge size))
    else call (.readExact side size) .io

def frameHeader (payload : Bytes) : Bytes := u32ToLeBytes (UInt32.ofNat payload.length)

def writeFramed (side : Side) (payload : Bytes) (begun : LinkNote) :
    Program LinkOp (Except QlasterError Unit) :=
  if 2 ^ 32 ≤ payload.length then .done (.error (.frameTooLarge payload.length))
  else do
    .perform (.note begun)
    attempt (call (.writeAll side (frameHeader payload)) .io) fun _ =>
      call (.writeAll side payload) .io

/-! `consumer/shm.rs`. -/

/-- The process: the sender's parameters, and both libraries it shares with its consumers. -/
structure Control where
  sender : Sender
  wincode : WincodeFormat
  same : sender.codecs.wincode = wincode.toWincode

def Control.toStringLossy (control : Control) : Path → String := control.sender.toStringLossy

variable (control : Control)

def bootstrap : SubscriptionRequest := .new [] []

/-- The part of `setup_shm_consumer_with_metrics` that holds the stream. -/
def shakeHands : Program LinkOp (Except QlasterError ShmConsumer) :=
  attempt (settle (bootstrap.encode control.wincode)) fun encoded =>
  attempt (writeFramed .client encoded (.sending encoded)) fun _ =>
  attempt (call .recvmsg fun text => .udsError s!"recvmsg: {text}") fun received =>
  attempt (settle (adoptRing control.sender.codecs received.1 received.2)) fun opened =>
  attempt (call (.openRing opened.ringPath) fun text =>
    .shmError s!"open {control.toStringLossy opened.ringPath}: {text}") fun _ =>
  attempt (call (.joinRing opened.ringPath received.2) fun text => .shmError s!"shaq join: {text}")
    fun _ =>
  .done (.ok (.new opened))

def setupShmConsumer : Program LinkOp (Except QlasterError Unit) :=
  attempt (call .connect fun text => .udsError s!"connect: {text}") fun _ =>
    (shakeHands control).bind fun result =>
      match result with
      | .ok consumer => do
          .perform (.install consumer)
          return .ok ()
      | .error error => do
          .perform (.drop .client)
          return .error error

def ShmConsumer.slotToken : Program LinkOp (Option SlotToken) := do
  let index ← .perform .loadSlotTokenIndex
  if index = unsetSlotIndex then return none
  else
    let generation ← .perform .loadSlotTokenGeneration
    return some ⟨index, generation⟩

def sendSubscription (request : SubscriptionRequest) : Program LinkOp (Except QlasterError Unit) :=
  attempt (settle (request.encode control.wincode)) fun encoded =>
  attempt (writeFramed .client encoded (.sending encoded)) fun _ =>
  attempt (readFramed .client) fun reply => do
    .perform (.note (.exchanged request reply))
    attempt (settle (decodeServerFrameOwned control.sender.codecs reply)) fun frame =>
      match frame with
      | .connectionReady ready => do
          .perform (.storeSlotTokenIndex ready.slotToken.slotIndex)
          .perform (.storeSlotTokenGeneration ready.slotToken.generation)
          .perform (.note (.confirmed request))
          return .ok ()
      | .connectionReadyShm _ =>
        return .error (.udsError "unexpected ConnectionReadyShm on re-subscribe")
      | .accountUpdate _ => return .error (.udsError "AccountUpdate on UDS control channel")
      | .transactionUpdate _ => return .error (.udsError "TransactionUpdate on UDS control channel")
      | .slotUpdate _ => return .error (.udsError "SlotUpdate on UDS control channel")

def subscribe (accountPubkeys accountOwners : List Pubkey) :
    Program LinkOp (Except QlasterError Unit) := do
  let token ← ShmConsumer.slotToken
  sendSubscription control
    ((SubscriptionRequest.new accountPubkeys accountOwners).withSlotToken token)

def subscribeTransactions : Program LinkOp (Except QlasterError Unit) := do
  let token ← ShmConsumer.slotToken
  sendSubscription control (SubscriptionRequest.transactions.withSlotToken token)

def sendPing : Program LinkOp (Except QlasterError Unit) := do
  let found ← ShmConsumer.slotToken
  match found with
  | none => return .error (.malformedPayload "cannot send ping before slot token is assigned")
  | some token =>
      attempt (settle ((PingRequest.mk token).encode control.wincode)) fun encoded =>
        writeFramed .client encoded (.sending encoded)

/-! `handle_uds_connection`. -/

inductive ControlOp (β : Type) : Type
  | sender (op : SenderOp β)
  | link (connection : Nat) (op : LinkOp β)

def onSender {α : Type} (program : Program SenderOp α) : Program ControlOp α :=
  program.lift fun op => .sender op

def onLink {α : Type} (connection : Nat) (program : Program LinkOp α) : Program ControlOp α :=
  program.lift fun op => .link connection op

/-- The payload of the reply; `send_frame_with_fd` and `write_framed` put its length in front. -/
def replyPayload : ShmSlotProvision → Outcome Bytes
  | .existing slotToken => (ConnectionReady.mk slotToken).encode control.wincode
  | .created slotToken ringPath ringCapacity _ =>
      (ConnectionReadyShm.mk slotToken (control.toStringLossy ringPath)
        (UInt64.ofNat ringCapacity)).encode control.wincode

def sendReply (request : SubscriptionRequest) (provision : ShmSlotProvision) :
    Program LinkOp (Except QlasterError Unit) :=
  attempt (settle (replyPayload control provision)) fun encoded =>
    match provision with
    | .existing _ => writeFramed .server encoded (.answering ⟨request, provision, encoded⟩)
    | .created _ _ _ eventfd =>
        attempt (settle (sendFrameWithFd encoded)) fun message => do
          .perform (.note (.answering ⟨request, provision, encoded⟩))
          call (.sendmsg message eventfd) fun text => .udsError s!"sendmsg: {text}"

def createdEventfd : Except QlasterError ShmSlotProvision → Option Nat
  | .ok (.created _ _ _ eventfd) => some eventfd
  | _ => none

def noteCreated (connection : Nat) (result : Except QlasterError ShmSlotProvision) :
    Program ControlOp Unit :=
  match createdEventfd result with
  | some eventfd => onLink connection (.perform (.note (.announcing eventfd)))
  | none => return ()

/-- One turn of the loop; `inr` leaves it. -/
def handleFrameOf (connection : Nat) : Program ControlOp (Sum Unit (Except QlasterError Unit)) := do
  let read ← onLink connection (readFramed .server)
  match read with
  | .error (.io .unexpectedEof) => return .inr (.ok ())
  | .error error => return .inr (.error error)
  | .ok payload =>
      let decoded ← onLink connection (settle (decodeClientFrame control.wincode payload))
      match decoded with
      | .error error => return .inr (.error error)
      | .ok (.subscription request) =>
          let result ← onSender (upsertShm control.sender request)
          noteCreated connection result
          onSender (ask (.note (.provisioned result)))
          match result with
          | .error error => return .inr (.error error)
          | .ok provision =>
              let sent ← onLink connection (sendReply control request provision)
              match sent with
              | .error error => return .inr (.error error)
              | .ok _ => return .inl ()
      | .ok (.ping ping) =>
          let _ ← onSender (touchPing ping)
          return .inl ()

def handleUdsConnection (connection : Nat) : Program ControlOp (Except QlasterError Unit) := do
  let result ← .iterate () fun _ => handleFrameOf control connection
  onLink connection (.perform (.drop .server))
  return result

/-! The tasks. -/

/-- The tasks of the sender, the consumers' control tasks, and whatever makes sockets fail. -/
inductive ControlTask
  | sender (task : SenderTask)
  | consumer (connection : Nat)
  | network (connection : Nat)
  deriving DecidableEq, Repr

inductive ControlCall
  | sender (call : SenderCall)
  | serve (connection : Nat)
  | setup (connection : Nat)
  | subscribe (connection : Nat) (accountPubkeys accountOwners : List Pubkey)
  | subscribeTransactions (connection : Nat)
  | sendPing (connection : Nat)
  | fail (connection : Nat) (side : Side)

def controlProgram : ControlCall → Program ControlOp Unit
  | .sender call => onSender (senderProgram control.sender call)
  | .serve connection => do
      onLink connection (.perform .accept)
      let _ ← handleUdsConnection control connection
  | .setup connection => do
      let _ ← onLink connection (setupShmConsumer control)
  | .subscribe connection accountPubkeys accountOwners => do
      let _ ← onLink connection (subscribe control accountPubkeys accountOwners)
  | .subscribeTransactions connection => do
      let _ ← onLink connection (subscribeTransactions control)
  | .sendPing connection => do
      let _ ← onLink connection (sendPing control)
  | .fail connection side => onLink connection (.perform (.fail side))

/-- With `outsiders`, handlers also serve clients of which nothing is known. -/
def controlMayStart (outsiders : Bool) : ControlTask → ControlCall → Bool
  | .sender (.handler connection), .sender call =>
    outsiders && senderMayStart (.handler connection) call
  | .sender task, .sender call => senderMayStart task call
  | .sender (.handler connection), .serve connection' => decide (connection = connection')
  | .consumer connection, .setup connection' => decide (connection = connection')
  | .consumer connection, .subscribe connection' _ _ => decide (connection = connection')
  | .consumer connection, .subscribeTransactions connection' => decide (connection = connection')
  | .consumer connection, .sendPing connection' => decide (connection = connection')
  | .network connection, .fail connection' _ => decide (connection = connection')
  | _, _ => false

/-! What the operations do. -/

/-- One direction of a socket, with everything that was ever written to it. -/
structure Pipe where
  written : Bytes
  taken : Nat
  closed : Bool
  deriving DecidableEq

def Pipe.unread (pipe : Pipe) : Bytes := pipe.written.drop pipe.taken

inductive Health
  | sound
  | failing
  | failed
  deriving DecidableEq, Repr

/-- A socket and the consumer on it; from `sent` on, the history of the run. -/
structure Link where
  connected : Bool
  accepted : Bool
  requests : Pipe
  replies : Pipe
  -- The descriptor that came with the unread replies.
  attached : Option Nat
  health : Side → Health
  consumer : Option ShmConsumer
  -- Payloads the client has begun to write.
  sent : List Bytes
  answers : List Answer
  -- The requests of `send_subscription`, each with the reply it read.
  exchanges : List (SubscriptionRequest × Bytes)
  -- The requests for which `send_subscription` has stored the token of the reply.
  confirmed : List SubscriptionRequest
  -- The connections made for this socket.
  announced : List Nat
  -- The system refused to open or to map the file of a ring.
  refused : Bool

def Link.unused : Link where
  connected := false
  accepted := false
  requests := ⟨[], 0, false⟩
  replies := ⟨[], 0, false⟩
  attached := none
  health := fun _ => .sound
  consumer := none
  sent := []
  answers := []
  exchanges := []
  confirmed := []
  announced := []
  refused := false

structure ControlChoice extends SenderChoice where
  -- How much of the bytes of a failing write is written.
  written : Nat := 0

/-- What `sendmsg_with_fd` says when only a part of the message was taken, or nothing. -/
def sendmsgText (message : Bytes) (written : Nat) : String :=
  if 0 < written ∧
    written < message.length then s!"partial sendmsg: {written} of {message.length} bytes"
  else "Input/output error (os error 5)"

namespace Link

def incoming (link : Link) : Side → Pipe
  | .client => link.replies
  | .server => link.requests

def take (link : Link) (side : Side) (count : Nat) : Link :=
  match side with
  | .client =>
      { link with
        replies := { link.replies with taken := link.replies.taken + count }
        attached := if count = 0 then link.attached else none }
  | .server => { link with requests := { link.requests with taken := link.requests.taken + count } }

def put (link : Link) (side : Side) (bytes : Bytes) : Link :=
  match side with
  | .client =>
    { link with requests := { link.requests with written := link.requests.written ++ bytes } }
  | .server =>
    { link with replies := { link.replies with written := link.replies.written ++ bytes } }

def hangUp (link : Link) : Side → Link
  | .client => { link with requests := { link.requests with closed := true } }
  | .server => { link with replies := { link.replies with closed := true } }

def ail (link : Link) (side : Side) (health : Health) : Link :=
  { link with health := Function.update link.health side health }

/-- A write that gets an error: the first one may have written something. -/
def spoil (link : Link) (side : Side) (bytes : Bytes) (count : Nat) : Link :=
  if link.health side = .failing then (link.put side (bytes.take count)).ail side .failed else link

def record (link : Link) : LinkNote → Link
  | .sending payload => { link with sent := link.sent ++ [payload] }
  | .announcing eventfd => { link with announced := link.announced ++ [eventfd] }
  | .answering answer => { link with answers := link.answers ++ [answer] }
  | .exchanged request reply => { link with exchanges := link.exchanges ++ [(request, reply)] }
  | .confirmed request => { link with confirmed := link.confirmed ++ [request] }

def onFile (link : Link) (choice : ControlChoice) (granted : Except String Unit) :
    Except String Unit × Link :=
  match choice.refused with
  | some text => (.error text, { link with refused := true })
  | none => (granted, link)

/-- A `read_exact` waits for its bytes, `recvmsg` for a message; both see the end of the stream. -/
def exec (choice : ControlChoice) (files : List Path) : {β : Type} → LinkOp β → Link →
    Option (β × Link)
  | _, .connect, link =>
      if link.connected then none
      else
        match choice.refused with
        | some text => some (.error text, link)
        | none => some (.ok (), { link with connected := true })
  | _, .accept, link =>
      if link.connected && !link.accepted then some ((), { link with accepted := true }) else none
  | _, .readExact side count, link =>
      if link.health side ≠ .sound then some (.error .other, link)
      else if count ≤ (link.incoming side).unread.length then
        some (.ok ((link.incoming side).unread.take count), link.take side count)
      else if (link.incoming side).closed then some (.error .unexpectedEof, link)
      else none
  | _, .writeAll side bytes, link =>
      if (link.incoming side).closed then some (.error .other, link)
      else if link.health side ≠ .sound then some
        (.error .other, link.spoil side bytes choice.written)
      else some (.ok (), link.put side bytes)
  | _, .sendmsg message fd, link =>
      if link.requests.closed then some (.error "Broken pipe (os error 32)", link)
      else if link.health .server ≠ .sound then
        some (.error (sendmsgText message choice.written),
          { link.spoil .server message choice.written with attached := some fd })
      else some (.ok (), { link.put .server message with attached := some fd })
  | _, .recvmsg, link =>
      if link.health .client ≠ .sound then some (.error "Input/output error (os error 5)", link)
      else if link.replies.unread ≠ [] then
        let received := link.replies.unread.take ancillaryRecvBuf
        some (.ok (received, link.attached), link.take .client received.length)
      else if link.replies.closed then some (.ok ([], none), link)
      else none
  | _, .openRing path, link => some (link.onFile choice
      (if path ∈ files then .ok () else .error "No such file or directory (os error 2)"))
  | _, .joinRing _ _, link => some (link.onFile choice (.ok ()))
  | _, .drop side, link => some ((), link.hangUp side)
  | _, .install consumer, link => some ((), { link with consumer := some consumer })
  | _, .loadSlotTokenIndex, link =>
    link.consumer.map fun consumer => (consumer.slotTokenIndex, link)
  | _, .loadSlotTokenGeneration, link =>
    link.consumer.map fun consumer => (consumer.slotTokenGeneration, link)
  | _, .storeSlotTokenIndex index, link => link.consumer.map fun consumer =>
      ((), { link with consumer := some { consumer with slotTokenIndex := index } })
  | _, .storeSlotTokenGeneration generation, link => link.consumer.map fun consumer =>
      ((), { link with consumer := some { consumer with slotTokenGeneration := generation } })
  | _, .panicked, _ => none
  | _, .fail side, link =>
      some ((), if link.health side = .sound then link.ail side .failing else link)
  | _, .note note, link => some ((), link.record note)

end Link

structure ControlState where
  sender : SenderState
  links : Nat → Link
  -- Rings that a setup has opened, under the path it was told.
  adopted : List Nat

/-- The ring a setup has opened, if the path it was told is that of the ring the eventfd belongs to.
-/
def ControlState.adopts (state : ControlState) :
    {β : Type} → LinkOp β → β → List Nat
  | _, .joinRing path (some eventfd), .ok _ =>
      if state.sender.paths eventfd = path then eventfd :: state.adopted else state.adopted
  | _, _, _ => state.adopted

def ControlState.exec (choice : ControlChoice) (task : ControlTask) :
    {β : Type} → ControlOp β → ControlState → Option (β × ControlState)
  | _, .sender op, state =>
      match task with
      | .sender task =>
          match state.sender.exec choice.toSenderChoice task op with
          | none => none
          | some (reply, sender) => some (reply, { state with sender := sender })
      | _ => none
  | _, .link connection op, state =>
      match (state.links connection).exec choice state.sender.files op with
      | none => none
      | some (reply, link) =>
          some (reply, { state with
            links := Function.update state.links connection link
            adopted := state.adopts op reply })

def controlSystem (outsiders : Bool) :
    System ControlOp ControlTask ControlState ControlChoice ControlCall where
  exec choice task _ op state := state.exec choice task op
  program := controlProgram control
  mayStart := controlMayStart outsiders

def controlStart (files : List Path) : Config ControlOp ControlTask ControlState where
  shared := ⟨SenderState.created files, fun _ => .unused, []⟩
  pool := fun _ => .done ()

end Qlaster
