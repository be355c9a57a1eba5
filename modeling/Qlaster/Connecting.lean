import Qlaster.Adoption
import Qlaster.Routine
import Qlaster.Session

/-!
From a socket nobody has used to a consumer with its ring and a handler that waits for it, by steps of
the two tasks at its ends.
-/

namespace Qlaster

open Interleaving Interleaving.System LittleEndian PrefixCode

/-! `upsert_shm` makes a connection when no system call is refused. -/

def newProvision (sender : Sender) (index : SlotIndex) (connectionId : UInt64) (eventfd : Nat) :
    ShmSlotProvision :=
  .created ⟨UInt8.ofNat index.val, connectionId⟩ (sender.ringPath index connectionId)
    sender.ringCapacity eventfd

theorem exec_opened {choice : SenderChoice} {task : SenderTask} {β : Type} {op : SenderOp β}
    {before after : SenderState} {reply : β} (internal : Internal op)
    (executed : before.exec choice task op = some (reply, after)) :
    after.opened = before.opened := by
  cases op with
  | channel target op =>
      obtain ⟨-, channel, ran, rfl⟩ := SenderState.execChannel_ring executed
      rfl
  | manager op =>
      simp only [SenderState.exec] at executed
      cases op with
      | openRing address => exact internal.elim
      | compareAndSwap index current new =>
          simp only [SenderState.execManager] at executed
          split at executed <;> simp only [Option.some.injEq, Prod.mk.injEq] at executed <;>
            obtain ⟨-, rfl⟩ := executed
          · cases new <;> rfl
          · rfl
      | note note =>
          simp only [SenderState.execManager, Option.some.injEq, Prod.mk.injEq] at executed
          obtain ⟨-, rfl⟩ := executed
          cases note with
          | provisioned result => rcases result with _ | ⟨_ | _⟩ <;> rfl
          | _ => rfl
      | _ =>
          simp only [SenderState.execManager] at executed
          repeat' split at executed
          all_goals simp only [reduceCtorEq, Option.some.injEq, Prod.mk.injEq] at executed
          all_goals obtain ⟨-, rfl⟩ := executed
          all_goals rfl

section
variable {sender : Sender} {task : SenderTask} {choices : Nat → SenderChoice} {tick bound : Nat}
  {state : SenderState} (unrefused : ∀ n, (choices n).refused = none)
include unrefused

theorem createRing_ok {display : Path → String} {path : Path} {capacity : Nat}
    (large : 64 ≤ capacity) (small : capacity ≤ 2 ^ 63) (absent : path ∉ state.files) :
    (senderSystem sender).Alone task choices (createRing display path capacity) tick state
      fun created _ _ => ∃ ring, created = .ok ring := by
  have parent : state.execManager (choices tick) task .createDirAll = some (.ok (), state) := by
    simp only [SenderState.execManager, unrefused]
  have file : state.execManager (choices (tick + 1)) task (.createNew path) = some
    (.ok (), { state with
      files := path :: state.files
      creating := Function.update state.creating task (some path) }) := by
    simp only [SenderState.execManager, unrefused, absent, if_false]
  unfold createRing
  rw [if_neg (by omega)]
  refine ask_then parent (ask_then file ?_)
  dsimp only
  rw [if_neg (by omega)]
  generalize ({ state with
    files := path :: state.files
    creating := Function.update state.creating task (some path) } : SenderState) = filed
  obtain ⟨address, queued, queue⟩ :
    ∃ address queued, filed.execManager (choices (tick + 1 + 1)) task
      (.createQueue path (Nat.nextPowerOfTwo capacity)) = some (.ok address, queued) := by
    simp only [SenderState.execManager, unrefused]
    exact ⟨_, _, rfl⟩
  exact ask_then queue (.done ⟨_, rfl⟩)

theorem installTurn_ok (settled : ∀ n, bound ≤ n → (choices n).interrupted = false) {now : UInt64}
    (constant : ∀ n, (choices n).now = now) (large : 64 ≤ sender.ringCapacity)
    (small : sender.ringCapacity ≤ 2 ^ 63)
    (registered : Registered state.process) {connectionId : UInt64}
    (absent : ∀ index, sender.ringPath index connectionId ∉ state.files)
    (free : ∃ index, state.process.Free now index) (filter : Nat) :
    (senderSystem sender).Alone task choices (installTurn sender filter connectionId) tick state
      fun outcome _ _ => ∃ index eventfd,
        outcome = .inr (.ok (newProvision sender index connectionId eventfd)) := by
  refine Alone.bind (findFreeSlotIn_alone settled constant registered _ rfl) ?_
  intro found _ searched holds
  cases found with
  | none =>
      obtain ⟨index, empty⟩ := free
      exact absurd empty (holds.2 index (List.mem_finRange index))
  | some index =>
      obtain ⟨-, -, empty, purged⟩ := holds
      have unfiled : sender.ringPath index connectionId ∉ searched.files :=
        fun there => absent index (purged.files _ there)
      refine Alone.bind
        ((createRing_alone small).both (createRing_ok unrefused large small unfiled)) ?_
      rintro _ later ringed ⟨made, ring, rfl⟩
      obtain ⟨-, -, made⟩ := made
      have still : ringed.connections index = none :=
        (congrArg (fun process => process.connections index) made).trans empty
      have eventfd : ringed.execManager (choices later) task .eventfdNew = some
          (.ok (), ringed) := by
        simp only [SenderState.execManager, unrefused]
      refine ask_then eventfd (ask_then rfl (ask_then rfl (swapIn_then still fun swapped _ => ?_)))
      refine Alone.bind (dropArc_frame _) fun _ _ _ _ => Alone.bind (dropArc_frame _) fun _ _ _ _ =>
        ?_
      exact .done ⟨index, _, rfl⟩

theorem upsertShm_ok (settled : ∀ n, bound ≤ n → (choices n).interrupted = false) {now : UInt64}
    (constant : ∀ n, (choices n).now = now) (large : 64 ≤ sender.ringCapacity)
    (small : sender.ringCapacity ≤ 2 ^ 63) (registered : Registered state.process)
    (absent : ∀ index, sender.ringPath index state.nextConnectionId ∉ state.files)
    (free : ∃ index, state.process.Free now index) {request : SubscriptionRequest}
    (new : request.slotToken = none) :
    (senderSystem sender).Alone task choices (upsertShm sender request) tick state
      fun result _ after =>
      (∃ index eventfd, result = .ok (newProvision sender index state.nextConnectionId eventfd) ∧
        after.channels eventfd = Channel.created SenderTask
          (Nat.nextPowerOfTwo sender.ringCapacity)) ∧
      after.opened = state.opened := by
  refine Alone.along ?_ ((upsertShm_handles sender request).pieces.only Pieces.internal) ?_ rfl
  · have none : existingFor request = .done none := by
      rw [existingFor, new]
      rfl
    unfold upsertShm
    rw [none]
    refine ask_then rfl (ask_then rfl (ask_then rfl (.loop ?_)))
    refine Alone.bind ((installTurn_ok unrefused settled constant large small ?_ ?_ ?_ _).both
      (installTurn_alone settled constant small ?_ rfl _ _)) ?_
    · exact registered.prepare _
    · exact absent
    · exact free
    · exact registered.prepare _
    · rintro _ _ after ⟨⟨index, eventfd, rfl⟩, result, same, installs⟩
      obtain rfl := Sum.inr.inj same
      obtain ⟨_, mid, -, -, -, -, -, -, -, rfl, made⟩ := installs
      refine .done ⟨index, mid.allocated, rfl, ?_⟩
      exact (congrArg (fun process => process.channels mid.allocated) made).trans
        (Function.update_self ..)
  · intro choice β op before reply after internal executed same
    have ran : before.exec choice task op = some (reply, after) := executed
    rw [exec_opened internal ran, same]

end

/-! The operations of a setup. -/

section
variable {control : Control} {outsiders : Bool} {connection : Nat} {choices : Nat → ControlChoice}
  {tick : Nat} {base state : ControlState} {talk : Talk}

section
variable (speaks : Speaks connection base talk state)
include speaks

theorem Speaks.connect (unrefused : (choices tick).refused = none) (new : talk.connected = false)
    {convert : String → QlasterError} :
    (controlSystem control outsiders).Alone (.consumer connection) choices
      (onLink connection (call .connect convert)) tick state fun result _ after => result = .ok () ∧
        Speaks connection base { talk with connected := true } after := by
  have apart : (state.links connection).connected = false :=
    (congrArg Talk.connected speaks.talk).trans new
  have executed : (state.links connection).exec (choices tick) state.sender.files .connect =
      some (.ok (), { state.links connection with connected := true }) := by
    simp [Link.exec, apart, unrefused]
  refine speaks.calls executed rfl ⟨speaks.intact.sound, speaks.intact.requests,
    speaks.intact.replies⟩ ?_
  rw [← speaks.talk]
  rfl

theorem Speaks.accept (connected : talk.connected = true) (new : talk.accepted = false) :
    (controlSystem control outsiders).Alone (.sender (.handler connection)) choices
      (onLink connection (.perform .accept))
      tick state fun _ _ after => Speaks connection base { talk with accepted := true } after := by
  have there : (state.links connection).connected = true :=
    (congrArg Talk.connected speaks.talk).trans connected
  have fresh : (state.links connection).accepted = false :=
    (congrArg Talk.accepted speaks.talk).trans new
  have executed : (state.links connection).exec (choices tick) state.sender.files .accept =
      some ((), { state.links connection with accepted := true }) := by
    simp [Link.exec, there, fresh]
  refine (speaks.perform executed rfl ⟨speaks.intact.sound, speaks.intact.requests,
    speaks.intact.replies⟩ ?_).mono fun _ _ _ spoken => spoken.2
  rw [← speaks.talk]
  rfl

theorem Speaks.sendmsg (message : Bytes) (fd : Nat) {convert : String → QlasterError} :
    (controlSystem control outsiders).Alone (.sender (.handler connection)) choices
      (onLink connection (call (.sendmsg message fd) convert)) tick state
      fun result _ after => result = .ok () ∧
        Speaks connection base { talk.put .server message with attached := some fd } after := by
  obtain ⟨intact, same⟩ := speaks.intact.put .server message
  have executed : (state.links connection).exec (choices tick) state.sender.files
    (.sendmsg message fd) =
      some (.ok (), { (state.links connection).put .server message with attached := some fd }) := by
    simp [Link.exec, speaks.intact.requests.unclosed, speaks.intact.sound]
  refine speaks.calls executed rfl ⟨intact.sound, intact.requests, intact.replies⟩ ?_
  rw [speaks.talk] at same
  rw [← same]
  rfl

theorem Speaks.recvmsg (some : talk.answered ≠ []) (fits : talk.answered.length ≤ ancillaryRecvBuf)
    {convert : String → QlasterError} :
    (controlSystem control outsiders).Alone (.consumer connection) choices
      (onLink connection (call .recvmsg convert)) tick
      state fun result _ after => result = .ok (talk.answered, talk.attached) ∧
        Speaks connection base { talk with answered := [], attached := none } after := by
  have unread : (state.links connection).replies.unread = talk.answered :=
    congrArg Talk.answered speaks.talk
  have attached : (state.links connection).attached = talk.attached :=
    congrArg Talk.attached speaks.talk
  have enough : talk.answered.length ≤ ((state.links connection).incoming .client).unread.length :=
    (congrArg List.length unread).ge
  obtain ⟨intact, same⟩ := speaks.intact.take .client enough
  have executed : (state.links connection).exec (choices tick) state.sender.files .recvmsg =
      Option.some
        (.ok (talk.answered, talk.attached), (state.links connection).take .client
        talk.answered.length) := by
    simp [Link.exec, speaks.intact.sound, unread, attached, some, List.take_of_length_le fits]
  refine speaks.calls executed rfl intact ?_
  rw [same, speaks.talk]
  simp [Talk.take, some]

theorem Speaks.openRing (granted : (choices tick).refused = none) {path : Path}
    (there : path ∈ state.sender.files) {convert : String → QlasterError} :
    (controlSystem control outsiders).Alone (.consumer connection) choices
      (onLink connection (call (.openRing path) convert)) tick state
      fun result _ after => result = .ok () ∧ Speaks connection base talk after := by
  have executed : (state.links connection).exec (choices tick) state.sender.files (.openRing path) =
      some (.ok (), state.links connection) := by
    simp only [Link.exec, Link.onFile, granted, there, if_true]
  exact speaks.calls executed rfl speaks.intact speaks.talk

theorem Speaks.joinRing (granted : (choices tick).refused = none) {path : Path} {eventfd : Nat}
    (own : state.sender.paths eventfd = path) {convert : String → QlasterError} :
    (controlSystem control outsiders).Alone (.consumer connection) choices
      (onLink connection (call (.joinRing path (some eventfd)) convert)) tick state
      fun result _ after => result = .ok () ∧
        Speaks connection { base with adopted := eventfd :: base.adopted } talk after := by
  have executed : (state.links connection).exec (choices tick) state.sender.files
    (.joinRing path (some eventfd)) =
      some (.ok (), state.links connection) := by
    simp only [Link.exec, Link.onFile, granted]
  have adopts : state.adopts (.joinRing path (some eventfd)) (.ok ()) = eventfd ::
      base.adopted := by
    simp only [ControlState.adopts, own, if_true, speaks.adopted]
  rw [call, onLink_bind]
  refine (speaks.executes executed adopts speaks.intact speaks.talk).bind ?_
  rintro _ _ _ ⟨rfl, opened⟩
  exact .done ⟨rfl, opened⟩

theorem Speaks.install (consumer : ShmConsumer) :
    (controlSystem control outsiders).Alone (.consumer connection) choices
      (onLink connection (.perform (.install consumer))) tick state
      fun _ _ after => Speaks connection base { talk with consumer := some consumer } after := by
  have executed : (state.links connection).exec (choices tick) state.sender.files
    (.install consumer) =
      some ((), { state.links connection with consumer := some consumer }) := rfl
  refine (speaks.perform executed rfl ⟨speaks.intact.sound, speaks.intact.requests,
    speaks.intact.replies⟩ ?_).mono fun _ _ _ spoken => spoken.2
  rw [← speaks.talk]
  rfl

end

/-! The consumer. -/

def Adopts (control : Control) (outsiders : Bool) (connection : Nat) (choices : Nat → ControlChoice)
    (rest : Program ControlOp Unit) : Prop :=
  ∀ base tick state talk eventfd opened, Speaks connection base talk state → talk.answered ≠ [] →
    talk.answered.length ≤ ancillaryRecvBuf → talk.attached = some eventfd →
    adoptRing control.sender.codecs talk.answered talk.attached = .ok opened →
    opened.ringPath ∈ base.sender.files → base.sender.paths eventfd = opened.ringPath →
    (controlSystem control outsiders).Until (.consumer connection) choices
      (fun rest _ after => rest = .done () ∧
        Speaks connection { base with adopted := eventfd :: base.adopted }
        { talk with answered := [], attached := none, consumer := some (.new opened) } after)
          rest tick state

theorem setup_until {encoded : Bytes} (written : bootstrap.encode control.wincode = .ok encoded)
    (small : encoded.length < 2 ^ 32) (unrefused : ∀ n, (choices n).refused = none)
    (speaks : Speaks connection base talk state) (new : talk.connected = false)
    (empty : talk.asked = []) :
    (controlSystem control outsiders).Until (.consumer connection) choices
      (fun rest _ after =>
        Speaks connection base { talk with asked := frameBytes encoded, connected := true } after ∧
        Adopts control outsiders connection choices rest)
      (controlProgram control (.setup connection)) tick state := by
  refine attempt_until (speaks.connect (unrefused tick) new) fun _ _ spoken => ?_
  rw [onLink_bind, Program.bind_assoc]
  refine attempt_until (settle_alone written spoken) fun _ _ spoken => ?_
  refine attempt_until (writeFramed_alone small (fun _ => rfl) spoken) fun _ _ wrote => ?_
  refine .here ⟨?_, ?_⟩
  · simpa [Talk.put, empty] using wrote
  intro base tick state talk eventfd opened announced some fits attached adopted there own
  refine attempt_until (announced.recvmsg some fits) fun _ _ received => ?_
  refine attempt_until (settle_alone adopted received) fun _ _ received => ?_
  dsimp only
  rw [attached]
  refine attempt_until (received.openRing (unrefused _) ?_) fun _ _ received => ?_
  · rwa [received.sender]
  refine attempt_until (received.joinRing (unrefused _) ?_) fun _ _ opened => ?_
  · rwa [received.sender]
  change (controlSystem control outsiders).Until _ _ _
    ((onLink connection ((Program.perform (.install _)).bind _)).bind fun _ => .done ()) _ _
  refine linkFirst_until (opened.install _) fun _ _ _ installed => .here ⟨rfl, installed⟩

/-! The handler. -/

theorem newProvision_written (lawful : control.Lawful) (fits : control.Fits) (index : SlotIndex)
    (connectionId : UInt64) (eventfd : Nat) :
    ∃ payload, replyPayload control (newProvision control.sender index connectionId eventfd) =
      .ok payload ∧ payload.length < 2 ^ 32 := by
  let ready : ConnectionReadyShm := ⟨⟨UInt8.ofNat index.val, connectionId⟩,
    control.toStringLossy (control.sender.ringPath index connectionId),
      UInt64.ofNat control.sender.ringCapacity⟩
  have short : (utf8 ready.wire.ringPath).length ≤ 1024 := by
    have room := fits.reply index connectionId
    rw [ancillaryRecvBuf, ← ringPath_said lawful.keepsText fits.text] at room
    exact (Nat.le_add_left _ _).trans room
  have within : ready.wire.Within := short.trans (by decide)
  obtain ⟨payload, written⟩ := ready.encodes lawful.wincode within
  refine ⟨payload, written, ?_⟩
  rw [(lawful.shmSized _ _ (serializeWire_ok written)).2 (by omega)]
  omega

theorem sendCreated_alone {request : SubscriptionRequest} {token : SlotToken} {path : Path}
    {capacity eventfd : Nat} {payload : Bytes}
    (written : replyPayload control (.created token path capacity eventfd) = .ok payload)
    (short : payload.length < 2 ^ 32) (speaks : Speaks connection base talk state) :
    (controlSystem control outsiders).Alone (.sender (.handler connection)) choices
      (onLink connection (sendReply control request (.created token path capacity eventfd)))
        tick state
      fun result _ after => result = .ok () ∧
        Speaks connection base
          { talk.put .server (frameBytes payload) with attached := some eventfd } after := by
  refine attempt_alone (settle_alone written speaks) fun _ _ speaks => ?_
  refine attempt_alone (settle_alone (sendFrameWithFd_eq short) speaks) fun _ _ speaks => ?_
  rw [Program.bind_eq, onLink_bind]
  refine Alone.bind (speaks.note fun _ => rfl) fun _ _ _ noted => ?_
  exact noted.sendmsg (frameBytes payload) eventfd

structure HandedOut (sender : Sender) (address : Nat) (before after : SenderState) : Prop where
  fresh : after.channels address = Channel.created SenderTask
    (Nat.nextPowerOfTwo sender.ringCapacity)
  handed : address ∈ after.handedOut
  opened : after.opened = before.opened

section
variable {bound : Nat} (settled : ∀ n, bound ≤ n → (choices n).interrupted = false) {now : UInt64}
  (constant : ∀ n, (choices n).now = now) (unrefused : ∀ n, (choices n).refused = none)
  (registered : Registered base.sender.process)
include settled constant unrefused registered

theorem serveFirst_alone (lawful : control.Lawful) (fits : control.Fits)
    (large : 64 ≤ control.sender.ringCapacity) (small : control.sender.ringCapacity ≤ 2 ^ 63)
    (absent : ∀ index, control.sender.ringPath index base.sender.nextConnectionId ∉
      base.sender.files)
    (free : ∃ index, base.sender.process.Free now index) {encoded : Bytes}
    (decoded : decodeClientFrame control.wincode encoded = .ok (.subscription bootstrap))
    (short : encoded.length ≤ maxFrameSize) (speaks : Speaks connection base talk state)
    (asked : talk.asked = frameBytes encoded) (silent : talk.answered = []) :
    (controlSystem control outsiders).Alone (.sender (.handler connection)) choices
      (handleFrameOf control connection)
      tick state fun outcome _ after => outcome = .inl () ∧ ∃ index eventfd payload,
        replyPayload control
          (newProvision control.sender index base.sender.nextConnectionId eventfd) = .ok payload ∧
        payload.length < 2 ^ 32 ∧
        UpsertExact bootstrap now base.sender.process after.sender.process
          (.ok (newProvision control.sender index base.sender.nextConnectionId eventfd)) ∧
        HandedOut control.sender eventfd base.sender after.sender ∧
        Speaks connection { base with sender := after.sender }
          { talk with asked := [], answered := frameBytes payload, attached := some eventfd }
            after := by
  have waiting : talk.incoming .server = frameBytes encoded ++ [] := by
    rw [List.append_nil]
    exact asked
  refine Alone.bind (readFramed_alone short waiting speaks) ?_
  rintro _ _ _ ⟨rfl, heard⟩
  rw [take_frame asked] at heard
  refine Alone.bind (settle_alone decoded heard) ?_
  rintro _ _ read ⟨rfl, heard⟩
  rw [← heard.sender] at registered absent free ⊢
  refine Alone.bind
    (onSender_alone ((upsertShm_alone settled constant small registered bootstrap).both
    (upsertShm_ok unrefused settled constant large small registered absent free rfl)) heard) ?_
  rintro _ _ upserted ⟨⟨exact, ⟨index, eventfd, rfl, fresh⟩, unopened⟩, spoken⟩
  refine Alone.bind (spoken.note fun _ => rfl) fun _ _ announced spoken' => ?_
  refine Alone.bind (spoken'.provisioned _) ?_
  rintro _ _ marked ⟨same, noted⟩
  obtain ⟨payload, written, brief⟩ := newProvision_written lawful fits index
    read.sender.nextConnectionId eventfd
  refine Alone.bind (sendCreated_alone written brief noted) ?_
  rintro _ _ final ⟨rfl, replied⟩
  refine .done ⟨rfl, index, eventfd, payload, written, brief, ?_, ?_, ?_⟩
  · rw [replied.sender, same, provisioned_process, spoken'.sender]
    exact exact
  · rw [replied.sender, same, spoken'.sender]
    exact ⟨fresh, List.mem_cons_self .., unopened⟩
  · rw [Talk.put, silent] at replied
    exact replied.rebase rfl rfl

theorem serveFirst_until (lawful : control.Lawful) (fits : control.Fits)
    (large : 64 ≤ control.sender.ringCapacity) (small : control.sender.ringCapacity ≤ 2 ^ 63)
    (absent : ∀ index, control.sender.ringPath index base.sender.nextConnectionId ∉
      base.sender.files)
    (free : ∃ index, base.sender.process.Free now index) {encoded : Bytes}
    (decoded : decodeClientFrame control.wincode encoded = .ok (.subscription bootstrap))
    (short : encoded.length ≤ maxFrameSize) (speaks : Speaks connection base talk state)
    (connected : talk.connected = true)
    (new : talk.accepted = false) (asked : talk.asked = frameBytes encoded)
    (silent : talk.answered = []) :
    (controlSystem control outsiders).Until (.sender (.handler connection)) choices
      (fun rest _ after => rest = waitingHandler control connection ∧ ∃ index eventfd payload,
        replyPayload control
          (newProvision control.sender index base.sender.nextConnectionId eventfd) = .ok payload ∧
        payload.length < 2 ^ 32 ∧
        UpsertExact bootstrap now base.sender.process after.sender.process
          (.ok (newProvision control.sender index base.sender.nextConnectionId eventfd)) ∧
        HandedOut control.sender eventfd base.sender after.sender ∧
        Speaks connection { base with sender := after.sender } { talk with
          asked := []
          answered := frameBytes payload
          attached := some eventfd
          accepted := true } after)
      (controlProgram control (.serve connection)) tick state := by
  refine (speaks.accept connected new).until fun _ _ _ accepted => .loop ?_
  refine (serveFirst_alone settled constant unrefused registered lawful fits large small absent free
    decoded short accepted asked silent).until ?_
  rintro _ _ after ⟨rfl, found⟩
  exact .loop (.here ⟨rfl, found⟩)

end

end

/-! The whole setup. -/

/-- The consumer has the ring of a new connection in the lowest free slot, with the filter of the
first request; live connections have all they had, and no other socket has changed. -/
structure Admitted (control : Control) (outsiders : Bool) (connection : Nat)
    (entry : ManagedConnection) (now : UInt64) (choices : Nat → ControlChoice) (tick : Nat)
    (config : Config ControlOp ControlTask ControlState) (later : Nat)
    (final : Config ControlOp ControlTask ControlState) : Prop where
  leads : (controlSystem control outsiders).Leads (parties connection) choices tick
    config later final
  attended : Attended control connection entry now final
  new : config.shared.sender.allocated ≤ entry.address
  numbered : entry.connectionId = config.shared.sender.nextConnectionId
  free : config.shared.sender.process.Free now entry.slotIndex
  lowest : ∀ lower < entry.slotIndex, ¬ config.shared.sender.process.Free now lower
  adopted : entry.address ∈ final.shared.adopted
  filter : ∃ filter, final.shared.sender.filters[entry.filter]? = some filter ∧
    filter.Holds [bootstrap]
  confirmed : (final.shared.links connection).confirmed = []
  slots : ∀ other ≠ entry.slotIndex, ∀ found, final.shared.sender.connections other = some found →
    config.shared.sender.connections other = some found
  others : ∀ index found, config.shared.sender.process.Live now index found →
    Spared index found config.shared.sender.process final.shared.sender.process
  links : ∀ other ≠ connection, final.shared.links other = config.shared.links other

theorem unused_intact :
    Link.unused.Intact := ⟨fun _ => rfl, ⟨rfl, Nat.le_refl _⟩, ⟨rfl, Nat.le_refl _⟩⟩

theorem bootstrap_routed {control : Control} (lawful : control.Lawful) :
    ∃ encoded, bootstrap.encode control.wincode = .ok encoded ∧
      decodeClientFrame control.wincode encoded = .ok (.subscription bootstrap) := by
  obtain ⟨encoded, written⟩ := bootstrap.encodes lawful.wincode ⟨by decide, by decide⟩
  obtain ⟨-, -, decoded⟩ := SubscriptionRequest.encode_routed lawful.wincode written
  exact ⟨encoded, written, decoded⟩

theorem admitted {control : Control} (lawful : control.Lawful) (fits : control.Fits)
    (large : 64 ≤ control.sender.ringCapacity) (small : control.sender.ringCapacity ≤ 2 ^ 63)
    (short : ∀ encoded, bootstrap.encode control.wincode = .ok encoded →
      encoded.length ≤ maxFrameSize)
    {outsiders : Bool} {files : List Path} {config : Config ControlOp ControlTask ControlState}
    (run : (controlSystem control outsiders).Reachable (controlStart files) config)
    {connection : Nat} (unused : config.shared.links connection = .unused)
    (idle : config.pool (.consumer connection) = .done ())
    (unserved : config.pool (.sender (.handler connection)) = .done ()) {now : UInt64}
    (free : ∃ index, config.shared.sender.process.Free now index)
    (absent : ∀ index, control.sender.ringPath index config.shared.sender.nextConnectionId ∉
      config.shared.sender.files)
    (choices : Nat → ControlChoice) (constant : ∀ n, (choices n).now = now)
    (unrefused : ∀ n, (choices n).refused = none) (bound : Nat)
    (settled : ∀ n, bound ≤ n → (choices n).interrupted = false) (tick : Nat) :
    ∃ entry later final, Admitted control outsiders connection entry now choices tick config
      later final ∧
      HandedOut control.sender entry.address config.shared.sender final.shared.sender := by
  obtain ⟨pool, reached, -⟩ := control_sender run
  have known : Registered config.shared.sender.process := registered reached
  obtain ⟨encoded, written, decoded⟩ := bootstrap_routed lawful
  -- The consumer connects and writes its request.
  have speaks : Speaks connection config.shared Link.unused.talk config.shared := by
    refine ⟨?_, by rw [unused], rfl, fun _ _ => rfl, rfl⟩
    rw [unused]
    exact unused_intact
  have writes : (controlSystem control outsiders).Until (.consumer connection) choices _
      ((controlSystem control outsiders).program (.setup connection)) tick config.shared :=
    setup_until written (fits.request encoded written) unrefused speaks rfl rfl
  obtain ⟨first, begun, ⟨spoken, adopts⟩, others, leads⟩ := writes.started idle
    (by simp [controlSystem, controlMayStart]) (consumer_party connection)
  -- The handler accepts it, and makes and announces a connection.
  have serves : (controlSystem control outsiders).Until (.sender (.handler connection)) choices _
      ((controlSystem control outsiders).program (.serve connection)) first begun.shared :=
    serveFirst_until settled constant unrefused known lawful fits large small absent free decoded
      (short encoded written) spoken rfl rfl rfl rfl
  obtain ⟨second, served, ⟨waits, chosen, eventfd, payload, announces, brief, exact, ring, replied⟩,
      others', leads'⟩ :=
    serves.started ((others _ (by simp)).trans unserved) (by simp [controlSystem, controlMayStart])
      (handler_party connection)
  obtain ⟨index, entry, seed, empty, lowest, tabled, named, rfl, newer, placed, there, seen,
      filtered, only⟩ :=
    exact.created _ _ _ _ rfl
  rw [newProvision, ← placed] at announces
  rw [← placed] at there
  have run' := run.trans (leads.trans leads').reachable
  obtain ⟨pool', reached', -⟩ := control_sender run'
  have inv := sender_inv reached'
  obtain ⟨rfl, member, -⟩ := inv.tabled.slot index entry tabled
  obtain ⟨own, formed⟩ := inv.described.path entry member
  -- The consumer opens the ring that is announced.
  obtain ⟨opened, adopted⟩ := adoptRing_fits lawful fits named formed announces
  obtain ⟨whole, _, _, _, _, same, issued, -, where'⟩ :=
    adoptRing_announced lawful announces brief (List.take_prefix _ _) adopted
  cases same
  rw [whole] at adopted
  have fitting : (frameBytes payload).length ≤ ancillaryRecvBuf := by
    rw [← whole]
    exact List.length_take_le _ _
  have nonempty : frameBytes payload ≠ [] := by
    intro none
    simpa using congrArg List.length none
  have path : opened.ringPath = entry.sink.path := by
    rw [where', formed, ringPath_said lawful.keepsText fits.text]
  have opens := adopts { config.shared with sender := served.shared.sender } second served.shared _
    entry.address opened
    replied nonempty fitting rfl adopted (path ▸ there) (own.symm.trans path.symm)
  obtain ⟨last, final, ⟨idle', installed⟩, others'', leads''⟩ := opens.leads (others' _ (by simp))
    (consumer_party connection)
  have sender : final.shared.sender = served.shared.sender := installed.sender
  refine ⟨entry, last, final,
    ⟨leads.trans (leads'.trans leads''), ⟨⟨installed.intact, ?_, ?_, ?_, ?_, ?_⟩, idle',
    (others'' _ (by simp)).trans waits⟩, newer, (slotToken_fields named).2.symm, empty, lowest, ?_,
      ?_, ?_, ?_, ?_,
    installed.others⟩, ?_⟩
  · exact congrArg Talk.asked installed.talk
  · exact congrArg Talk.answered installed.talk
  · refine ⟨_, congrArg Talk.consumer installed.talk, ?_⟩
    rw [Stores, named, ← issued]
    exact ⟨rfl, rfl⟩
  · rw [sender]
    exact tabled
  · have fresh : served.shared.sender.process.lastSeen entry.address = now := seen
    rw [sender]
    simp [Table.stale, fresh]
  · rw [installed.adopted]
    exact List.mem_cons_self ..
  · rw [sender]
    exact ⟨_, filtered, SubscriptionFilter.fromRequest_holds seed bootstrap⟩
  · exact congrArg Talk.confirmed installed.talk
  · rw [sender]
    exact only
  · rw [sender]
    exact fun index found live => exact.others index found live (by simp [newProvision])
  · rw [sender]
    exact ring

/-- Wherever every other task of the process has stopped, and whatever the stream of choices, a
consumer that sets itself up on a new socket gets its ring, if a slot is free, the system refuses
nothing, interruptions come to an end and no file has the name of the next ring: the setup returns
with the token of a new connection in the lowest free slot, whose ring it has opened, and the
handler waits for its requests. Only the two tasks at the ends of the socket make a step. -/
theorem setup_connects (control : Control) (lawful : control.Lawful) (fits : control.Fits)
    (large : 64 ≤ control.sender.ringCapacity) (small : control.sender.ringCapacity ≤ 2 ^ 63)
    (short : ∀ encoded, bootstrap.encode control.wincode = .ok encoded →
      encoded.length ≤ maxFrameSize)
    (outsiders : Bool) (files : List Path) (config : Config ControlOp ControlTask ControlState)
    (run : (controlSystem control outsiders).Reachable (controlStart files) config)
    (connection : Nat) (unused : config.shared.links connection = .unused)
    (idle : config.pool (.consumer connection) = .done ())
    (unserved : config.pool (.sender (.handler connection)) = .done ()) (now : UInt64)
    (free : ∃ index, config.shared.sender.process.Free now index)
    (absent : ∀ index, control.sender.ringPath index config.shared.sender.nextConnectionId ∉
      config.shared.sender.files)
    (choices : Nat → ControlChoice) (constant : ∀ n, (choices n).now = now)
    (unrefused : ∀ n, (choices n).refused = none) (bound : Nat)
    (settled : ∀ n, bound ≤ n → (choices n).interrupted = false) (tick : Nat) :
    ∃ entry later final, Admitted control outsiders connection entry now choices tick config
      later final := by
  obtain ⟨entry, later, final, admitted, -⟩ := admitted lawful fits large small short run unused
    idle unserved free absent choices constant unrefused bound settled tick
  exact ⟨entry, later, final, admitted⟩

theorem sampleControl_short (encoded : Bytes)
    (written : bootstrap.encode sampleControl.wincode = .ok encoded) :
    encoded.length ≤ maxFrameSize := by
  have sized :
    (bootstrap.encode sampleControl.wincode).toOption.all
    (fun bytes => decide (bytes.length ≤ maxFrameSize)) =
      true := by
    decide +kernel
  rw [written] at sized
  exact of_decide_eq_true sized

section
variable {control : Control} {outsiders : Bool} {connection : Nat} {entry : ManagedConnection}
  {now : UInt64} {files : List Path} {choices : Nat → ControlChoice} {tick later : Nat}
  {final : Config ControlOp ControlTask ControlState}

theorem controlStart_free (index : SlotIndex) :
    (controlStart files).shared.sender.process.Free now index := by
  intro entry tabled
  cases tabled

theorem Admitted.first
    (admitted : Admitted control outsiders connection entry now choices tick (controlStart files)
      later final) :
    slotToken entry = ⟨0, 1⟩ := by
  have slot : entry.slotIndex = (⟨0, by decide⟩ : SlotIndex) := by
    by_contra other
    refine admitted.lowest ⟨0, by decide⟩ ?_ (controlStart_free _)
    exact Fin.lt_def.mpr (Nat.pos_of_ne_zero fun zero => other (Fin.ext zero))
  rw [slotToken, slot, admitted.numbered]
  rfl

end

theorem setup_connects_first :
    ∃ entry later final, Admitted sampleControl true 0 entry 7 (fun _ => { now := 7 }) 0
      (controlStart []) later final ∧ slotToken entry = ⟨0, 1⟩ := by
  obtain ⟨entry, later, final, admitted⟩ := setup_connects sampleControl sampleControl_lawful
    sampleControl_fits (by decide)
    (by decide) sampleControl_short true [] (controlStart []) .initial 0 rfl rfl rfl 7
    ⟨⟨0, by decide⟩, controlStart_free _⟩ (fun _ => List.not_mem_nil) (fun _ => { now := 7 })
      (fun _ => rfl)
    (fun _ => rfl) 0 (fun _ _ => rfl) 0
  exact ⟨entry, later, final, admitted, admitted.first⟩

/-- Wherever every other task of the process has stopped, and whatever the stream of choices, a
consumer whose connection is live and whose handler waits for it gets all that it asks for, in
order, if its requests fit in frames and interruptions come to an end: each subscription is
confirmed, and the filter of its connection then holds exactly what it held before and what was
asked; subscriptions and pings both refresh the connection, and nothing else in the table changes.
Only the two tasks at the ends of the socket make a step. -/
theorem session_granted (control : Control) (lawful : control.Lawful)
    (small : control.sender.ringCapacity ≤ 2 ^ 63)
    (outsiders : Bool) (files : List Path) (config : Config ControlOp ControlTask ControlState)
    (run : (controlSystem control outsiders).Reachable (controlStart files) config)
    (connection : Nat) (entry : ManagedConnection) (now : UInt64)
    (attended : Attended control connection entry now config)
    (choices : Nat → ControlChoice) (constant : ∀ n, (choices n).now = now) (bound : Nat)
    (settled : ∀ n, bound ≤ n → (choices n).interrupted = false) (tick : Nat)
    (demands : List Demand)
    (fits : ∀ demand ∈ demands, ∃ encoded, demand.encode control (slotToken entry) = .ok encoded ∧
      encoded.length ≤ maxFrameSize) :
    ∃ later final, Granted control outsiders connection entry now choices
        (demands.filterMap (Demand.asks (slotToken entry))) tick config later final ∧
      (demands ≠ [] → final.shared.sender.lastSeen entry.address = now) := by
  induction demands generalizing config tick with
  | nil => exact ⟨tick, config, .refl attended, fun none => absurd rfl none⟩
  | cons demand rest ih =>
      obtain ⟨between, mid, granted, seen⟩ :
          ∃ between mid, Granted _ _ _ _ _ choices _ tick _ between mid ∧ _ :=
        demand_granted lawful small run settled constant attended demand
          (fits demand (List.mem_cons_self ..))
      obtain ⟨later, final, again, -⟩ := ih mid (run.trans granted.leads.reachable)
        granted.attended between fun demand member => fits demand (List.mem_cons_of_mem _ member)
      refine ⟨later, final, ?_, fun _ => again.seen seen⟩
      have both := granted.trans again
      rw [List.filterMap_cons]
      cases asked : demand.asks (slotToken entry) <;> rw [asked] at both <;> exact both

theorem fits_of_any {outcome : Outcome Bytes}
    (sized : outcome.toOption.any (fun bytes => decide (bytes.length ≤ maxFrameSize)) = true) :
    ∃ encoded, outcome = .ok encoded ∧ encoded.length ≤ maxFrameSize := by
  cases outcome with
  | error error => simp [Except.toOption] at sized
  | ok encoded => exact ⟨encoded, rfl, of_decide_eq_true sized⟩

def sampleDemands :
    List Demand := [.subscribe [repeatedKey 7] [], .sendPing, .subscribeTransactions]

theorem session_granted_sample :
    ∃ config entry later final, (controlSystem sampleControl true).Reachable
      (controlStart []) config ∧ slotToken entry = ⟨0, 1⟩ ∧ (config.shared.links 0).confirmed = [] ∧
      Granted sampleControl true 0 entry 7 (fun _ => { now := 7 })
        (sampleDemands.filterMap (Demand.asks ⟨0, 1⟩)) 0 config later final := by
  obtain ⟨entry, _, config, admitted, -⟩ : ∃ entry later config,
      Admitted sampleControl true 0 entry 7 (fun _ => { now := 7 }) 0 (controlStart []) later
        config ∧ _ :=
    admitted sampleControl_lawful sampleControl_fits (by decide) (by decide) sampleControl_short
      .initial rfl rfl rfl
      ⟨⟨0, by decide⟩, controlStart_free _⟩ (fun _ => List.not_mem_nil) (fun _ => { now := 7 })
        (fun _ => rfl)
      (fun _ => rfl) 0 (fun _ _ => rfl) 0
  have sized : sampleDemands.all (fun demand => (demand.encode sampleControl ⟨0, 1⟩).toOption.any
      fun bytes => decide (bytes.length ≤ maxFrameSize)) = true := by
    decide +kernel
  have fits : ∀ demand ∈ sampleDemands, ∃ encoded, demand.encode sampleControl (slotToken entry) =
    .ok encoded ∧
      encoded.length ≤ maxFrameSize := by
    intro demand member
    have small := List.all_eq_true.mp sized demand member
    rw [← admitted.first] at small
    exact fits_of_any small
  obtain ⟨later, final, granted, -⟩ := session_granted sampleControl sampleControl_lawful
    (by decide) true [] config
    admitted.leads.reachable 0 entry 7 admitted.attended (fun _ => { now := 7 }) (fun _ => rfl) 0
      (fun _ _ => rfl) 0
    sampleDemands fits
  rw [admitted.first] at granted
  exact ⟨config, entry, later, final, admitted.leads.reachable, admitted.first,
    admitted.confirmed, granted⟩

end Qlaster
