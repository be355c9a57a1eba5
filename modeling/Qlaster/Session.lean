import Qlaster.Talking

/-!
A consumer that has its ring, and the handler that waits for its next frame: whatever the consumer
asks for is granted by steps of these two, wherever every other task of the process has stopped.
-/

namespace Qlaster

open Interleaving Interleaving.System LittleEndian PrefixCode

inductive Demand
  | subscribe (accountPubkeys accountOwners : List Pubkey)
  | subscribeTransactions
  | sendPing

def Demand.call (connection : Nat) : Demand → ControlCall
  | .subscribe accountPubkeys accountOwners => .subscribe connection accountPubkeys accountOwners
  | .subscribeTransactions => .subscribeTransactions connection
  | .sendPing => .sendPing connection

def Demand.asks (token : SlotToken) : Demand → Option SubscriptionRequest
  | .subscribe accountPubkeys accountOwners =>
      some ((SubscriptionRequest.new accountPubkeys accountOwners).withSlotToken (some token))
  | .subscribeTransactions => some (SubscriptionRequest.transactions.withSlotToken (some token))
  | .sendPing => none

def Demand.encode (control : Control) (token : SlotToken) (demand : Demand) : Outcome Bytes :=
  match demand.asks token with
  | some request => request.encode control.wincode
  | none => (PingRequest.mk token).encode control.wincode

def Stores (token : SlotToken) (consumer : ShmConsumer) : Prop :=
  consumer.slotTokenIndex = token.slotIndex ∧ consumer.slotTokenGeneration = token.generation

theorem slotToken_set (entry : ManagedConnection) :
    (slotToken entry).slotIndex ≠ unsetSlotIndex := by
  have each : ∀ index : SlotIndex, UInt8.ofNat index.val ≠ unsetSlotIndex := by decide
  exact each entry.slotIndex

section
variable {control : Control} {outsiders : Bool} {connection : Nat} {choices : Nat → ControlChoice}
  {tick : Nat}
  {base state : ControlState} {talk : Talk} {token : SlotToken} {consumer : ShmConsumer}

/-! The consumer. -/

def Resumes (control : Control) (outsiders : Bool) (connection : Nat)
    (choices : Nat → ControlChoice) (talk : Talk)
    (request : SubscriptionRequest) (token : SlotToken) (rest : Program ControlOp Unit) : Prop :=
  ∀ base tick state reply, reply.length ≤ maxFrameSize →
    decodeServerFrameOwned control.sender.codecs reply = .ok (.connectionReady ⟨token⟩) →
    Speaks connection base { talk with answered := frameBytes reply } state →
    (controlSystem control outsiders).Until (.consumer connection) choices
      (fun rest _ after => rest = .done () ∧ Speaks connection base
        { talk with answered := [], attached := none, confirmed := talk.confirmed ++ [request] }
          after) rest tick state

section
variable (speaks : Speaks connection base talk state)
include speaks

theorem Speaks.loaded (here : talk.consumer = some consumer) :
    (state.links connection).consumer = some consumer := by
  rw [← here, ← speaks.talk]
  rfl

theorem Speaks.storeIndex (here : talk.consumer = some consumer) (stores : Stores token consumer) :
    (controlSystem control outsiders).Alone (.consumer connection) choices
      (onLink connection (.perform (.storeSlotTokenIndex token.slotIndex))) tick state
      fun _ _ after => Speaks connection base talk after := by
  have found := speaks.loaded here
  have executed : (state.links connection).exec (choices tick) state.sender.files
      (.storeSlotTokenIndex token.slotIndex) = some ((), state.links connection) := by
    rw [Link.exec, found, ← stores.1]
    simp only [Option.map_some]
    rw [← found]
  exact (speaks.perform executed rfl speaks.intact speaks.talk).mono fun _ _ _ spoken => spoken.2

theorem Speaks.storeGeneration (here : talk.consumer = some consumer)
    (stores : Stores token consumer) :
    (controlSystem control outsiders).Alone (.consumer connection) choices
      (onLink connection (.perform (.storeSlotTokenGeneration token.generation))) tick state
      fun _ _ after => Speaks connection base talk after := by
  have found := speaks.loaded here
  have executed : (state.links connection).exec (choices tick) state.sender.files
      (.storeSlotTokenGeneration token.generation) = some ((), state.links connection) := by
    rw [Link.exec, found, ← stores.2]
    simp only [Option.map_some]
    rw [← found]
  exact (speaks.perform executed rfl speaks.intact speaks.talk).mono fun _ _ _ spoken => spoken.2

theorem Speaks.confirm (request : SubscriptionRequest) :
    (controlSystem control outsiders).Alone (.consumer connection) choices
      (onLink connection (.perform (.note (.confirmed request)))) tick state
      fun _ _ after => Speaks connection base { talk with confirmed := talk.confirmed ++ [request] }
        after := by
  have noted : ((state.links connection).record (.confirmed request)).talk =
      { talk with confirmed := talk.confirmed ++ [request] } := by
    rw [← speaks.talk]
    rfl
  exact (speaks.perform rfl rfl (record_intact speaks.intact _) noted).mono fun _ _ _ spoken =>
    spoken.2

end

theorem slotToken_alone (speaks : Speaks connection base talk state)
    (here : talk.consumer = some consumer)
    (stores : Stores token consumer) (set : token.slotIndex ≠ unsetSlotIndex) :
    (controlSystem control outsiders).Alone (.consumer connection) choices
      (onLink connection ShmConsumer.slotToken) tick state
      fun found _ after => found = some token ∧ Speaks connection base talk after := by
  rw [ShmConsumer.slotToken, Program.bind_eq, onLink_bind]
  refine (speaks.perform (by rw [Link.exec, speaks.loaded here]; rfl) rfl speaks.intact
    speaks.talk).bind ?_
  rintro _ _ first ⟨rfl, spoken⟩
  rw [stores.1, if_neg set, Program.bind_eq, onLink_bind]
  refine (spoken.perform (by rw [Link.exec, spoken.loaded here]; rfl) rfl spoken.intact
    spoken.talk).bind ?_
  rintro _ _ second ⟨rfl, again⟩
  refine .done ⟨?_, again⟩
  rw [stores.2]

theorem linkFirst_until {β : Type} {op : LinkOp β}
    {rest : β → Program LinkOp (Except QlasterError Unit)}
    {goal : Program ControlOp Unit → Nat → ControlState → Prop} {mid : ControlState → Prop}
    (begins : (controlSystem control outsiders).Alone (.consumer connection) choices
      (onLink connection (.perform op)) tick state fun _ _ after => mid after)
    (continues : ∀ value later after, mid after →
      (controlSystem control outsiders).Until (.consumer connection) choices
      goal ((onLink connection (rest value)).bind fun _ => .done ()) later after) :
    (controlSystem control outsiders).Until (.consumer connection) choices goal
      ((onLink connection ((Program.perform op).bind rest)).bind fun _ => .done ()) tick state := by
  rw [onLink_bind, Program.bind_assoc]
  exact begins.until continues

theorem sendSubscription_until {request : SubscriptionRequest} {encoded : Bytes}
    (written : request.encode control.wincode = .ok encoded) (small : encoded.length < 2 ^ 32)
    (speaks : Speaks connection base talk state) (here : talk.consumer = some consumer)
    (stores : Stores token consumer) (empty : talk.asked = []) :
    (controlSystem control outsiders).Until (.consumer connection) choices
      (fun rest _ after => Speaks connection base { talk with asked := frameBytes encoded } after ∧
        Resumes control outsiders connection choices talk request token rest)
      ((onLink connection (sendSubscription control request)).bind fun _ => .done ())
        tick state := by
  refine attempt_until (settle_alone written speaks) fun _ _ speaks => ?_
  refine attempt_until (writeFramed_alone small (fun _ => rfl) speaks) fun _ _ wrote => ?_
  refine .here ⟨?_, ?_⟩
  · simpa [Talk.put, empty] using wrote
  intro base tick state reply short decoded replied
  refine attempt_until (readFramed_alone short (List.append_nil _).symm replied) fun _ _ heard => ?_
  have read :
    ((({ talk with answered := frameBytes reply } : Talk).take .client 4).take .client
    reply.length) =
      { talk with answered := [], attached := none } := by
    simp [Talk.take, frameBytes]
  rw [read] at heard
  refine linkFirst_until (heard.note fun _ => rfl) fun _ _ _ noted => ?_
  refine attempt_until (settle_alone decoded noted) fun _ _ noted => ?_
  refine linkFirst_until (noted.storeIndex here stores) fun _ _ _ indexed => ?_
  refine linkFirst_until (indexed.storeGeneration here stores) fun _ _ _ numbered => ?_
  refine linkFirst_until (numbered.confirm request) fun _ _ _ confirmed => ?_
  exact .here ⟨rfl, confirmed⟩

theorem subscribe_until {demand : Demand} {request : SubscriptionRequest}
    (asked : demand.asks token = some request)
    {encoded : Bytes} (written : request.encode control.wincode = .ok encoded)
    (small : encoded.length < 2 ^ 32)
    (speaks : Speaks connection base talk state) (here : talk.consumer = some consumer)
    (stores : Stores token consumer) (set : token.slotIndex ≠ unsetSlotIndex)
    (empty : talk.asked = []) :
    (controlSystem control outsiders).Until (.consumer connection) choices
      (fun rest _ after => Speaks connection base { talk with asked := frameBytes encoded } after ∧
        Resumes control outsiders connection choices talk request token rest)
      (controlProgram control (demand.call connection)) tick state := by
  obtain ⟨shape, carried⟩ : controlProgram control (demand.call connection) =
      ((onLink connection (ShmConsumer.slotToken.bind fun found =>
        sendSubscription control (request.withSlotToken found))).bind fun _ => .done ()) ∧
      request.withSlotToken (some token) = request := by
    cases demand with
    | subscribe accountPubkeys accountOwners =>
        obtain rfl := Option.some.inj asked
        exact ⟨rfl, rfl⟩
    | subscribeTransactions =>
        obtain rfl := Option.some.inj asked
        exact ⟨rfl, rfl⟩
    | sendPing => simp [Demand.asks] at asked
  rw [shape, onLink_bind, Program.bind_assoc]
  refine (slotToken_alone speaks here stores set).until ?_
  rintro _ _ _ ⟨rfl, spoken⟩
  rw [carried]
  exact sendSubscription_until written small spoken here stores empty

theorem sendPing_until {encoded : Bytes}
    (written : (PingRequest.mk token).encode control.wincode = .ok encoded)
    (small : encoded.length < 2 ^ 32) (speaks : Speaks connection base talk state)
    (here : talk.consumer = some consumer) (stores : Stores token consumer)
    (set : token.slotIndex ≠ unsetSlotIndex) (empty : talk.asked = []) :
    (controlSystem control outsiders).Until (.consumer connection) choices
      (fun rest _ after => rest = .done () ∧
        Speaks connection base { talk with asked := frameBytes encoded } after)
      (controlProgram control (.sendPing connection)) tick state := by
  change (controlSystem control outsiders).Until _ _ _
    ((onLink connection (ShmConsumer.slotToken.bind _)).bind fun _ => .done ()) _ _
  rw [onLink_bind, Program.bind_assoc]
  refine (slotToken_alone speaks here stores set).until ?_
  rintro _ _ _ ⟨rfl, spoken⟩
  refine attempt_until (settle_alone written spoken) fun _ _ spoken => ?_
  refine (writeFramed_alone small (fun _ => rfl) spoken).until ?_
  rintro _ _ _ ⟨rfl, wrote⟩
  refine .here ⟨rfl, ?_⟩
  simpa [Talk.put, empty] using wrote

/-! The handler. -/

def waitingHandler (control : Control) (connection : Nat) : Program ControlOp Unit :=
  .unrolled () (fun _ => handleFrameOf control connection) fun _ =>
    (onLink connection (.perform (.drop .server))).bind fun _ => .done ()

theorem take_frame {encoded : Bytes} (asked : talk.asked = frameBytes encoded) :
    (talk.take .server 4).take .server encoded.length = { talk with asked := [] } := by
  simp [Talk.take, asked, frameBytes]

theorem provisioned_process (state : SenderState) (task : SenderTask)
    (result : Except QlasterError ShmSlotProvision) :
    (state.record task (.provisioned result)).process = state.process := by
  rcases result with error | ⟨token | ⟨token, path, capacity, eventfd⟩⟩ <;> rfl

theorem Speaks.provisioned (speaks : Speaks connection base talk state)
    (result : Except QlasterError ShmSlotProvision) :
    (controlSystem control outsiders).Alone (.sender (.handler connection)) choices
      (onSender (ask (.note (.provisioned result)))) tick state fun _ _ after =>
        after.sender = state.sender.record (.handler connection) (.provisioned result) ∧
          Speaks connection { base with sender := after.sender } talk after := by
  have marked :
    (senderSystem control.sender).Alone (.handler connection) (fun n => (choices n).toSenderChoice)
      (ask (.note (.provisioned result))) tick state.sender fun _ _ after =>
        after = state.sender.record (.handler connection) (.provisioned result) :=
          .request rfl (.done rfl)
  exact onSender_alone marked speaks

section
variable {now : UInt64} {process : Process} (registered : Registered process)
  {entry : ManagedConnection} (live : process.Live now entry.slotIndex entry)
include registered live

theorem live_unique {index : SlotIndex} {found : ManagedConnection}
    (there : process.Live now index found)
    (same : slotToken found = slotToken entry) : found = entry := by
  have slot : index = entry.slotIndex := by
    rw [← registered.indexed index found there.tabled]
    refine Fin.ext ?_
    rw [← (slotToken_fields same).1, ← (slotToken_fields rfl).1]
  rw [slot] at there
  exact Option.some.inj (there.tabled.symm.trans live.tabled)

theorem UpsertExact.refreshes {request : SubscriptionRequest} {after : Process}
    {result : Except QlasterError ShmSlotProvision}
    (exact : UpsertExact request now process after result)
    (carried : request.slotToken = some (slotToken entry)) :
    result = .ok (.existing (slotToken entry)) ∧ ∃ filter seed, process.filters[entry.filter]? =
      some filter ∧ after = process.refresh entry now (filter.withRequest seed request) := by
  have returned := (exact.existing _).mpr ⟨carried, _, entry, live, rfl⟩
  obtain ⟨index, found, filter, seed, there, same, filtered, refreshed⟩ :=
    exact.refreshed _ returned
  obtain rfl := live_unique registered live there same
  exact ⟨returned, filter, seed, filtered, refreshed⟩

end

theorem touchPing_alone {sender : Sender} {task : SenderTask} {choices : Nat → SenderChoice}
    {bound : Nat} {state : SenderState} (settled : ∀ n, bound ≤ n → (choices n).interrupted = false)
    {now : UInt64} (constant : ∀ n, (choices n).now = now) (registered : Registered state.process)
    {entry : ManagedConnection} (live : state.process.Live now entry.slotIndex entry) :
    (senderSystem sender).Alone task choices (touchPing ⟨slotToken entry⟩) tick state
      fun _ _ after =>
      after.process = { state.process with lastSeen := Function.update state.process.lastSeen entry.address now } := by
  refine Alone.bind (lookupByToken_alone settled constant registered (slotToken entry)) ?_
  intro found _ looked holds
  cases found with
  | none => exact absurd rfl (holds.1 _ entry live)
  | some existing =>
      obtain ⟨there, same, held⟩ := holds
      obtain rfl := live_unique registered live there same
      refine ask_then rfl (ask_then rfl ?_)
      let touched : Process := { state.process with
        lastSeen := Function.update state.process.lastSeen existing.address now }
      have tabled : touched.connections existing.slotIndex = some existing := live.tabled
      refine (dropHeld_alone tabled ?_).bind fun _ _ _ dropped => .done dropped
      rw [constant]
      change { looked.process with lastSeen := Function.update looked.process.lastSeen existing.address now } = _
      rw [held]
      rfl

section
variable {bound : Nat} (settled : ∀ n, bound ≤ n → (choices n).interrupted = false) {now : UInt64}
  (constant : ∀ n, (choices n).now = now) (registered : Registered base.sender.process)
  {entry : ManagedConnection} (live : base.sender.process.Live now entry.slotIndex entry)
include settled constant registered live

theorem serveSubscription_alone (lawful : control.Lawful)
    (small : control.sender.ringCapacity ≤ 2 ^ 63)
    {request : SubscriptionRequest} (carried : request.slotToken = some (slotToken entry))
    {encoded : Bytes}
    (decoded : decodeClientFrame control.wincode encoded = .ok (.subscription request))
    (fits : encoded.length ≤ maxFrameSize) (speaks : Speaks connection base talk state)
    (asked : talk.asked = frameBytes encoded) (silent : talk.answered = []) :
    (controlSystem control outsiders).Alone (.sender (.handler connection)) choices
      (handleFrameOf control connection)
      tick state fun outcome _ after => outcome = .inl () ∧ ∃ reply filter seed,
        replyPayload control (.existing (slotToken entry)) = .ok reply ∧
        base.sender.process.filters[entry.filter]? = some filter ∧
        after.sender.process = base.sender.process.refresh entry now
          (filter.withRequest seed request) ∧
        Speaks connection { base with sender := after.sender }
          { talk with asked := [], answered := frameBytes reply } after := by
  have waiting : talk.incoming .server = frameBytes encoded ++ [] := by
    rw [List.append_nil]
    exact asked
  refine Alone.bind (readFramed_alone fits waiting speaks) ?_
  rintro _ _ _ ⟨rfl, heard⟩
  rw [take_frame asked] at heard
  refine Alone.bind (settle_alone decoded heard) ?_
  rintro _ _ read ⟨rfl, heard⟩
  have known : Registered read.sender.process := heard.sender ▸ registered
  refine Alone.bind (onSender_alone (upsertShm_alone settled constant small known request) heard) ?_
  rintro result _ upserted ⟨exact, spoken⟩
  rw [heard.sender] at exact
  obtain ⟨rfl, filter, seed, filtered, refreshed⟩ := exact.refreshes registered live carried
  -- Nothing is announced for a connection that was there.
  change Alone _ _ _ ((onSender (ask (.note (.provisioned _)))).bind _) _ _ _
  refine Alone.bind (spoken.provisioned _) ?_
  rintro _ _ marked ⟨same, spoken⟩
  obtain ⟨payload, written⟩ := (ConnectionReady.mk (slotToken entry)).encodes lawful.wincode
  have short : payload.length < 2 ^ 32 := by
    rw [lawful.readySized _ _ (serializeWire_ok written)]
    omega
  refine Alone.bind (attempt_alone (settle_alone written spoken) fun _ _ spoken =>
    writeFramed_alone short (fun _ => rfl) spoken) ?_
  rintro _ _ final ⟨rfl, replied⟩
  refine .done ⟨rfl, _, filter, seed, written, filtered, ?_, ?_⟩
  · rw [replied.sender, same, provisioned_process, refreshed]
  · rw [Talk.put, silent] at replied
    exact replied.rebase rfl rfl

theorem servePing_alone {encoded : Bytes}
    (decoded : decodeClientFrame control.wincode encoded = .ok (.ping ⟨slotToken entry⟩))
    (fits : encoded.length ≤ maxFrameSize) (speaks : Speaks connection base talk state)
    (asked : talk.asked = frameBytes encoded) :
    (controlSystem control outsiders).Alone (.sender (.handler connection)) choices
      (handleFrameOf control connection) tick state fun outcome _ after => outcome = .inl () ∧
        after.sender.process = { base.sender.process with
          lastSeen := Function.update base.sender.process.lastSeen entry.address now } ∧
        Speaks connection { base with sender := after.sender } { talk with asked := [] } after := by
  have waiting : talk.incoming .server = frameBytes encoded ++ [] := by
    rw [List.append_nil]
    exact asked
  refine Alone.bind (readFramed_alone fits waiting speaks) ?_
  rintro _ _ _ ⟨rfl, heard⟩
  rw [take_frame asked] at heard
  refine Alone.bind (settle_alone decoded heard) ?_
  rintro _ _ read ⟨rfl, heard⟩
  rw [← heard.sender] at registered live
  refine Alone.bind (onSender_alone (touchPing_alone settled constant registered live) heard) ?_
  rintro _ _ touched ⟨seen, spoken⟩
  refine .done ⟨rfl, ?_, spoken⟩
  rw [seen, heard.sender]

end

/-! What is written is understood. -/

theorem asked_routed (lawful : control.Lawful) {demand : Demand} {request : SubscriptionRequest}
    (asked : demand.asks token = some request) (set : token.slotIndex ≠ unsetSlotIndex)
    {encoded : Bytes} (written : request.encode control.wincode = .ok encoded) :
    request.slotToken = some token ∧ decodeClientFrame control.wincode encoded = .ok
      (.subscription request) := by
  have carried : request.slotToken = some token := by
    cases demand with
    | subscribe accountPubkeys accountOwners =>
        obtain rfl := Option.some.inj asked
        rfl
    | subscribeTransactions =>
        obtain rfl := Option.some.inj asked
        rfl
    | sendPing => simp [Demand.asks] at asked
  obtain ⟨-, -, decoded⟩ := SubscriptionRequest.encode_routed lawful.wincode written
  have kept : request.withSlotToken
      (request.slotToken.filter fun token => token.slotIndex ≠ unsetSlotIndex) = request := by
    rw [carried, Option.filter, if_pos (by simpa using set), ← carried]
    rfl
  rw [kept] at decoded
  exact ⟨carried, decoded⟩

theorem pinged_routed (lawful : control.Lawful) (set : token.slotIndex ≠ unsetSlotIndex)
    {encoded : Bytes} (written : (PingRequest.mk token).encode control.wincode = .ok encoded) :
    decodeClientFrame control.wincode encoded = .ok (.ping ⟨token⟩) := by
  obtain ⟨-, -, decoded⟩ := PingRequest.encode_routed lawful.wincode written
  rwa [if_neg set] at decoded

theorem existing_routed (lawful : control.Lawful) (set : token.slotIndex ≠ unsetSlotIndex)
    {reply : Bytes}
    (encoded : replyPayload control (.existing token) = .ok reply) : reply.length ≤ maxFrameSize ∧
      decodeServerFrameOwned control.sender.codecs reply = .ok (.connectionReady ⟨token⟩) := by
  refine ⟨?_, ?_⟩
  · rw [lawful.readySized _ _ (serializeWire_ok encoded)]
    decide
  · obtain ⟨-, -, decoded⟩ := ConnectionReady.encode_routed lawful.wincode
      control.sender.codecs.lz4 encoded
    rw [if_neg set] at decoded
    rw [decodeServerFrameOwned_eq, control_codecs]
    exact decoded

end

/-! Whole calls. -/

/-- Nothing is on its way over the socket, and the connection whose token the consumer has is live.
-/
structure AtEase (connection : Nat) (entry : ManagedConnection) (now : UInt64)
    (state : ControlState) : Prop where
  intact : (state.links connection).Intact
  asked : (state.links connection).requests.unread = []
  answered : (state.links connection).replies.unread = []
  consumer : ∃ consumer, (state.links connection).consumer = some consumer ∧
    Stores (slotToken entry) consumer
  live : state.sender.process.Live now entry.slotIndex entry

/-- The consumer is idle besides, and its handler waits. -/
structure Attended (control : Control) (connection : Nat) (entry : ManagedConnection) (now : UInt64)
    (config : Config ControlOp ControlTask ControlState) :
    Prop extends AtEase connection entry now config.shared where
  idle : config.pool (.consumer connection) = .done ()
  waiting : config.pool (.sender (.handler connection)) = waitingHandler control connection

def parties (connection : Nat) :
    List ControlTask := [.consumer connection, .sender (.handler connection)]

theorem consumer_party (connection : Nat) : .consumer connection ∈ parties connection := by
  simp [parties]

theorem handler_party (connection : Nat) : .sender (.handler connection) ∈ parties connection := by
  simp [parties]

/-- The requests were confirmed one after the other and the connection has them in its filter;
nothing else in the table has changed, and no other socket. -/
structure Granted (control : Control) (outsiders : Bool) (connection : Nat)
    (entry : ManagedConnection) (now : UInt64)
    (choices : Nat → ControlChoice) (requests : List SubscriptionRequest) (tick : Nat)
    (config : Config ControlOp ControlTask ControlState) (later : Nat)
    (final : Config ControlOp ControlTask ControlState) : Prop where
  leads : (controlSystem control outsiders).Leads (parties connection) choices tick
    config later final
  attended : Attended control connection entry now final
  confirmed :
    (final.shared.links connection).confirmed = (config.shared.links connection).confirmed ++
    requests
  filter : ∀ filter earlier, config.shared.sender.filters[entry.filter]? = some filter →
    filter.Holds earlier → ∃ wider, final.shared.sender.filters[entry.filter]? = some wider ∧
      wider.Holds (earlier ++ requests)
  filters :
    ∀ cell ≠ entry.filter, final.shared.sender.filters[cell]? = config.shared.sender.filters[cell]?
  seen : config.shared.sender.lastSeen entry.address = now →
    final.shared.sender.lastSeen entry.address = now
  others : ∀ address ≠ entry.address, final.shared.sender.lastSeen address =
    config.shared.sender.lastSeen address
  table : final.shared.sender.connections = config.shared.sender.connections
  rings : final.shared.sender.channels = config.shared.sender.channels
  links : ∀ other ≠ connection, final.shared.links other = config.shared.links other

section
variable {control : Control} {outsiders : Bool} {connection : Nat} {entry : ManagedConnection}
  {now : UInt64} {choices : Nat → ControlChoice} {tick between later : Nat}
  {config mid final : Config ControlOp ControlTask ControlState}

theorem Granted.refl (attended : Attended control connection entry now config) :
    Granted control outsiders connection entry now choices [] tick config tick config := by
  refine ⟨.refl, attended, (List.append_nil _).symm, fun filter earlier found holds =>
    ⟨filter, found, ?_⟩,
    fun _ _ => rfl, id, fun _ _ => rfl, rfl, rfl, fun _ _ => rfl⟩
  rwa [List.append_nil]

theorem Granted.trans {first second : List SubscriptionRequest}
    (granted : Granted control outsiders connection entry now choices first tick config between mid)
    (again : Granted control outsiders connection entry now choices second between mid
      later final) :
    Granted control outsiders connection entry now choices (first ++ second) tick config
      later final where
  leads := granted.leads.trans again.leads
  attended := again.attended
  confirmed := by rw [again.confirmed, granted.confirmed, List.append_assoc]
  filter filter earlier found holds := by
    obtain ⟨wider, found', holds'⟩ := granted.filter filter earlier found holds
    rw [← List.append_assoc]
    exact again.filter wider _ found' holds'
  filters cell different := (again.filters cell different).trans (granted.filters cell different)
  seen known := again.seen (granted.seen known)
  others address different := (again.others address different).trans
    (granted.others address different)
  table := again.table.trans granted.table
  rings := again.rings.trans granted.rings
  links other different := (again.links other different).trans (granted.links other different)

theorem Granted.ofRefreshed (attended : Attended control connection entry now config)
    (leads : (controlSystem control outsiders).Leads (parties connection) choices tick
      config later final)
    (idle : final.pool (.consumer connection) = .done ())
    (waiting : final.pool (.sender (.handler connection)) = waitingHandler control connection)
    {sender : SenderState} {attached : Option Nat} {requests : List SubscriptionRequest}
    (spoken : Speaks connection { config.shared with sender := sender }
      { (config.shared.links connection).talk with
        attached := attached
        confirmed := (config.shared.links connection).confirmed ++ requests } final.shared)
    {filters : List SubscriptionFilter}
    (refreshed : sender.process = { config.shared.sender.process with
      lastSeen := Function.update config.shared.sender.process.lastSeen entry.address now
      filters := filters })
    (others : ∀ cell ≠ entry.filter, filters[cell]? = config.shared.sender.filters[cell]?)
    (wider : ∀ filter earlier, config.shared.sender.filters[entry.filter]? = some filter →
      filter.Holds earlier →
      ∃ wider, filters[entry.filter]? = some wider ∧ wider.Holds (earlier ++ requests)) :
    Granted control outsiders connection entry now choices requests tick config later final ∧
      final.shared.sender.lastSeen entry.address = now := by
  have same : final.shared.sender.process = _ :=
    (congrArg SenderState.process spoken.sender).trans refreshed
  have times : final.shared.sender.lastSeen = Function.update config.shared.sender.lastSeen
      entry.address now :=
    congrArg (fun process => process.lastSeen) same
  have cells : final.shared.sender.filters = filters :=
    congrArg (fun process => process.filters) same
  have table : final.shared.sender.connections = config.shared.sender.connections :=
    congrArg (fun process => process.connections) same
  have rings : final.shared.sender.channels = config.shared.sender.channels :=
    congrArg (fun process => process.channels) same
  have seen : final.shared.sender.lastSeen entry.address = now := by
    rw [times, Function.update_self]
  refine ⟨⟨leads, ⟨⟨spoken.intact, ?_, ?_, ?_, ?_, ?_⟩, idle, waiting⟩, ?_, ?_, ?_, fun _ => seen,
    ?_, table, rings, ?_⟩, seen⟩
  · exact (congrArg Talk.asked spoken.talk).trans attended.asked
  · exact (congrArg Talk.answered spoken.talk).trans attended.answered
  · obtain ⟨consumer, here, stores⟩ := attended.consumer
    exact ⟨consumer, (congrArg Talk.consumer spoken.talk).trans here, stores⟩
  · exact (congrFun table entry.slotIndex).trans attended.live.tabled
  · have fresh : final.shared.sender.process.lastSeen entry.address = now := seen
    simp [Table.stale, fresh]
  · exact congrArg Talk.confirmed spoken.talk
  · rw [cells]
    exact wider
  · rw [cells]
    exact others
  · intro address different
    rw [times, Function.update_of_ne different]
  · exact spoken.others

section
variable {bound : Nat} (lawful : control.Lawful)
  (small : control.sender.ringCapacity ≤ 2 ^ 63) {files : List Path}
  (run : (controlSystem control outsiders).Reachable (controlStart files) config)
  (settled : ∀ n, bound ≤ n → (choices n).interrupted = false)
  (constant : ∀ n, (choices n).now = now) (attended : Attended control connection entry now config)
include lawful small run settled constant attended

theorem subscribe_granted {demand : Demand} {request : SubscriptionRequest}
    (asked : demand.asks (slotToken entry) = some request) {encoded : Bytes}
    (written : request.encode control.wincode = .ok encoded)
    (short : encoded.length ≤ maxFrameSize) :
    ∃ later final, Granted control outsiders connection entry now choices [request] tick config
      later final ∧ final.shared.sender.lastSeen entry.address = now := by
  obtain ⟨pool, reached, -⟩ := control_sender run
  have known : Registered config.shared.sender.process := registered reached
  obtain ⟨consumer, here, stores⟩ := attended.consumer
  obtain ⟨carried, decoded⟩ := asked_routed lawful asked (slotToken_set entry) written
  have small' : encoded.length < 2 ^ 32 := by
    simp only [maxFrameSize] at short
    omega
  have mayStart : (controlSystem control outsiders).mayStart (.consumer connection)
      (demand.call connection) = true := by
    cases demand <;> simp [controlSystem, Demand.call, controlMayStart]
  -- The consumer writes its request.
  have writes : (controlSystem control outsiders).Until (.consumer connection) choices _
      ((controlSystem control outsiders).program (demand.call connection)) tick config.shared :=
    subscribe_until asked written small' (speaks_self attended.intact) here stores
      (slotToken_set entry) attended.asked
  obtain ⟨first, begun, ⟨spoken, resumes⟩, others, leads⟩ := writes.started attended.idle mayStart
    (consumer_party connection)
  -- The handler answers it.
  have serves : (controlSystem control outsiders).Until (.sender (.handler connection)) choices
      (fun rest _ after => rest = waitingHandler control connection ∧ ∃ reply filter seed,
        replyPayload control (.existing (slotToken entry)) = .ok reply ∧
        config.shared.sender.process.filters[entry.filter]? = some filter ∧
        after.sender.process = config.shared.sender.process.refresh entry now
          (filter.withRequest seed request) ∧
        Speaks connection { config.shared with sender := after.sender }
          { (config.shared.links connection).talk with answered := frameBytes reply } after)
      (waitingHandler control connection) first begun.shared := by
    refine (serveSubscription_alone settled constant known attended.live lawful small carried
      decoded short spoken rfl attended.answered).until ?_
    rintro _ _ after ⟨rfl, reply, filter, seed, encodes, filtered, refreshed, replied⟩
    refine .loop (.here ⟨rfl, reply, filter, seed, encodes, filtered, refreshed, ?_⟩)
    have empty : (config.shared.links connection).talk.asked = [] := attended.asked
    simpa [empty] using replied
  have waits : begun.pool (.sender (.handler connection)) = waitingHandler control connection :=
    (others _ (by simp)).trans attended.waiting
  obtain ⟨second, served, ⟨waits', reply, filter, seed, encodes, filtered, refreshed, replied⟩,
      others', leads'⟩ :=
    serves.leads waits (handler_party connection)
  -- The consumer reads the answer.
  obtain ⟨fitting, understood⟩ := existing_routed lawful (slotToken_set entry) encodes
  have reads := resumes _ second served.shared reply fitting understood replied
  obtain ⟨last, ended, ⟨idle, confirmed⟩, others'', leads''⟩ := reads.leads (others' _ (by simp))
    (consumer_party connection)
  rw [show ([] : Bytes) = (config.shared.links connection).talk.answered
    from attended.answered.symm] at confirmed
  refine ⟨last, ended, Granted.ofRefreshed attended (leads.trans (leads'.trans leads'')) idle
    ((others'' _ (by simp)).trans waits')
    confirmed refreshed (fun cell different => List.getElem?_set_ne different.symm) ?_⟩
  intro found earlier there holds
  obtain rfl := Option.some.inj (there.symm.trans filtered)
  have bound := (known.known _ entry attended.live.tabled).2.2
  exact ⟨_, List.getElem?_set_self bound, holds.withRequest seed request⟩

omit small in
theorem sendPing_granted {encoded : Bytes}
    (written : (PingRequest.mk (slotToken entry)).encode control.wincode = .ok encoded)
    (short : encoded.length ≤ maxFrameSize) :
    ∃ later final, Granted control outsiders connection entry now choices [] tick config
      later final ∧ final.shared.sender.lastSeen entry.address = now := by
  obtain ⟨pool, reached, -⟩ := control_sender run
  have known : Registered config.shared.sender.process := registered reached
  obtain ⟨consumer, here, stores⟩ := attended.consumer
  have decoded := pinged_routed lawful (slotToken_set entry) written
  have small' : encoded.length < 2 ^ 32 := by
    simp only [maxFrameSize] at short
    omega
  have writes : (controlSystem control outsiders).Until (.consumer connection) choices _
      ((controlSystem control outsiders).program (.sendPing connection)) tick config.shared :=
    sendPing_until written small' (speaks_self attended.intact) here stores (slotToken_set entry)
      attended.asked
  obtain ⟨first, begun, ⟨idle, spoken⟩, others, leads⟩ := writes.started attended.idle
    (by simp [controlSystem, controlMayStart]) (consumer_party connection)
  have serves : (controlSystem control outsiders).Until (.sender (.handler connection)) choices
      (fun rest _ after => rest = waitingHandler control connection ∧
        after.sender.process = { config.shared.sender.process with
          lastSeen := Function.update config.shared.sender.process.lastSeen entry.address now } ∧
        Speaks connection { config.shared with sender := after.sender }
          (config.shared.links connection).talk after)
      (waitingHandler control connection) first begun.shared := by
    refine (servePing_alone settled constant known attended.live decoded short spoken rfl).until ?_
    rintro _ _ after ⟨rfl, touched, heard⟩
    refine .loop (.here ⟨rfl, touched, ?_⟩)
    rwa [show ([] : Bytes) = (config.shared.links connection).talk.asked
      from attended.asked.symm] at heard
  obtain ⟨last, served, ⟨waits, touched, heard⟩, others', leads'⟩ :=
    serves.leads ((others _ (by simp)).trans attended.waiting) (handler_party connection)
  have spoken : Speaks connection { config.shared with sender := served.shared.sender }
      { (config.shared.links connection).talk with
        confirmed := (config.shared.links connection).confirmed ++ [] } served.shared := by
    rw [List.append_nil]
    exact heard
  refine ⟨last, served, Granted.ofRefreshed attended (leads.trans leads')
    ((others' _ (by simp)).trans idle) waits spoken touched
    (fun _ _ => rfl) fun filter earlier found holds => ⟨filter, found, ?_⟩⟩
  rwa [List.append_nil]

theorem demand_granted (demand : Demand)
    (fits : ∃ encoded, demand.encode control (slotToken entry) = .ok encoded ∧
      encoded.length ≤ maxFrameSize) :
    ∃ later final, Granted control outsiders connection entry now choices
      (demand.asks (slotToken entry)).toList tick
        config later final ∧
      final.shared.sender.lastSeen entry.address = now := by
  obtain ⟨encoded, written, short⟩ := fits
  unfold Demand.encode at written
  cases asked : demand.asks (slotToken entry) with
  | some request =>
      rw [asked] at written
      exact subscribe_granted lawful small run settled constant attended asked written short
  | none =>
      rw [asked] at written
      exact sendPing_granted lawful run settled constant attended written short

end

end

end Qlaster
