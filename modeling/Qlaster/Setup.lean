import Qlaster.Wire

/-!
`setup_shm_consumer` keeps to the discipline: the first reply is read whole and the ring it
announces is opened, or the setup gives up, and for a reason.
-/

namespace Qlaster

open Interleaving Interleaving.Discipline LittleEndian PrefixCode

/-! What the frames mean. -/

section
variable {control : Control}

theorem asks_request (lawful : control.Lawful) {request : SubscriptionRequest} {encoded : Bytes}
    (set : ∀ token, request.slotToken = some token → token.slotIndex ≠ unsetSlotIndex)
    (written : request.encode control.wincode = .ok encoded) : asks control [encoded] = [request] ∧
      encoded ≠ [] := by
  obtain ⟨rest, rfl, decoded⟩ := SubscriptionRequest.encode_routed lawful.wincode written
  have kept : request.withSlotToken
      (request.slotToken.filter fun token => token.slotIndex ≠ unsetSlotIndex) = request := by
    obtain ⟨token, pubkeys, owners, transactions⟩ := request
    cases token with
    | none => rfl
    | some token => simp [SubscriptionRequest.withSlotToken, Option.filter, set token rfl]
  rw [kept] at decoded
  simp [asks, decoded]

theorem asks_ping (lawful : control.Lawful) {ping : PingRequest} {encoded : Bytes}
    (written : ping.encode control.wincode = .ok encoded) : asks control [encoded] = [] := by
  obtain ⟨rest, rfl, decoded⟩ := PingRequest.encode_routed lawful.wincode written
  by_cases unset : ping.slotToken.slotIndex = unsetSlotIndex <;> simp [asks, decoded, unset, fail]

theorem control_codecs (control : Control) :
    control.sender.codecs = ⟨control.sender.codecs.lz4, control.wincode.toWincode⟩ := by
  rw [← control.same]

theorem ringPath_said (keeps : KeepsText control.toStringLossy)
    (named : ∃ text, utf8 text = control.sender.shmDir)
    (slotIndex : SlotIndex) (connectionId : UInt64) :
    utf8 (control.toStringLossy (control.sender.ringPath slotIndex connectionId)) =
      control.sender.ringPath slotIndex connectionId := by
  obtain ⟨dir, named⟩ := named
  obtain ⟨text, same⟩ := ringOsPath_text dir control.sender.pid slotIndex connectionId
  rw [named] at same
  rw [Sender.ringPath, ← same, keeps]

def replyFrame (control : Control) : ShmSlotProvision → ServerFrame
  | .existing token => .connectionReady ⟨token⟩
  | .created token path capacity _ =>
      .connectionReadyShm ⟨token, control.toStringLossy path, UInt64.ofNat capacity⟩

theorem replyPayload_decoded (lawful : control.Lawful) {provision : ShmSlotProvision}
    {payload : Bytes} (encoded : replyPayload control provision = .ok payload) {frame : ServerFrame}
    (decoded : decodeServerFrame control.sender.codecs payload = .ok frame) :
    frame = replyFrame control provision ∧
      ∀ ready, frame = .connectionReadyShm ready → ready.slotToken.slotIndex ≠ unsetSlotIndex := by
  rw [control_codecs] at decoded
  cases provision with
  | existing token =>
      obtain ⟨-, -, routed⟩ := ConnectionReady.encode_routed lawful.wincode
        control.sender.codecs.lz4 encoded
      rw [routed] at decoded
      split at decoded
      · simp [fail] at decoded
      · obtain rfl := Except.ok.inj decoded
        exact ⟨rfl, by simp⟩
  | created token path capacity eventfd =>
      obtain ⟨-, -, routed⟩ := ConnectionReadyShm.encode_routed lawful.wincode
        control.sender.codecs.lz4 encoded
      rw [routed] at decoded
      repeat' split at decoded
      all_goals simp [fail] at decoded
      rename_i set _ _
      subst decoded
      refine ⟨rfl, ?_⟩
      rintro ready same
      obtain rfl := ServerFrame.connectionReadyShm.inj same
      exact set

theorem replyPayload_ready (lawful : control.Lawful) {provision : ShmSlotProvision}
    {payload : Bytes}
    (encoded : replyPayload control provision = .ok payload) {ready : ConnectionReady}
    (decoded : decodeServerFrameOwned control.sender.codecs payload = .ok
      (.connectionReady ready)) :
    provision = .existing ready.slotToken := by
  rw [decodeServerFrameOwned_eq] at decoded
  obtain ⟨same, -⟩ := replyPayload_decoded lawful encoded decoded
  cases provision with
  | existing token => rw [ServerFrame.connectionReady.inj same]
  | created token path capacity eventfd => simp [replyFrame] at same

theorem recvFrameWithFd_part {received payload bytes : Bytes} (small : payload.length < 2 ^ 32)
    (part : received <+: frameBytes payload) (read : recvFrameWithFd received = .ok bytes) :
    received = frameBytes payload ∧ bytes = payload := by
  -- A part of a message is taken for a frame only if it is all of it.
  simp only [recvFrameWithFd] at read
  split at read
  · simp [fail] at read
  split at read
  · simp [fail] at read
  rename_i enough
  obtain ⟨body, rfl, body'⟩ : ∃ body, received = frameHeader payload ++ body ∧
      body <+: payload := by
    have header : frameHeader payload <+: received :=
      List.prefix_of_prefix_length_le (List.prefix_append _ _) part (by simp; omega)
    obtain ⟨body, rfl⟩ := header
    exact ⟨body, rfl, (List.prefix_append_right_inj _).mp part⟩
  have field : (u32FromLeBytes (((frameHeader payload ++ body) ++
      List.replicate (ancillaryRecvBuf - (frameHeader payload ++ body).length) 0).take 4)).toNat =
      payload.length := by
    rw [List.append_assoc, List.take_left' (by simp), frameHeader_size small]
  rw [field] at read
  split at read
  · simp [fail] at read
  rename_i whole
  have same : body = payload := by
    refine body'.eq_of_length_le ?_
    simp at whole
    omega
  subst same
  refine ⟨rfl, ?_⟩
  simp only [indexRange] at read
  split at read
  · have read := Except.ok.inj read
    rw [← read, List.append_assoc, List.drop_left' (by simp), Nat.add_sub_cancel_left,
      List.take_left]
  · simp at read

theorem adoptRing_announced (lawful : control.Lawful) {provision : ShmSlotProvision}
    {payload received : Bytes}
    (encoded : replyPayload control provision = .ok payload) (small : payload.length < 2 ^ 32)
    (part : received <+: frameBytes payload) {fdOpt : Option Nat} {opened : OpenedRing}
    (adopted : adoptRing control.sender.codecs received fdOpt = .ok opened) :
    received = frameBytes payload ∧ ∃ token path capacity eventfd,
      provision = .created token path capacity eventfd ∧ opened.slotToken = token ∧
      token.slotIndex ≠ unsetSlotIndex ∧ opened.ringPath = utf8 (control.toStringLossy path) := by
  obtain ⟨readyBytes, read, routing⟩ := bind_ok adopted
  obtain ⟨whole, rfl⟩ := recvFrameWithFd_part small part read
  refine ⟨whole, ?_⟩
  obtain ⟨frame, decoded, opens⟩ := bind_ok routing
  obtain ⟨rfl, set⟩ := replyPayload_decoded lawful encoded decoded
  cases provision with
  | existing token => simp [replyFrame, fail] at opens
  | created token path capacity eventfd =>
      refine ⟨token, path, capacity, eventfd, rfl, ?_⟩
      cases fdOpt with
      | none => simp [replyFrame, fail] at opens
      | some fd =>
          obtain rfl := Except.ok.inj opens
          exact ⟨rfl, set _ rfl, rfl⟩

theorem adoptRing_fits (lawful : control.Lawful) (fits : control.Fits) {token : SlotToken}
    {entry : ManagedConnection} (named : slotToken entry = token)
    (path : entry.sink.path = control.sender.ringPath entry.slotIndex entry.connectionId)
    {eventfd : Nat} {payload : Bytes} (encoded : replyPayload control
      (.created token entry.sink.path control.sender.ringCapacity eventfd) = .ok payload) :
    ∃ opened, adoptRing control.sender.codecs ((frameBytes payload).take ancillaryRecvBuf)
      (some eventfd) = .ok opened := by
  have each : ∀ index : SlotIndex, UInt8.ofNat index.val ≠ unsetSlotIndex := by decide
  have set : token.slotIndex ≠ unsetSlotIndex := by
    rw [← named]
    exact each entry.slotIndex
  have text := ringPath_said lawful.keepsText fits.text entry.slotIndex entry.connectionId
  rw [← path] at text
  have nonempty : control.toStringLossy entry.sink.path ≠ "" := by
    intro none
    rw [none, path] at text
    exact ringOsPath_ne_nil _ _ _ _ text.symm
  have short := fits.reply entry.slotIndex entry.connectionId
  rw [← path, ← text] at short
  have shaken := handshake_text control.sender.codecs.lz4 lawful.wincode lawful.shmSized
    lawful.keepsText set nonempty fits.capacity eventfd short
  rw [text] at shaken
  obtain ⟨message, announced, adopted⟩ := bind_ok shaken
  obtain ⟨written, same, framed⟩ := bind_ok announced
  obtain rfl := Except.ok.inj (same.symm.trans encoded)
  obtain rfl := sendFrameWithFd_ok framed
  rw [control_codecs]
  exact ⟨_, adopted⟩

end

section
variable {control : Control} {outsiders : Bool} {connection : Nat}

theorem client_stable {assertion : Link → Prop}
    (kept : ∀ before after, ClientKeeps control before after → assertion before → assertion after) :
    (controlling control outsiders).Stable (.consumer connection) fun state =>
      assertion (state.links connection) :=
  controlling_stable fun _ _ leaves => kept _ _ (leaves.client connection rfl)

/-! Setting up. -/

/-- The first request, of which `left` is still to be written, and what was read of its reply. -/
structure Setup (encoded left : Bytes) (taken : Nat) (link : Link) : Prop where
  waiting : link.consumer = none
  connected : link.connected = true
  sent : link.sent = [encoded]
  written : link.requests.written ++ left = frameBytes encoded
  closed : link.requests.closed = false
  exchanges : link.exchanges = []
  taken : link.replies.taken = taken

structure GivingUp (control : Control) (connection : Nat) (state : ControlState) : Prop where
  waiting : (state.links connection).consumer = none
  connected : (state.links connection).connected = true
  excused : Excused control state.sender (state.links connection)

theorem setup_stable (encoded left : Bytes) (taken : Nat) :
    (controlling control outsiders).Stable (.consumer connection)
      fun state => Setup encoded left taken (state.links connection) := by
  refine client_stable fun before after keeps setup => ?_
  refine ⟨keeps.consumer.trans setup.waiting, keeps.connected.trans setup.connected,
    keeps.sent.trans setup.sent, ?_,
    keeps.closed.trans setup.closed, keeps.exchanges.trans setup.exchanges,
      keeps.taken.trans setup.taken⟩
  rw [keeps.written]
  exact setup.written

theorem givingUp_stable :
    (controlling control outsiders).Stable (.consumer connection)
    (GivingUp control connection) := by
  refine controlling_stable fun before after leaves givingUp => ?_
  have keeps := leaves.client connection rfl
  refine ⟨keeps.consumer.trans givingUp.waiting, keeps.connected.trans givingUp.connected, ?_⟩
  rcases givingUp.excused with ⟨side, ill⟩ | refused | ⟨closed, none⟩ | unfit | ⟨eventfd, announced,
    removed, all⟩
  · exact .inl ⟨side, keeps.ill side ill⟩
  · exact .inr (.inl (keeps.refused.trans refused))
  · exact .inr (.inr (.inl ⟨(keeps.hungUp closed).1, (keeps.hungUp closed).2.trans none⟩))
  · exact .inr (.inr (.inr (.inl unfit)))
  · refine .inr
      (.inr (.inr
      (.inr ⟨eventfd, (keeps.settled all).trans announced, leaves.grows.removed.subset removed,
      ?_⟩)))
    rw [keeps.sent]
    exact all.trans keeps.answers.length_le

theorem Setup.silent {encoded left : Bytes} {taken : Nat} {link : Link} {state : SenderState}
    (setup : Setup encoded left taken link) (more : left ≠ []) (inv : LinkInv control state link) :
    link.replies.written = [] := by
  -- Nothing is replied to a request that was not sent whole.
  have none : link.answers = [] := by
    by_contra answered
    obtain ⟨first, rest, sent, whole⟩ := inv.heard answered
    rw [setup.sent] at sent
    obtain ⟨rfl, rfl⟩ := List.cons.inj sent
    have length := congrArg List.length setup.written
    rw [List.length_append] at length
    have positive := List.length_pos_iff.mpr more
    omega
  have framed := inv.replies.framed
  simpa [none] using framed

theorem setupWrite_triple (encoded bytes left : Bytes) (more : bytes ≠ []) :
    (controlling control outsiders).Triple (.consumer connection)
      (fun state => Setup encoded (bytes ++ left) 0 (state.links connection))
      (onLink connection (call (.writeAll .client bytes) .io))
      (Settled (fun _ state => Setup encoded left 0 (state.links connection))
        (GivingUp control connection)) := by
  refine writeAll_triple .client (setup_stable _ _ _) (setup_stable _ _ _)
    givingUp_stable ?_ ?_ ?_ ?_
  · intro state inv setup
    refine .inr (.inr ?_)
    rw [setup.sent, framesBytes_cons, framesBytes_nil, List.append_nil, ← setup.written,
      ← List.append_assoc]
    exact List.prefix_append _ _
  · intro state inv setup _ _
    simp only [ControlState.setLink_links]
    refine ⟨setup.waiting, setup.connected, setup.sent, ?_, setup.closed,
      setup.exchanges, setup.taken⟩
    rw [← setup.written]
    simp [Link.put]
  · intro state inv setup closed
    have silent := setup.silent (by simp [more]) (inv.links connection)
    exact ⟨setup.waiting, setup.connected, .inr (.inr (.inl ⟨closed, silent⟩))⟩
  · intro state count inv setup ill
    refine ⟨?_, ?_, .inl ⟨.client, ?_⟩⟩
    all_goals simp only [ControlState.setLink_links]
    · rw [Link.spoil_consumer, setup.waiting]
    · rw [Link.spoil_connected, setup.connected]
    · simp [spoil_failed ill]

def Received (encoded received : Bytes) (fdOpt : Option Nat) (link : Link) : Prop :=
  Setup encoded [] received.length link ∧
    (received = [] ∧ link.replies.closed = true ∧ link.replies.written = [] ∨
      ∃ answer, [answer] <+: link.answers ∧ received <+: frameBytes answer.payload ∧
        fdOpt = answer.eventfd ∧ (received = (frameBytes answer.payload).take ancillaryRecvBuf ∨
          link.health .server ≠ .sound))

theorem received_stable (encoded received : Bytes) (fdOpt : Option Nat) :
    (controlling control outsiders).Stable (.consumer connection)
      fun state => Received encoded received fdOpt (state.links connection) := by
  refine Stable.and (setup_stable _ _ _) (controlling_stable fun before after leaves holds => ?_)
  have keeps := leaves.client connection rfl
  rcases holds with ⟨none, closed, written⟩ | ⟨answer, first, part, attached, whole⟩
  · exact .inl ⟨none, (keeps.hungUp closed).1, (keeps.hungUp closed).2.trans written⟩
  · exact .inr ⟨answer, first.trans keeps.answers, part, attached, whole.imp_right (keeps.ill _)⟩

theorem recvmsg_triple (encoded : Bytes) {convert : String → QlasterError} :
    (controlling control outsiders).Triple (.consumer connection)
      (fun state => Setup encoded [] 0 (state.links connection))
      (onLink connection (call .recvmsg convert))
      (Settled (fun received state => Received encoded received.1 received.2
        (state.links connection)) (GivingUp control connection)) := by
  refine call_triple rfl (setup_stable _ _ _) (fun _ => received_stable _ _ _) givingUp_stable
    (fun _ _ _ => trivial) ?_ ?_
  · intro choice state received link inv setup executed
    have inv := inv.links connection
    have unread :
        (state.links connection).replies.unread = (state.links connection).replies.written := by
      simp [Pipe.unread, setup.taken]
    simp only [Link.exec, unread] at executed
    repeat' split at executed
    all_goals simp only [reduceCtorEq, Option.some.injEq, Prod.mk.injEq, false_and] at executed
    · rename_i some
      obtain ⟨same, rfl⟩ := executed
      obtain rfl := Except.ok.inj same
      have framed := inv.replies.framed
      obtain ⟨answer, member⟩ : ∃ answer, answer ∈ (state.links connection).answers := by
        refine List.exists_mem_of_ne_nil _ fun none => some ?_
        simpa [none] using framed
      obtain ⟨only, -⟩ := inv.begins setup.waiting member
      have beginning := inv.beginning setup.waiting
      simp only [ControlState.setLink_links]
      refine ⟨?_, .inr ⟨answer, ?_, ?_, beginning.attached setup.taken some answer member, ?_⟩⟩
      · exact ⟨setup.waiting, setup.connected, setup.sent, setup.written, setup.closed,
          setup.exchanges, by simp [Link.take, setup.taken]⟩
      · simp [Link.take, only]
      · rw [only] at framed
        exact (List.take_prefix _ _).trans (by simpa using framed)
      · rcases beginning.whole with none | whole | ill
        · exact absurd none some
        · refine .inl ?_
          rw [whole, only]
          simp
        · exact .inr ill
    · rename_i none closed
      obtain ⟨same, rfl⟩ := executed
      obtain rfl := Except.ok.inj same
      simp only [ControlState.setLink_links]
      exact ⟨setup, .inl ⟨rfl, closed, not_not.mp none⟩⟩
  · intro choice state error link inv setup executed
    simp only [Link.exec] at executed
    repeat' split at executed
    all_goals simp only [reduceCtorEq, Option.some.injEq, Prod.mk.injEq, false_and] at executed
    rename_i ill
    obtain ⟨-, rfl⟩ := executed
    refine ⟨?_, ?_, ?_⟩
    all_goals simp only [ControlState.setLink_links]
    · exact setup.waiting
    · exact setup.connected
    · exact .inl ⟨.client, ill⟩

def Adopting (control : Control) (encoded : Bytes) (opened : OpenedRing) (eventfd : Nat)
    (link : Link) : Prop :=
  ∃ answer token path capacity, Setup encoded [] (frameBytes answer.payload).length link ∧
    [answer] <+: link.answers ∧ answer.provision = .created token path capacity eventfd ∧
    opened.slotToken = token ∧ token.slotIndex ≠ unsetSlotIndex ∧
      opened.ringPath = utf8 (control.toStringLossy path)

theorem adopting_stable (encoded : Bytes) (opened : OpenedRing) (eventfd : Nat) :
    (controlling control outsiders).Stable (.consumer connection)
      fun state => Adopting control encoded opened eventfd (state.links connection) := by
  refine Stable.exists fun answer => Stable.exists fun token => Stable.exists fun path =>
    Stable.exists fun capacity => Stable.and (setup_stable _ _ _) ?_
  exact controlling_stable fun _ _ leaves holds =>
    ⟨holds.1.trans (leaves.client connection rfl).answers, holds.2⟩

theorem adopted_stable (given : Prop) (eventfd : Nat) :
    (controlling control outsiders).Stable (.consumer connection) fun state => given →
      eventfd ∈ state.adopted :=
  controlling_stable fun _ _ leaves holds fits => leaves.adopted (holds fits)

theorem LinkInv.made {state : SenderState} {link : Link} (inv : LinkInv control state link)
    {answer : Answer}
    (member : answer ∈ link.answers) {token : SlotToken} {path : Path} {capacity eventfd : Nat}
    (created : answer.provision = .created token path capacity eventfd) :
    capacity = control.sender.ringCapacity ∧
      ∃ entry ∈ state.installed, entry.address = eventfd ∧ slotToken entry = token ∧
        entry.sink.path = path := by
  have answered := inv.answered answer member
  have answers := answered.answers
  have provisioned := answered.provisioned
  rw [created] at answers provisioned
  exact ⟨answers, provisioned⟩

theorem adopt_triple (lawful : control.Lawful) (encoded received : Bytes) (fdOpt : Option Nat) :
    (controlling control outsiders).Triple (.consumer connection)
      (fun state => Received encoded received fdOpt (state.links connection))
      (onLink connection (settle (adoptRing control.sender.codecs received fdOpt)))
      (Settled (fun opened state => ∃ eventfd, Adopting control encoded opened eventfd
        (state.links connection) ∧
          fdOpt = some eventfd)
        (GivingUp control connection)) := by
  refine triple_weaken (settle_triple _ (received_stable _ _ _)) (fun _ _ holds => holds) ?_
  rintro (error | opened) state inv holds
  · obtain ⟨⟨setup, received⟩, failed, wrong⟩ := holds
    have link := inv.links connection
    refine ⟨setup.waiting, setup.connected, ?_⟩
    rcases received with ⟨-, closed, none⟩ | ⟨answer, first, -, attached, whole | ill⟩
    · exact .inr (.inr (.inl ⟨closed, none⟩))
    · refine .inr (.inr (.inr (.inl fun fits => ?_)))
      have member := first.subset (List.mem_singleton_self answer)
      obtain ⟨-, -, token, path, capacity, eventfd, created⟩ := link.begins setup.waiting member
      obtain ⟨rfl, entry, installed, rfl, named, rfl⟩ := link.made member created
      have payload := (link.answered answer member).encoded
      rw [created] at payload
      obtain ⟨opened, adopted⟩ :=
        adoptRing_fits lawful fits named (inv.sender.described.path entry installed).2 payload
      rw [whole, attached, Answer.eventfd, created] at wrong
      simp only [createdEventfd] at wrong
      rw [adopted] at wrong
      simp at wrong
    · exact .inl ⟨.server, ill⟩
  · obtain ⟨⟨setup, received⟩, adopted⟩ := holds
    have link := inv.links connection
    rcases received with ⟨rfl, -, -⟩ | ⟨answer, first, part, attached, -⟩
    · simp [adoptRing, recvFrameWithFd, fail, bind, Except.bind] at adopted
    · have member := first.subset (List.mem_singleton_self answer)
      have answered := link.answered answer member
      have replied : answer.payload ∈ (state.links connection).frames .client :=
        List.mem_map_of_mem member
      obtain ⟨rfl, token, path, capacity, eventfd, created, named, set, path'⟩ :=
        adoptRing_announced lawful answered.encoded (link.small replied) part adopted
      refine ⟨eventfd, ⟨answer, token, path, capacity, setup, first, created, named, set, path'⟩,
        ?_⟩
      rw [attached, Answer.eventfd, created]
      rfl

theorem Setup.refused {encoded : Bytes} {taken : Nat} {state : ControlState}
    (setup : Setup encoded [] taken (state.links connection)) (adopted : List Nat) :
    GivingUp control connection
      { state.setLink connection { state.links connection with refused := true } with adopted := adopted } := by
  refine ⟨?_, ?_, .inr (.inl ?_)⟩
  all_goals simp only [ControlState.setLink_links]
  · exact setup.waiting
  · exact setup.connected

theorem openAnnounced_triple (lawful : control.Lawful) {encoded : Bytes}
    (asked : asks control [encoded] = [bootstrap]) (opened : OpenedRing) (eventfd : Nat)
    {convert : String → QlasterError} :
    (controlling control outsiders).Triple (.consumer connection)
      (fun state => Adopting control encoded opened eventfd (state.links connection))
      (onLink connection (call (.openRing opened.ringPath) convert))
      (Settled (fun _ state => Adopting control encoded opened eventfd (state.links connection))
        (GivingUp control connection)) := by
  refine call_triple rfl (adopting_stable _ _ _) (fun _ => adopting_stable _ _ _) givingUp_stable
    (fun _ _ _ => trivial) ?_ ?_
  · intro choice state _ link inv adopting executed
    obtain ⟨-, rfl⟩ := Link.onFile_ok executed
    simpa only [ControlState.setLink_links] using adopting
  · intro choice state error link inv adopting executed
    obtain ⟨answer, token, path, capacity, setup, first, created, -, -, named⟩ := adopting
    have member := first.subset (List.mem_singleton_self answer)
    rcases Link.onFile_error executed with rfl | ⟨absent, rfl⟩
    · exact setup.refused _
    have missing : opened.ringPath ∉ state.sender.files := by
      intro present
      rw [if_pos present] at absent
      simp at absent
    refine ⟨?_, ?_, ?_⟩
    all_goals simp only [ControlState.setLink_links, ControlState.setLink_sender]
    · exact setup.waiting
    · exact setup.connected
    by_cases fits : control.Fits
    · refine .inr (.inr (.inr (.inr ⟨eventfd, ?_, ?_, ?_⟩)))
      · rw [((inv.links connection).beginning setup.waiting).announced answer member,
          Answer.eventfd, created]
        rfl
      · -- Its file is gone, so it is no longer in the table.
        obtain ⟨-, entry, installed, rfl, -, rfl⟩ := (inv.links connection).made member created
        refine (inv.sender.tabled.kept entry installed).resolve_left fun here => missing ?_
        have linked := inv.sender.owned.tabled _ entry here
        have present := inv.sender.filed.present entry.address
          (inv.sender.owned.numbered entry installed) linked
        obtain ⟨held, formed⟩ := inv.sender.described.path entry installed
        rw [← held] at present
        rwa [named, formed, ringPath_said lawful.keepsText fits.text, ← formed]
      · rw [setup.sent, asked]
        exact List.length_pos_iff.mpr (List.ne_nil_of_mem member)
    · exact .inr (.inr (.inr (.inl fits)))

theorem joinAnnounced_triple (lawful : control.Lawful) {encoded : Bytes} (opened : OpenedRing)
    (eventfd : Nat) {convert : String → QlasterError} :
    (controlling control outsiders).Triple (.consumer connection)
      (fun state => Adopting control encoded opened eventfd (state.links connection))
      (onLink connection (call (.joinRing opened.ringPath (some eventfd)) convert))
      (Settled (fun _ state => Adopting control encoded opened eventfd (state.links connection) ∧
          (control.Fits → eventfd ∈ state.adopted))
        (GivingUp control connection)) := by
  refine call_triple rfl (adopting_stable _ _ _)
    (fun _ => (adopting_stable _ _ _).and (adopted_stable _ _))
    givingUp_stable (fun _ _ _ => trivial) ?_ ?_
  · intro choice state _ link inv adopting executed
    obtain ⟨-, rfl⟩ := Link.onFile_ok executed
    simp only [ControlState.setLink_links]
    refine ⟨adopting, fun fits => ?_⟩
    obtain ⟨answer, token, path, capacity, setup, first, created, -, -, named⟩ := adopting
    have member := first.subset (List.mem_singleton_self answer)
    obtain ⟨-, entry, installed, rfl, -, rfl⟩ := (inv.links connection).made member created
    obtain ⟨held, formed⟩ := inv.sender.described.path entry installed
    have same : state.sender.paths entry.address = opened.ringPath := by
      rw [named, formed, ringPath_said lawful.keepsText fits.text, ← formed, held]
    simp [ControlState.adopts, same]
  · intro choice state error link inv adopting executed
    obtain ⟨answer, token, path, capacity, setup, -⟩ := adopting
    rcases Link.onFile_error executed with rfl | ⟨granted, -⟩
    · exact setup.refused _
    · simp at granted

def Opened (control : Control) (connection : Nat) (consumer : ShmConsumer) (state : ControlState) :
    Prop :=
  ∃ encoded opened eventfd, (Adopting control encoded opened eventfd (state.links connection) ∧
      (control.Fits → eventfd ∈ state.adopted)) ∧
    asks control [encoded] = [bootstrap] ∧ consumer = .new opened

theorem opened_stable (consumer : ShmConsumer) :
    (controlling control outsiders).Stable (.consumer connection)
    (Opened control connection consumer) := by
  exact Stable.exists fun encoded => Stable.exists fun opened => Stable.exists fun eventfd =>
    ((adopting_stable _ _ _).and (adopted_stable _ _)).and (Stable.const _)

def Connected (link : Link) : Prop := link.consumer = none ∧ link.connected = true ∧ Unsent link

theorem connected_stable :
    (controlling control outsiders).Stable (.consumer connection) fun state =>
      Connected (state.links connection) :=
  client_stable fun _ _ keeps holds =>
    ⟨keeps.consumer.trans holds.1, keeps.connected.trans holds.2.1, holds.2.2.keeps keeps⟩

theorem firstRequest_triple {encoded : Bytes} (asked : asks control [encoded] = [bootstrap])
    (some : encoded ≠ []) (written : bootstrap.encode control.wincode = .ok encoded) :
    (controlling control outsiders).Triple (.consumer connection)
      (fun state => Connected (state.links connection))
      (onLink connection (writeFramed .client encoded (.sending encoded)))
      (Settled (fun _ state => Setup encoded [] 0 (state.links connection))
        (GivingUp control connection)) := by
  unfold writeFramed
  split
  · rename_i large
    refine triple_done givingUp_stable ?_
    rintro state inv ⟨waiting, connected, -⟩
    refine ⟨waiting, connected, .inr (.inr (.inr (.inl fun fits => ?_)))⟩
    have small := fits.request encoded written
    omega
  · rename_i small
    have noted : (controlling control outsiders).Triple (.consumer connection)
        (fun state => Connected (state.links connection))
        (onLink connection (.perform (.note (.sending encoded))))
        fun _ state => Setup encoded (frameHeader encoded ++ encoded) 0
          (state.links connection) := by
      refine link_triple rfl connected_stable (fun _ => setup_stable _ _ _) ?_ ?_
      · rintro state inv ⟨waiting, connected, unsent⟩
        refine ⟨by omega, fun _ => ?_⟩
        rw [unsent.sent, List.nil_append, asked]
      · rintro choice state _ link inv ⟨waiting, connected, unsent⟩ executed
        obtain ⟨-, rfl⟩ := Prod.mk.inj (Option.some.inj executed)
        simp only [ControlState.setLink_links]
        refine ⟨waiting, connected, ?_, ?_, unsent.closed, unsent.exchanges, unsent.taken⟩
        · simp [Link.record, unsent.sent]
        · simp [Link.record, unsent.written, frameBytes]
    have header : frameHeader encoded ≠ [] := List.ne_nil_of_length_pos (by simp)
    rw [Program.bind_eq, onLink_bind]
    refine triple_bind noted fun _ => attempt_triple (fun _ => givingUp_stable)
      (setupWrite_triple encoded (frameHeader encoded) encoded header) (fun _ _ _ holds => holds)
        fun _ => ?_
    refine triple_weaken (setupWrite_triple encoded encoded [] some) (fun _ _ holds => ?_)
      fun _ _ _ holds => holds
    rwa [List.append_nil]

theorem shakeHands_triple (lawful : control.Lawful) :
    (controlling control outsiders).Triple (.consumer connection)
      (fun state => Connected (state.links connection)) (onLink connection (shakeHands control))
      (Settled (Opened control connection) (GivingUp control connection)) := by
  have givesUp : ∀ error : QlasterError, (controlling control outsiders).Stable
    (.consumer connection)
      (Settled (Opened control connection) (GivingUp control connection) (.error error)) := fun _ =>
        givingUp_stable
  refine attempt_triple givesUp (settle_triple _ connected_stable) ?_ fun encoded =>
    triple_fact fun written => ?_
  · rintro error state inv ⟨-, failed, impossible⟩
    obtain ⟨encoded, written⟩ := bootstrap.encodes lawful.wincode ⟨by decide, by decide⟩
    simp [written] at impossible
  obtain ⟨asked, some⟩ := asks_request lawful (by simp [bootstrap, SubscriptionRequest.new]) written
  refine attempt_triple givesUp (firstRequest_triple asked some written) (fun _ _ _ holds => holds)
    fun _ => ?_
  refine attempt_triple givesUp (recvmsg_triple encoded) (fun _ _ _ holds => holds) fun received =>
    ?_
  refine attempt_triple givesUp (adopt_triple lawful encoded received.1 received.2)
    (fun _ _ _ holds => holds)
    fun opened => triple_exists fun eventfd => triple_fact fun attached => ?_
  rw [attached]
  refine attempt_triple givesUp (openAnnounced_triple lawful asked opened eventfd)
    (fun _ _ _ holds => holds) fun _ => ?_
  refine attempt_triple givesUp (joinAnnounced_triple lawful opened eventfd)
    (fun _ _ _ holds => holds) fun _ => ?_
  exact triple_done (opened_stable _) fun _ _ holds => ⟨encoded, opened, eventfd, holds, asked, rfl⟩

theorem install_triple (consumer : ShmConsumer) :
    (controlling control outsiders).Triple (.consumer connection)
    (Opened control connection consumer)
      (onLink connection (.perform (.install consumer)))
      fun _ => controlRest control (.consumer connection) := by
  refine link_triple rfl (opened_stable _) (fun _ => stable_rest) ?_ ?_
  · rintro state inv ⟨encoded, opened, eventfd, ⟨adopting, adopted⟩, -, rfl⟩
    obtain ⟨answer, token, path, capacity, setup, first, created, named, set, path'⟩ := adopting
    refine ⟨setup.waiting, ⟨rfl, rfl, by rwa [ShmConsumer.new, named],
      answer, token, path, capacity, eventfd, first, created, named, path'⟩, ?_⟩
    have member := first.subset (List.mem_singleton_self answer)
    rw [((inv.links connection).beginning setup.waiting).announced answer member,
      Answer.eventfd, created]
    simpa [createdEventfd] using adopted
  · rintro choice state _ link inv
      ⟨encoded, opened, eventfd, ⟨⟨answer, token, path, capacity, setup, first, -⟩, -⟩,
      asked, rfl⟩ executed
    obtain ⟨-, rfl⟩ := Prod.mk.inj (Option.some.inj executed)
    simp only [controlRest, ClientRest, ControlState.setLink_links]
    refine ⟨setup.connected,
      ⟨.inr (.inr ?_), .inr (.inr ⟨⟨[bootstrap], ?_, ?_⟩, [answer], first, ?_, ?_⟩)⟩⟩
    · simpa [setup.sent] using setup.written
    · simp [setup.sent, asked]
    · simp [setup.exchanges]
    · simp [setup.exchanges]
    · simpa using setup.taken

theorem giveUp_triple :
    (controlling control outsiders).Triple (.consumer connection) (GivingUp control connection)
      (onLink connection (.perform (.drop .client))) fun _ =>
        controlRest control (.consumer connection) := by
  refine link_triple rfl givingUp_stable (fun _ => stable_rest)
    (fun _ _ holds => ⟨holds.waiting, holds.excused⟩) ?_
  intro choice state _ link inv givingUp executed
  obtain ⟨-, rfl⟩ := Prod.mk.inj (Option.some.inj executed)
  simp only [controlRest, ClientRest, ControlState.setLink_links, Link.hangUp, givingUp.waiting]
  exact .inl ⟨givingUp.connected, trivial⟩

theorem connect_triple {convert : String → QlasterError} :
    (controlling control outsiders).Triple (.consumer connection)
    (controlRest control (.consumer connection))
      (onLink connection (call .connect convert))
      (Settled (fun _ state => Connected (state.links connection))
        (controlRest control (.consumer connection))) := by
  have fresh : ∀ {link : Link}, ClientRest control link → link.connected = false →
      link.consumer = none ∧ Unsent link := by
    intro link rest unconnected
    unfold ClientRest at rest
    split at rest
    · rename_i waiting
      rcases rest with ⟨connected, -⟩ | ⟨-, unsent⟩
      · simp [unconnected] at connected
      · exact ⟨waiting, unsent⟩
    · simp [unconnected] at rest
  refine call_triple rfl stable_rest (fun _ => connected_stable) stable_rest
    (fun _ _ _ => trivial) ?_ ?_
  · intro choice state _ link inv rest executed
    simp only [Link.exec] at executed
    repeat' split at executed
    all_goals simp only [reduceCtorEq, Option.some.injEq, Prod.mk.injEq, false_and,
      true_and] at executed
    rename_i unconnected _ _
    subst executed
    simp only [ControlState.setLink_links]
    obtain ⟨waiting, unsent⟩ := fresh rest (by simpa using unconnected)
    exact ⟨waiting, rfl, { unsent with }⟩
  · intro choice state error link inv rest executed
    simp only [Link.exec] at executed
    repeat' split at executed
    all_goals simp only [reduceCtorEq, Option.some.injEq, Prod.mk.injEq, false_and] at executed
    obtain ⟨-, rfl⟩ := executed
    simpa [controlRest, ControlState.setLink, ControlState.adopts] using rest

theorem setup_triple (lawful : control.Lawful) :
    (controlling control outsiders).Triple (.consumer connection)
    (controlRest control (.consumer connection))
      (onLink connection (setupShmConsumer control)) fun _ =>
        controlRest control (.consumer connection) := by
  refine attempt_triple (fun _ => stable_rest) connect_triple (fun _ _ _ holds => holds) fun _ => ?_
  rw [onLink_bind]
  refine triple_bind (shakeHands_triple lawful) fun result => ?_
  cases result with
  | ok consumer =>
      simp only [Program.bind_eq, onLink_bind]
      exact triple_bind (install_triple consumer) fun _ => triple_done stable_rest fun _ _ holds =>
        holds
  | error error =>
      simp only [Program.bind_eq, onLink_bind]
      exact triple_bind giveUp_triple fun _ => triple_done stable_rest fun _ _ holds => holds

end

end Qlaster
