import Qlaster.Calling
import Qlaster.Handshake
import Qlaster.LinkCore

/-!
The invariant of a control socket: everything written to it is the beginning of a sequence
of frames, and the handler answers the subscriptions in the order they were sent.
-/

namespace Qlaster

open Interleaving Interleaving.Discipline LittleEndian PrefixCode

/-! Frames in a stream. -/

def frameBytes (payload : Bytes) : Bytes := frameHeader payload ++ payload

def framesBytes (payloads : List Bytes) : Bytes := payloads.flatMap frameBytes

theorem sendFrameWithFd_ok {payload message : Bytes}
    (framed : sendFrameWithFd payload = .ok message) : message = frameBytes payload := by
  unfold sendFrameWithFd fail at framed
  split at framed
  · simp at framed
  · exact (Except.ok.inj framed).symm

@[simp] theorem frameHeader_length (payload : Bytes) : (frameHeader payload).length = 4 := by
  simp [frameHeader]

@[simp] theorem frameBytes_length (payload : Bytes) :
    (frameBytes payload).length = 4 + payload.length := by
  simp [frameBytes]

@[simp] theorem framesBytes_nil : framesBytes [] = [] := rfl

@[simp] theorem framesBytes_append (first second : List Bytes) :
    framesBytes (first ++ second) = framesBytes first ++ framesBytes second := by
  simp [framesBytes]

@[simp] theorem framesBytes_cons (payload : Bytes) (rest : List Bytes) :
    framesBytes (payload :: rest) = frameBytes payload ++ framesBytes rest := by
  simp [framesBytes]

theorem framesBytes_ne_nil {payloads : List Bytes} (some : payloads ≠ []) :
    framesBytes payloads ≠ [] := by
  obtain ⟨payload, rest, rfl⟩ := List.exists_cons_of_ne_nil some
  intro none
  have length := congrArg List.length none
  simp [framesBytes] at length

theorem framesBytes_mono {first second : List Bytes} (begins : first <+: second) :
    framesBytes first <+: framesBytes second := by
  obtain ⟨rest, rfl⟩ := begins
  rw [framesBytes_append]
  exact List.prefix_append _ _

theorem slice_read {written whole front slice back : Bytes} (framed : written <+: whole)
    (cut : whole = front ++ slice ++ back)
    (enough : slice.length ≤ (written.drop front.length).length) :
    (written.drop front.length).take slice.length = slice := by
  rcases Nat.eq_zero_or_pos slice.length with empty | positive
  · rw [List.length_eq_zero_iff.mp empty]
    rfl
  obtain ⟨tail, rfl⟩ := framed
  rw [List.length_drop] at enough
  have same := congrArg (fun bytes => (bytes.drop front.length).take slice.length) cut
  simp only [List.append_assoc, List.drop_left, List.take_left] at same
  rwa [List.drop_append_of_le_length (by omega), List.take_append_of_le_length (by
    rw [List.length_drop]; omega)] at same

theorem header_read {written : Bytes} {seen frames : List Bytes}
    (framed : written <+: framesBytes frames)
    (begun : seen <+: frames) (enough : 4 ≤ (written.drop (framesBytes seen).length).length) :
    ∃ payload, seen ++ [payload] <+: frames ∧
      (written.drop (framesBytes seen).length).take 4 = frameHeader payload := by
  obtain ⟨rest, rfl⟩ := begun
  cases rest with
  | nil =>
      have short := framed.length_le
      rw [List.append_nil] at short
      rw [List.length_drop] at enough
      omega
  | cons payload rest =>
      have whole : framesBytes (seen ++ payload :: rest) =
          framesBytes seen ++ frameHeader payload ++ (payload ++ framesBytes rest) := by
        simp [frameBytes]
      refine ⟨payload, ⟨rest, by simp⟩, ?_⟩
      have read := slice_read framed whole (by simpa using enough)
      rwa [frameHeader_length] at read

theorem payload_read {written payload : Bytes} {seen frames : List Bytes}
    (framed : written <+: framesBytes frames) (begun : seen ++ [payload] <+: frames)
    (enough : payload.length ≤ (written.drop ((framesBytes seen).length + 4)).length) :
    (written.drop ((framesBytes seen).length + 4)).take payload.length = payload := by
  obtain ⟨rest, rfl⟩ := begun
  have whole : framesBytes (seen ++ [payload] ++ rest) =
      (framesBytes seen ++ frameHeader payload) ++ payload ++ framesBytes rest := by
    simp [frameBytes]
  have front :
    (framesBytes seen ++ frameHeader payload).length = (framesBytes seen).length + 4 := by simp
  rw [← front] at enough ⊢
  exact slice_read framed whole enough

theorem frameHeader_size {payload : Bytes} (small : payload.length < 2 ^ 32) :
    (u32FromLeBytes (frameHeader payload)).toNat = payload.length := by
  rw [frameHeader, u32FromLeBytes_toLeBytes, UInt32.toNat_ofNat_of_lt' small]

/-! What is assumed of the libraries and of the paths. -/

/-- The text of a path that the system can create fits a frame, and `ConnectionReady` is eleven
bytes. -/
structure Control.Lawful (control : Control) : Prop where
  wincode : control.wincode.Lawful
  readySized : ∀ wire bytes, control.wincode.serializeConnectionReady wire = .ok bytes →
    bytes.length = 11
  shmSized : control.wincode.ShmSized
  keepsText : KeepsText control.toStringLossy
  paths : ∀ slotIndex connectionId,
    27 + (utf8 (control.toStringLossy (control.sender.ringPath slotIndex connectionId))).length ≤
      maxFrameSize

/-- The directory is text, and the first messages of both ends are read whole. -/
structure Control.Fits (control : Control) : Prop where
  text : ∃ text, utf8 text = control.sender.shmDir
  request : ∀ encoded, bootstrap.encode control.wincode = .ok encoded → encoded.length < 2 ^ 32
  reply : ∀ slotIndex connectionId,
    31 + (control.sender.ringPath slotIndex connectionId).length ≤ ancillaryRecvBuf
  capacity : UInt64.ofNat control.sender.ringCapacity ≠ 0

/-! The invariant of a socket. -/

section
variable (control : Control)

def asks (sent : List Bytes) : List SubscriptionRequest :=
  sent.filterMap fun payload =>
    match decodeClientFrame control.wincode payload with
    | .ok (.subscription request) => some request
    | _ => none

theorem asks_append (first second : List Bytes) :
    asks control (first ++ second) = asks control first ++ asks control second := by
  simp [asks]

theorem asks_mono {first second : List Bytes} (begins : first <+: second) :
    asks control first <+: asks control second := by
  obtain ⟨rest, rfl⟩ := begins
  rw [asks_append]
  exact List.prefix_append _ _

def Answer.exchange (answer : Answer) : SubscriptionRequest × Bytes :=
  (answer.request, answer.payload)

def Answer.eventfd (answer : Answer) : Option Nat := createdEventfd (.ok answer.provision)

def Link.frames (link : Link) : Side → List Bytes
  | .client => link.answers.map Answer.payload
  | .server => link.sent

structure Answered (state : SenderState) (answer : Answer) : Prop where
  encoded : replyPayload control answer.provision = .ok answer.payload
  fits : answer.payload.length ≤ maxFrameSize
  answers : Answers control.sender answer.request (.ok answer.provision) state
  provisioned : Provisioned (.ok answer.provision) state

def Confirmed (state : SenderState) (link : Link) (request : SubscriptionRequest) : Prop :=
  ∃ consumer entry, link.consumer = some consumer ∧ slotToken entry = consumer.ring.slotToken ∧
    entry ∈ state.installed ∧ (request, entry) ∈ state.refreshed ∧
    ∃ answer ∈ link.answers, answer.request = request ∧
      answer.provision = .existing (slotToken entry)

def Announces (answers : List Answer) (ring : OpenedRing) : Prop :=
  ∃ answer token path capacity eventfd, [answer] <+: answers ∧
    answer.provision = .created token path capacity eventfd ∧ ring.slotToken = token ∧
    ring.ringPath = utf8 (control.toStringLossy path)

structure Tokened (answers : List Answer) (consumer : ShmConsumer) : Prop where
  index : consumer.slotTokenIndex = consumer.ring.slotToken.slotIndex
  generation : consumer.slotTokenGeneration = consumer.ring.slotToken.generation
  set : consumer.ring.slotToken.slotIndex ≠ unsetSlotIndex
  announced : Announces control answers consumer.ring

/-- What holds of the first exchange until the consumer has its ring. -/
structure Beginning (link : Link) : Prop where
  asked : asks control link.sent <+: [bootstrap]
  announced : ∀ answer ∈ link.answers, link.announced = answer.eventfd.toList
  attached : link.replies.taken = 0 → link.replies.written ≠ [] →
    ∀ answer ∈ link.answers, link.attached = answer.eventfd
  whole : link.replies.written = [] ∨
    link.replies.written = framesBytes (link.answers.map Answer.payload) ∨
    link.health .server ≠ .sound

/-- What was written of the frames, and what of that was read. -/
structure Carries (pipe : Pipe) (frames : List Bytes) : Prop where
  framed : pipe.written <+: framesBytes frames
  within : pipe.taken ≤ pipe.written.length

structure LinkInv (state : SenderState) (link : Link) : Prop where
  requests : Carries link.requests link.sent
  replies : Carries link.replies (link.answers.map Answer.payload)
  sized : ∀ payload ∈ link.sent, payload.length < 2 ^ 32
  asked : link.answers.map Answer.request <+: asks control link.sent
  answered : ∀ answer ∈ link.answers, Answered control state answer
  exchanged : link.exchanges <+: (link.answers.drop 1).map Answer.exchange
  tokened : ∀ consumer, link.consumer = some consumer → Tokened control link.answers consumer
  confirmed : ∀ request ∈ link.confirmed, Confirmed state link request
  known : ∀ eventfd ∈ link.announced, ∃ entry ∈ state.installed, entry.address = eventfd
  -- A reply comes after the whole of the first frame.
  heard : link.answers ≠ [] → ∃ first rest, link.sent = first :: rest ∧
    (frameBytes first).length ≤ link.requests.written.length
  beginning : link.consumer = none → Beginning control link

/-! The guards. -/

def Extends (link : Link) (side : Side) (bytes : Bytes) : Prop :=
  match side with
  | .client => link.replies.closed = true ∨ link.health .client = .failed ∨
      link.requests.written ++ bytes <+: framesBytes link.sent
  | .server => link.requests.closed = true ∨ link.health .server = .failed ∨
      link.replies.written ++ bytes <+: framesBytes (link.answers.map Answer.payload)

def Excused (state : SenderState) (link : Link) : Prop :=
  (∃ side, link.health side ≠ .sound) ∨ link.refused = true ∨
    (link.replies.closed = true ∧ link.replies.written = []) ∨ ¬ control.Fits ∨
      ∃ eventfd, link.announced = [eventfd] ∧ eventfd ∈ state.removed ∧
        (asks control link.sent).length ≤ link.answers.length

def noteGuard (state : SenderState) (link : Link) : LinkNote → Prop
  | .sending payload => payload.length < 2 ^ 32 ∧
      (link.consumer = none → asks control (link.sent ++ [payload]) <+: [bootstrap])
  | .announcing eventfd => link.replies.closed = false ∧ (link.answers = [] → link.announced = []) ∧
      (∃ entry ∈ state.installed, entry.address = eventfd) ∧
      ∃ request, link.answers.map Answer.request ++ [request] <+: asks control link.sent
  | .answering answer => link.replies.closed = false ∧ Answered control state answer ∧
      link.answers.map Answer.request ++ [answer.request] <+: asks control link.sent ∧
      link.replies.written = framesBytes (link.answers.map Answer.payload) ∧
      (link.answers = [] → link.announced = answer.eventfd.toList) ∧
      ∃ first rest, link.sent = first :: rest ∧
        (frameBytes first).length ≤ link.requests.written.length
  | .exchanged request reply =>
    link.exchanges ++ [(request, reply)] <+: (link.answers.drop 1).map Answer.exchange
  | .confirmed request => Confirmed state link request

def linkGuard (state : SenderState) (adopted : List Nat) (link : Link) :
    {β : Type} → LinkOp β → Prop
  | _, .writeAll .client bytes => Extends link .client bytes
  | _, .writeAll .server bytes => link.replies.closed = false ∧ Extends link .server bytes ∧
      ∃ answer ∈ link.answers, ∃ token, answer.provision = .existing token
  | _, .sendmsg message fd => link.replies.closed = false ∧ ∃ earlier answer,
      link.answers = earlier ++ [answer] ∧ answer.eventfd = some fd ∧
        message = frameBytes answer.payload ∧
      link.replies.written = framesBytes (earlier.map Answer.payload)
  | _, .drop .client => link.consumer = none ∧ Excused control state link
  | _, .drop .server => link.announced ≠ [] →
      link.replies.written ≠ [] ∨ link.health .server ≠ .sound ∨ link.requests.closed = true
  | _, .install consumer => link.consumer = none ∧ Tokened control link.answers consumer ∧
      (control.Fits → ∀ eventfd ∈ link.announced, eventfd ∈ adopted)
  | _, .storeSlotTokenIndex index => ∀ consumer, link.consumer = some consumer →
      index = consumer.ring.slotToken.slotIndex
  | _, .storeSlotTokenGeneration generation => ∀ consumer, link.consumer = some consumer →
      generation = consumer.ring.slotToken.generation
  | _, .note note => noteGuard control state link note
  | _, _ => True

def LinkOp.ownedBy (task : ControlTask) (connection : Nat) : {β : Type} → LinkOp β → Prop
  | _, .accept => task = .sender (.handler connection)
  | _, .sendmsg _ _ => task = .sender (.handler connection)
  | _, .readExact .server _ => task = .sender (.handler connection)
  | _, .writeAll .server _ => task = .sender (.handler connection)
  | _, .drop .server => task = .sender (.handler connection)
  | _, .note (.announcing _) => task = .sender (.handler connection)
  | _, .note (.answering _) => task = .sender (.handler connection)
  | _, .fail _ => task = .network connection
  | _, .panicked => True
  | _, _ => task = .consumer connection

end

/-! Every step keeps the invariant. -/

section
variable {control : Control} {state : SenderState} {link : Link}

theorem Answered.grows {after : SenderState} {answer : Answer}
    (answered : Answered control state answer)
    (grows : Grows state after) : Answered control after answer :=
  ⟨answered.encoded, answered.fits, answered.answers.grows grows, answered.provisioned.grows grows⟩

theorem LinkInv.grows {after : SenderState} (inv : LinkInv control state link)
    (grows : Grows state after) : LinkInv control after link := by
  refine { inv with answered := ?_, confirmed := ?_, known := ?_ }
  · exact fun answer member => (inv.answered answer member).grows grows
  · intro request member
    obtain ⟨consumer, entry, here, named, installed, refreshed, answer⟩ :=
      inv.confirmed request member
    exact ⟨consumer, entry, here, named, grows.installed.subset installed,
      grows.refreshed refreshed, answer⟩
  · intro eventfd member
    obtain ⟨entry, installed, same⟩ := inv.known eventfd member
    exact ⟨entry, grows.installed.subset installed, same⟩

theorem LinkInv.begins (inv : LinkInv control state link) (waiting : link.consumer = none)
    {answer : Answer} (member : answer ∈ link.answers) :
    link.answers = [answer] ∧ answer.request = bootstrap ∧
      ∃ token path capacity eventfd, answer.provision = .created token path capacity eventfd := by
  -- Until the consumer has its ring there is one request, and the reply to it is a new connection.
  have one := inv.asked.trans (inv.beginning waiting).asked
  obtain ⟨other, rest, same⟩ := List.exists_cons_of_ne_nil (List.ne_nil_of_mem member)
  rw [same, List.map_cons, List.cons_prefix_cons, List.prefix_nil, List.map_eq_nil_iff] at one
  obtain ⟨asked, rfl⟩ := one
  rw [same, List.mem_singleton] at member
  subst member
  refine ⟨same, asked, ?_⟩
  have answers := (inv.answered answer (by simp [same])).answers
  cases kind : answer.provision with
  | existing token =>
      rw [kind, asked] at answers
      simp [Answers, bootstrap, SubscriptionRequest.new] at answers
  | created token path capacity eventfd => exact ⟨token, path, capacity, eventfd, rfl⟩

theorem Carries.take {pipe : Pipe} {frames : List Bytes} {count : Nat}
    (carries : Carries pipe frames) (enough : count ≤ pipe.unread.length) :
    Carries { pipe with taken := pipe.taken + count } frames := by
  rw [Pipe.unread, List.length_drop] at enough
  have within := carries.within
  exact ⟨carries.framed, by dsimp only; omega⟩

theorem LinkInv.take {side : Side} {count : Nat} (inv : LinkInv control state link)
    (enough : count ≤ (link.incoming side).unread.length) :
    LinkInv control state (link.take side count) := by
  cases side with
  | server =>
      refine { inv with requests := inv.requests.take enough, beginning := fun waiting => ?_ }
      exact { inv.beginning waiting with }
  | client =>
      refine { inv with replies := inv.replies.take enough, beginning := fun waiting => ?_ }
      have beginning := inv.beginning waiting
      refine { beginning with attached := fun untaken written answer member => ?_ }
      have none : link.replies.taken = 0 ∧ count = 0 := by
        simp only [Link.take] at untaken
        omega
      simp only [Link.take, none.2, if_true]
      exact beginning.attached none.1 written answer member

theorem Carries.put {pipe : Pipe} {frames : List Bytes} {bytes : Bytes}
    (carries : Carries pipe frames) (next : pipe.written ++ bytes <+: framesBytes frames) :
    Carries { pipe with written := pipe.written ++ bytes } frames :=
  ⟨next, carries.within.trans (by simp)⟩

theorem LinkInv.putClient {bytes : Bytes} (inv : LinkInv control state link)
    (next : link.requests.written ++ bytes <+: framesBytes link.sent) :
    LinkInv control state (link.put .client bytes) := by
  refine { inv with
    requests := inv.requests.put next
    heard := fun answered => ?_
    beginning := fun waiting => { inv.beginning waiting with } }
  obtain ⟨first, rest, sent, whole⟩ := inv.heard answered
  exact ⟨first, rest, sent, whole.trans (by simp [Link.put])⟩

theorem LinkInv.ail {side : Side} {health : Health} (inv : LinkInv control state link)
    (ill : health ≠ .sound) : LinkInv control state (link.ail side health) := by
  refine { inv with beginning := fun waiting => ?_ }
  have beginning := inv.beginning waiting
  refine { beginning with whole := ?_ }
  rcases beginning.whole with none | all | failing
  · exact .inl none
  · exact .inr (.inl all)
  · refine .inr (.inr ?_)
    cases side with
    | client => simpa [Link.ail] using failing
    | server => simpa [Link.ail] using ill

theorem LinkInv.spoilClient {bytes : Bytes} {count : Nat} (inv : LinkInv control state link)
    (next : link.health .client = .failed ∨ link.requests.written ++ bytes <+:
      framesBytes link.sent) :
    LinkInv control state (link.spoil .client bytes count) := by
  unfold Link.spoil
  split
  · rename_i failing
    rcases next with failed | next
    · simp [failed] at failing
    · refine (inv.putClient (List.IsPrefix.trans ?_ next)).ail (by simp)
      exact (List.prefix_append_right_inj _).mpr (List.take_prefix _ _)
  · exact inv

theorem LinkInv.putServer {bytes : Bytes} (inv : LinkInv control state link)
    (later : link.consumer ≠ none)
    (next : link.replies.written ++ bytes <+: framesBytes (link.answers.map Answer.payload)) :
    LinkInv control state (link.put .server bytes) :=
  { inv with
    replies := inv.replies.put next
    beginning := fun waiting => absurd waiting later }

theorem LinkInv.spoilServer {bytes : Bytes} {count : Nat} (inv : LinkInv control state link)
    (later : link.consumer ≠ none) (next : link.health .server = .failed ∨
      link.replies.written ++ bytes <+: framesBytes (link.answers.map Answer.payload)) :
    LinkInv control state (link.spoil .server bytes count) := by
  unfold Link.spoil
  split
  · rename_i failing
    rcases next with failed | next
    · simp [failed] at failing
    · refine (inv.putServer later (List.IsPrefix.trans ?_ next)).ail (by simp)
      exact (List.prefix_append_right_inj _).mpr (List.take_prefix _ _)
  · exact inv

theorem LinkInv.writeAll {side : Side} {bytes : Bytes} {adopted : List Nat} {choice : ControlChoice}
    {files : List Path} {reply : Except IoErrorKind Unit} {after : Link}
    (inv : LinkInv control state link)
    (guarded : linkGuard control state adopted link (.writeAll side bytes))
    (executed : link.exec choice files (.writeAll side bytes) = some (reply, after)) :
    LinkInv control state after := by
  simp only [Link.exec] at executed
  cases side with
  | client =>
      have next : link.replies.closed = true ∨ link.health .client = .failed ∨
          link.requests.written ++ bytes <+: framesBytes link.sent := guarded
      split at executed
      · obtain ⟨-, rfl⟩ := Prod.mk.inj (Option.some.inj executed)
        exact inv
      · rename_i opened
        have next := next.resolve_left opened
        split at executed
        · obtain ⟨-, rfl⟩ := Prod.mk.inj (Option.some.inj executed)
          exact inv.spoilClient next
        · rename_i sound
          obtain ⟨-, rfl⟩ := Prod.mk.inj (Option.some.inj executed)
          refine inv.putClient (next.resolve_left fun failed => ?_)
          simp [failed] at sound
  | server =>
      obtain ⟨-, next, answer, member, token, existing⟩ := guarded
      have later : link.consumer ≠ none := by
        intro waiting
        obtain ⟨-, -, _, _, _, _, created⟩ := inv.begins waiting member
        simp [existing] at created
      have next : link.requests.closed = true ∨ link.health .server = .failed ∨
          link.replies.written ++ bytes <+: framesBytes (link.answers.map Answer.payload) := next
      split at executed
      · obtain ⟨-, rfl⟩ := Prod.mk.inj (Option.some.inj executed)
        exact inv
      · rename_i opened
        have next := next.resolve_left opened
        split at executed
        · obtain ⟨-, rfl⟩ := Prod.mk.inj (Option.some.inj executed)
          exact inv.spoilServer later next
        · rename_i sound
          obtain ⟨-, rfl⟩ := Prod.mk.inj (Option.some.inj executed)
          refine inv.putServer later (next.resolve_left fun failed => ?_)
          simp [failed] at sound

theorem LinkInv.announce {earlier : List Answer} {answer : Answer} {fd : Nat} {bytes : Bytes}
    {health : Side → Health} (inv : LinkInv control state link)
    (last : link.answers = earlier ++ [answer]) (created : answer.eventfd = some fd)
    (answered : link.replies.written = framesBytes (earlier.map Answer.payload))
    (part : bytes <+: frameBytes answer.payload)
    (whole : bytes = frameBytes answer.payload ∨ health .server ≠ .sound) :
    LinkInv control state
      { link.put .server bytes with attached := some fd, health := health } := by
  have all : framesBytes (link.answers.map Answer.payload) = link.replies.written ++ frameBytes
      answer.payload := by
    simp [last, answered]
  have next : link.replies.written ++ bytes <+: framesBytes (link.answers.map Answer.payload) := by
    rw [all]
    exact (List.prefix_append_right_inj _).mpr part
  refine { inv with replies := inv.replies.put next, beginning := fun waiting => ?_ }
  have beginning := inv.beginning waiting
  refine { beginning with attached := ?_, whole := ?_ }
  · intro _ _ other member
    have newest : answer ∈ link.answers := by simp [last]
    obtain ⟨only, -⟩ := inv.begins waiting newest
    have same : other ∈ [answer] := only ▸ member
    rw [List.mem_singleton.mp same]
    exact created.symm
  · rcases whole with rfl | ill
    · exact .inr (.inl all.symm)
    · exact .inr (.inr ill)

theorem LinkInv.sendmsg {message : Bytes} {fd : Nat} {adopted : List Nat} {choice : ControlChoice}
    {files : List Path} {reply : Except String Unit} {after : Link}
    (inv : LinkInv control state link)
    (guarded : linkGuard control state adopted link (.sendmsg message fd))
    (executed : link.exec choice files (.sendmsg message fd) = some (reply, after)) :
    LinkInv control state after := by
  obtain ⟨-, earlier, answer, last, created, rfl, answered⟩ := guarded
  simp only [Link.exec] at executed
  split at executed
  · obtain ⟨-, rfl⟩ := Prod.mk.inj (Option.some.inj executed)
    exact inv
  · split at executed
    · rename_i ill
      obtain ⟨-, rfl⟩ := Prod.mk.inj (Option.some.inj executed)
      unfold Link.spoil
      split
      · have failed : Function.update link.health .server Health.failed .server ≠ .sound := by simp
        exact inv.announce last created answered (List.take_prefix _ _) (.inr failed)
      · have kept := inv.announce last created answered (List.nil_prefix) (.inr ill)
        simp only [Link.put, List.append_nil] at kept
        exact kept
    · obtain ⟨-, rfl⟩ := Prod.mk.inj (Option.some.inj executed)
      exact inv.announce last created answered (List.prefix_refl _) (.inl rfl)

theorem LinkInv.record {note : LinkNote} (inv : LinkInv control state link)
    (guarded : noteGuard control state link note) : LinkInv control state (link.record note) := by
  cases note with
  | sending payload =>
      obtain ⟨small, first⟩ := guarded
      refine { inv with
        requests :=
          ⟨inv.requests.framed.trans (framesBytes_mono (List.prefix_append _ _)),
          inv.requests.within⟩
        sized := ?_
        asked := inv.asked.trans (asks_mono control (List.prefix_append _ _))
        heard := fun answered => ?_
        beginning := fun waiting => { inv.beginning waiting with asked := first waiting } }
      · intro other member
        rcases List.mem_append.mp member with before | new
        · exact inv.sized other before
        · rwa [List.mem_singleton.mp new]
      · obtain ⟨first, rest, sent, whole⟩ := inv.heard answered
        exact ⟨first, rest ++ [payload], by simp [Link.record, sent], whole⟩
  | announcing eventfd =>
      obtain ⟨-, -, known, request, next⟩ := guarded
      refine { inv with known := ?_, beginning := fun waiting => ?_ }
      · intro other member
        rcases List.mem_append.mp member with before | new
        · exact inv.known other before
        · rwa [List.mem_singleton.mp new]
      · have beginning := inv.beginning waiting
        refine { beginning with announced := fun answer member => ?_ }
        -- Nothing is announced twice to a consumer that waits for its ring.
        obtain ⟨only, -⟩ := inv.begins waiting member
        have length := (next.trans beginning.asked).length_le
        simp [only] at length
  | answering answer =>
      obtain ⟨-, answered, next, sent, announced, heard⟩ := guarded
      have grown : link.answers.map Answer.payload <+:
        (link.answers ++ [answer]).map Answer.payload := by simp
      refine { inv with
        replies := ⟨inv.replies.framed.trans (framesBytes_mono grown), inv.replies.within⟩
        asked := ?_
        answered := ?_
        exchanged := ?_
        tokened := ?_
        confirmed := ?_
        heard := fun _ => heard
        beginning := fun waiting => ?_ }
      · simpa [Link.record] using next
      · intro other member
        rcases List.mem_append.mp member with before | new
        · exact inv.answered other before
        · rwa [List.mem_singleton.mp new]
      · refine inv.exchanged.trans ?_
        simp only [Link.record, List.drop_append, List.map_append]
        exact List.prefix_append _ _
      · intro consumer here
        have tokened := inv.tokened consumer here
        obtain ⟨first, token, path, capacity, eventfd, begun, created⟩ := tokened.announced
        exact { tokened with
          announced :=
            ⟨first, token, path, capacity, eventfd, begun.trans (List.prefix_append _ _), created⟩ }
      · intro request member
        obtain ⟨consumer, entry, here, named, installed, refreshed, other, before, found⟩ :=
          inv.confirmed request member
        exact ⟨consumer, entry, here, named, installed, refreshed, other,
          List.mem_append_left _ before, found⟩
      · have beginning := inv.beginning waiting
        have none : link.answers = [] := by
          have length := (next.trans beginning.asked).length_le
          simpa using length
        have silent : link.replies.written = [] := by simp [sent, none]
        refine { beginning with announced := ?_, attached := ?_, whole := .inl silent }
        · intro other member
          simp only [Link.record, none, List.nil_append, List.mem_singleton] at member
          rw [member]
          exact announced none
        · exact fun _ written => absurd silent written
  | exchanged request reply =>
      exact { inv with exchanged := guarded, beginning := fun waiting => { inv.beginning waiting with } }
  | confirmed request =>
      refine { inv with confirmed := ?_, beginning := fun waiting => { inv.beginning waiting with } }
      intro other member
      rcases List.mem_append.mp member with before | new
      · exact inv.confirmed other before
      · rwa [List.mem_singleton.mp new]

theorem LinkInv.store {consumer stored : ShmConsumer} (inv : LinkInv control state link)
    (here : link.consumer = some consumer) (ring : stored.ring = consumer.ring)
    (tokened : Tokened control link.answers stored) :
    LinkInv control state { link with consumer := some stored } := by
  refine { inv with tokened := ?_, confirmed := ?_, beginning := ?_ }
  · rintro other same
    rwa [← Option.some.inj same]
  · intro request member
    obtain ⟨other, entry, here', found⟩ := inv.confirmed request member
    obtain rfl : consumer = other := Option.some.inj (here.symm.trans here')
    exact ⟨stored, entry, rfl, by rwa [ring]⟩
  · intro none
    simp at none

theorem Link.onFile_ok {choice : ControlChoice} {granted : Except String Unit} {value : Unit}
    {after : Link}
    (executed : some (link.onFile choice granted) = some (.ok value, after)) : granted = .ok value ∧
      after = link := by
  unfold Link.onFile at executed
  split at executed
  · simp at executed
  · obtain ⟨rfl, rfl⟩ := Prod.mk.inj (Option.some.inj executed)
    exact ⟨rfl, rfl⟩

theorem Link.onFile_error {choice : ControlChoice} {granted : Except String Unit} {error : String}
    {after : Link} (executed : some (link.onFile choice granted) = some (.error error, after)) :
    after = { link with refused := true } ∨ granted = .error error ∧ after = link := by
  unfold Link.onFile at executed
  split at executed
  · exact .inl (Prod.mk.inj (Option.some.inj executed)).2.symm
  · obtain ⟨rfl, rfl⟩ := Prod.mk.inj (Option.some.inj executed)
    exact .inr ⟨rfl, rfl⟩

theorem LinkInv.onFile (inv : LinkInv control state link) (choice : ControlChoice)
    (granted : Except String Unit) : LinkInv control state (link.onFile choice granted).2 := by
  unfold Link.onFile
  split
  · exact { inv with beginning := fun waiting => { inv.beginning waiting with } }
  · exact inv

theorem LinkInv.exec {β : Type} {op : LinkOp β} {adopted : List Nat} {choice : ControlChoice}
    {files : List Path} {reply : β} {after : Link} (inv : LinkInv control state link)
    (guarded : linkGuard control state adopted link op)
    (executed : link.exec choice files op = some (reply, after)) : LinkInv control state after := by
  cases op with
  | writeAll side bytes => exact inv.writeAll guarded executed
  | sendmsg message fd => exact inv.sendmsg guarded executed
  | note note =>
      obtain ⟨-, rfl⟩ := Prod.mk.inj (Option.some.inj executed)
      exact inv.record guarded
  | readExact side count =>
      simp only [Link.exec] at executed
      repeat' split at executed
      all_goals simp only [reduceCtorEq, Option.some.injEq, Prod.mk.injEq] at executed
      all_goals obtain ⟨-, rfl⟩ := executed
      · exact inv
      · rename_i enough
        exact inv.take enough
      · exact inv
  | recvmsg =>
      simp only [Link.exec] at executed
      repeat' split at executed
      all_goals simp only [reduceCtorEq, Option.some.injEq, Prod.mk.injEq] at executed
      all_goals obtain ⟨-, rfl⟩ := executed
      · exact inv
      · refine inv.take ?_
        rw [List.length_take]
        exact Nat.min_le_right _ _
      · exact inv
  | connect =>
      simp only [Link.exec] at executed
      repeat' split at executed
      all_goals simp only [reduceCtorEq, Option.some.injEq, Prod.mk.injEq] at executed
      all_goals obtain ⟨-, rfl⟩ := executed
      · exact inv
      · exact { inv with beginning := fun waiting => { inv.beginning waiting with } }
  | accept =>
      simp only [Link.exec] at executed
      split at executed
      all_goals simp only [reduceCtorEq, Option.some.injEq, Prod.mk.injEq] at executed
      obtain ⟨-, rfl⟩ := executed
      exact { inv with beginning := fun waiting => { inv.beginning waiting with } }
  | openRing path =>
      obtain rfl := congrArg Prod.snd (Option.some.inj executed)
      exact inv.onFile choice _
  | joinRing path eventfd =>
      obtain rfl := congrArg Prod.snd (Option.some.inj executed)
      exact inv.onFile choice _
  | drop side =>
      obtain ⟨-, rfl⟩ := Prod.mk.inj (Option.some.inj executed)
      cases side with
      | client =>
          exact { inv with
            requests := ⟨inv.requests.framed, inv.requests.within⟩
            beginning := fun waiting => { inv.beginning waiting with } }
      | server =>
          exact { inv with
            replies := ⟨inv.replies.framed, inv.replies.within⟩
            beginning := fun waiting => { inv.beginning waiting with } }
  | install consumer =>
      obtain ⟨waiting, tokened, -⟩ := guarded
      obtain ⟨-, rfl⟩ := Prod.mk.inj (Option.some.inj executed)
      refine { inv with tokened := ?_, confirmed := ?_, beginning := ?_ }
      · rintro other same
        rwa [← Option.some.inj same]
      · intro request member
        obtain ⟨other, -, here, -⟩ := inv.confirmed request member
        simp [waiting] at here
      · intro none
        simp at none
  | loadSlotTokenIndex =>
      obtain ⟨consumer, -, same⟩ := Option.map_eq_some_iff.mp executed
      rwa [← (Prod.mk.inj same).2]
  | loadSlotTokenGeneration =>
      obtain ⟨consumer, -, same⟩ := Option.map_eq_some_iff.mp executed
      rwa [← (Prod.mk.inj same).2]
  | storeSlotTokenIndex index =>
      obtain ⟨consumer, here, same⟩ := Option.map_eq_some_iff.mp executed
      obtain ⟨-, rfl⟩ := Prod.mk.inj same
      exact inv.store here rfl { inv.tokened consumer here with index := guarded consumer here }
  | storeSlotTokenGeneration generation =>
      obtain ⟨consumer, here, same⟩ := Option.map_eq_some_iff.mp executed
      obtain ⟨-, rfl⟩ := Prod.mk.inj same
      exact inv.store here
        rfl { inv.tokened consumer here with generation := guarded consumer here }
  | panicked => simp [Link.exec] at executed
  | fail side =>
      obtain ⟨-, rfl⟩ := Prod.mk.inj (Option.some.inj executed)
      split
      · exact inv.ail (by simp)
      · exact inv

end

end Qlaster
