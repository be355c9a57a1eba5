import Qlaster.Wire

/-!
`handle_uds_connection` keeps to the discipline: it answers every subscription it has read
before it reads on, and a ping with nothing.
-/

namespace Qlaster

open Interleaving Interleaving.Discipline LittleEndian PrefixCode

/-! The assertions of a handler. -/

section
variable (control : Control)

/-- The requests have been replied to; `fresh` is what was made for a consumer without a reply. -/
structure Replied (requests : List SubscriptionRequest) (fresh : List Nat) (link : Link) :
    Prop where
  accepted : link.accepted = true
  answered : link.answers.map Answer.request = requests
  written : link.replies.written = framesBytes (link.answers.map Answer.payload)
  opened : link.replies.closed = false
  announced : link.answers = [] → link.announced = fresh

structure Replying (seen : List Bytes) (left : Bytes) (link : Link) : Prop where
  accepted : link.accepted = true
  here : AtFrame .server seen link
  answered : link.answers.map Answer.request = asks control seen
  written : link.replies.written ++ left = framesBytes (link.answers.map Answer.payload)
  opened : link.replies.closed = false
  some : link.answers ≠ []

structure Leaving (link : Link) : Prop where
  accepted : link.accepted = true
  replied : link.announced ≠ [] →
    link.replies.written ≠ [] ∨ link.health .server ≠ .sound ∨ link.requests.closed = true

def Serving (seen : List Bytes) (link : Link) : Prop :=
  AtFrame .server seen link ∧ Replied (asks control seen) [] link

end

section
variable {control : Control} {outsiders : Bool} {connection : Nat}

theorem Replied.keeps {requests : List SubscriptionRequest} {fresh : List Nat} {link after : Link}
    (replied : Replied requests fresh link) (keeps : ServerKeeps link after) :
    Replied requests fresh after := by
  refine ⟨keeps.accepted.trans replied.accepted, ?_, ?_, keeps.closed.trans replied.opened, ?_⟩
  · rw [keeps.answers, replied.answered]
  · rw [keeps.written, keeps.answers, replied.written]
  · rw [keeps.answers, keeps.announced]
    exact replied.announced

theorem Leaving.keeps {link after : Link} (leaving : Leaving link)
    (keeps : ServerKeeps link after) : Leaving after := by
  refine ⟨keeps.accepted.trans leaving.accepted, ?_⟩
  rw [keeps.announced, keeps.written]
  intro some
  rcases leaving.replied some with written | ill | closed
  · exact .inl written
  · exact .inr (.inl (keeps.ill ill))
  · exact .inr (.inr (keeps.dropped closed))

theorem Replied.leaving {requests : List SubscriptionRequest} {link : Link}
    (replied : Replied requests [] link) : Leaving link := by
  refine ⟨replied.accepted, fun some => .inl ?_⟩
  rw [replied.written]
  refine framesBytes_ne_nil fun none => some (replied.announced ?_)
  simpa using none

theorem Leaving.spoilt {link : Link} {bytes : Bytes} {count : Nat} (accepted : link.accepted = true)
    (ill : link.health .server ≠ .sound) : Leaving (link.spoil .server bytes count) := by
  refine ⟨?_, fun _ => .inr (.inl ?_)⟩
  · rw [Link.spoil_accepted, accepted]
  · simp [spoil_failed ill]

theorem server_stable {assertion : Link → Prop}
    (kept : ∀ before after, ServerKeeps before after → assertion before → assertion after) :
    (controlling control outsiders).Stable (.sender (.handler connection))
      fun state => assertion (state.links connection) :=
  controlling_stable fun _ _ leaves => kept _ _ (leaves.server connection rfl)

theorem sender_stable {actor : SenderTask} {assertion : SenderState → Prop}
    (stable : (sending control.sender).Stable actor assertion) :
    (controlling control outsiders).Stable (.sender actor) fun state => assertion state.sender :=
  controlling_stable fun _ _ leaves holds => stable.later (leaves.sender actor rfl) holds

theorem replied_stable (requests : List SubscriptionRequest) (fresh : List Nat) :
    (controlling control outsiders).Stable (.sender (.handler connection))
      fun state => Replied requests fresh (state.links connection) :=
  server_stable fun _ _ keeps replied => replied.keeps keeps

theorem replying_stable (seen : List Bytes) (left : Bytes) :
    (controlling control outsiders).Stable (.sender (.handler connection))
      fun state => Replying control seen left (state.links connection) := by
  refine server_stable fun before after keeps holds => ?_
  refine ⟨keeps.accepted.trans holds.accepted, ⟨holds.here.begun.trans keeps.sent, ?_⟩, ?_, ?_,
    keeps.closed.trans holds.opened, ?_⟩
  · exact keeps.taken.trans holds.here.taken
  · rw [keeps.answers, holds.answered]
  · rw [keeps.written, keeps.answers, holds.written]
  · rw [keeps.answers]
    exact holds.some

theorem leaving_stable :
    (controlling control outsiders).Stable (.sender (.handler connection))
      fun state => Leaving (state.links connection) :=
  server_stable fun _ _ keeps leaving => leaving.keeps keeps

/-! Replies. -/

theorem writeReply_triple (seen : List Bytes) (bytes left : Bytes) (token : SlotToken) :
    (controlling control outsiders).Triple (.sender (.handler connection))
      (fun state => Replying control seen (bytes ++ left) (state.links connection) ∧
        ∃ answer ∈ (state.links connection).answers, answer.provision = .existing token)
      (onLink connection (call (.writeAll .server bytes) .io))
      (Settled (fun _ state => Replying control seen left (state.links connection) ∧
          ∃ answer ∈ (state.links connection).answers, answer.provision = .existing token)
        fun state => Leaving (state.links connection)) := by
  have existing : (controlling control outsiders).Stable (.sender (.handler connection))
      fun state => ∃ answer ∈ (state.links connection).answers,
        answer.provision = .existing token :=
    controlling_stable fun _ _ leaves holds => by rwa [(leaves.server connection rfl).answers]
  refine writeAll_triple .server ((replying_stable seen _).and existing)
    ((replying_stable seen _).and existing) leaving_stable ?_ ?_ ?_ ?_
  · rintro state inv ⟨replying, answer, member, found⟩
    refine ⟨replying.opened, .inr (.inr ?_), answer, member, token, found⟩
    rw [← replying.written, ← List.append_assoc]
    exact List.prefix_append _ _
  · rintro state inv ⟨replying, found⟩ - -
    simp only [ControlState.setLink_links]
    refine ⟨⟨replying.accepted, ⟨replying.here.begun, replying.here.taken⟩, replying.answered, ?_,
      replying.opened, replying.some⟩, found⟩
    simpa [Link.put] using replying.written
  · rintro state inv ⟨replying, -⟩ closed
    exact ⟨replying.accepted, fun _ => .inr (.inr closed)⟩
  · rintro state count inv ⟨replying, -⟩ ill
    rw [ControlState.setLink_links]
    exact .spoilt replying.accepted ill

/-- The requests of the frames read, replied to up to the last. -/
structure Pending (control : Control) (seen : List Bytes) (request : SubscriptionRequest)
    (fresh : List Nat) (link : Link) : Prop where
  here : AtFrame .server seen link
  replied : Replied (link.answers.map Answer.request) fresh link
  next : link.answers.map Answer.request ++ [request] = asks control seen

theorem pending_stable (seen : List Bytes) (request : SubscriptionRequest) (fresh : List Nat) :
    (controlling control outsiders).Stable (.sender (.handler connection))
      fun state => Pending control seen request fresh (state.links connection) := by
  refine server_stable fun before after keeps holds => ?_
  refine ⟨⟨holds.here.begun.trans keeps.sent, keeps.taken.trans holds.here.taken⟩, ?_, ?_⟩
  · rw [keeps.answers]
    exact holds.replied.keeps keeps
  · rw [keeps.answers, holds.next]

theorem Pending.asked {seen : List Bytes} {request : SubscriptionRequest} {fresh : List Nat}
    {link : Link} (pending : Pending control seen request fresh link) :
    link.answers.map Answer.request ++ [request] <+: asks control link.sent := by
  rw [pending.next]
  exact asks_mono control pending.here.begun

theorem Pending.heard {seen : List Bytes} {request : SubscriptionRequest} {fresh : List Nat}
    {link : Link} {state : SenderState} (pending : Pending control seen request fresh link)
    (inv : LinkInv control state link) :
    ∃ first rest, link.sent = first :: rest ∧
      (frameBytes first).length ≤ link.requests.written.length := by
  -- The first frame has been read, so all of it was written.
  obtain ⟨rest, sent⟩ := pending.here.begun
  cases seen with
  | nil =>
      have next := pending.next
      simp [asks] at next
  | cons first more =>
      refine ⟨first, more ++ rest, sent.symm, ?_⟩
      have within := inv.requests.within
      have taken : link.requests.taken = _ := pending.here.taken
      rw [taken, framesBytes_cons, List.length_append] at within
      omega

theorem replyPayload_fits (lawful : control.Lawful) {state : SenderState}
    (inv : SenderInv control.sender state)
    {provision : ShmSlotProvision} (provisioned : Provisioned (.ok provision) state)
    {payload : Bytes}
    (encoded : replyPayload control provision = .ok payload) : payload.length ≤ maxFrameSize := by
  cases provision with
  | existing token =>
      rw [lawful.readySized _ _ (serializeWire_ok encoded)]
      decide
  | created token path capacity eventfd =>
      obtain ⟨entry, member, -, -, rfl⟩ := provisioned
      have room := lawful.paths entry.slotIndex entry.connectionId
      rw [← (inv.described.path entry member).2] at room
      obtain ⟨-, sized⟩ := lawful.shmSized _ _ (serializeWire_ok encoded)
      simp only [ConnectionReadyShm.wire] at sized
      have small : (utf8 (control.toStringLossy entry.sink.path)).length < 2 ^ 63 := by
        simp only [maxFrameSize] at room
        omega
      rw [sized small]
      exact room

structure Provides (control : Control) (request : SubscriptionRequest)
    (provision : ShmSlotProvision) (state : SenderState) : Prop where
  answers : Answers control.sender request (.ok provision) state
  provisioned : Provisioned (.ok provision) state

theorem Provides.grows {request : SubscriptionRequest} {provision : ShmSlotProvision}
    {before after : SenderState}
    (provides : Provides control request provision before) (grows : Grows before after) :
    Provides control request provision after :=
  ⟨provides.answers.grows grows, provides.provisioned.grows grows⟩

theorem provides_stable (request : SubscriptionRequest) (provision : ShmSlotProvision)
    {task : ControlTask} :
    (controlling control outsiders).Stable task fun state => Provides control request provision
      state.sender :=
  controlling_stable fun _ _ leaves provides => provides.grows leaves.grows

def Newest (answer : Answer) (link : Link) : Prop :=
  ∃ earlier, link.answers = earlier ++ [answer] ∧
    link.replies.written = framesBytes (earlier.map Answer.payload)

theorem newest_stable (answer : Answer) :
    (controlling control outsiders).Stable (.sender (.handler connection))
      fun state => Newest answer (state.links connection) := by
  refine server_stable fun before after keeps newest => ?_
  rwa [Newest, keeps.answers, keeps.written]

theorem answering_triple (lawful : control.Lawful) (seen : List Bytes) (answer : Answer)
    (encoded : replyPayload control answer.provision = .ok answer.payload) :
    (controlling control outsiders).Triple (.sender (.handler connection))
      (fun state => Pending control seen answer.request answer.eventfd.toList
        (state.links connection) ∧ Provides control answer.request answer.provision state.sender)
      (onLink connection (.perform (.note (.answering answer))))
      fun _ state => Replying control seen (frameBytes answer.payload) (state.links connection) ∧
        Newest answer (state.links connection) := by
  refine link_triple rfl ((pending_stable _ _ _).and (provides_stable _ _))
    (fun _ => (replying_stable _ _).and (newest_stable answer)) ?_ ?_
  · rintro state inv ⟨pending, provides⟩
    refine ⟨pending.replied.opened, ⟨encoded, ?_, provides.answers, provides.provisioned⟩,
      pending.asked,
      pending.replied.written, pending.replied.announced, pending.heard (inv.links connection)⟩
    exact replyPayload_fits lawful inv.sender provides.provisioned encoded
  · rintro choice state _ link inv ⟨pending, provides⟩ executed
    obtain ⟨-, rfl⟩ := Prod.mk.inj (Option.some.inj executed)
    simp only [ControlState.setLink_links]
    refine ⟨⟨pending.replied.accepted, ⟨pending.here.begun, pending.here.taken⟩, ?_,
      ?_, pending.replied.opened, ?_⟩,
      (state.links connection).answers, rfl, pending.replied.written⟩
    · simpa [Link.record] using pending.next
    · simp [Link.record, pending.replied.written]
    · simp [Link.record]

theorem Replying.replied {seen : List Bytes} {link : Link}
    (replying : Replying control seen [] link) : Replied (asks control seen) [] link :=
  ⟨replying.accepted, replying.answered, by simpa using replying.written, replying.opened,
    fun none => absurd none replying.some⟩

theorem sendmsg_triple (seen : List Bytes) (answer : Answer) {eventfd : Nat}
    {convert : String → QlasterError} (created : answer.eventfd = some eventfd) :
    (controlling control outsiders).Triple (.sender (.handler connection))
      (fun state => Replying control seen (frameBytes answer.payload) (state.links connection) ∧
        Newest answer (state.links connection))
      (onLink connection (call (.sendmsg (frameBytes answer.payload) eventfd) convert))
      (Settled (fun _ state => Serving control seen (state.links connection))
        fun state => Leaving (state.links connection)) := by
  refine call_triple rfl ((replying_stable _ _).and (newest_stable answer))
    (fun _ => (atFrame_stable .server seen).and (replied_stable _ _)) leaving_stable ?_ ?_ ?_
  · rintro state inv ⟨replying, earlier, last, written⟩
    exact ⟨replying.opened, earlier, answer, last, created, rfl, written⟩
  · rintro choice state _ link inv ⟨replying, -⟩ executed
    simp only [Link.exec] at executed
    repeat' split at executed
    all_goals simp only [reduceCtorEq, Option.some.injEq, Prod.mk.injEq, false_and,
      true_and] at executed
    subst executed
    simp only [ControlState.setLink_links]
    have written := replying.written
    refine ⟨⟨replying.here.begun, replying.here.taken⟩, replying.accepted, replying.answered,
      ?_, replying.opened, fun none => absurd none replying.some⟩
    simpa [Link.put] using written
  · rintro choice state error link inv ⟨replying, -⟩ executed
    simp only [Link.exec] at executed
    repeat' split at executed
    all_goals simp only [reduceCtorEq, Option.some.injEq, Prod.mk.injEq, false_and] at executed
    all_goals
      obtain ⟨-, rfl⟩ := executed
      simp only [ControlState.setLink_links]
    · rename_i closed
      exact ⟨replying.accepted, fun _ => .inr (.inr closed)⟩
    · rename_i ill
      have leaving :
          Leaving ((state.links connection).spoil .server (frameBytes answer.payload)
          choice.written) :=
        .spoilt replying.accepted ill
      exact { leaving with }

theorem sendReply_triple (lawful : control.Lawful) (seen : List Bytes)
    (request : SubscriptionRequest) (provision : ShmSlotProvision) :
    (controlling control outsiders).Triple (.sender (.handler connection))
      (fun state => Pending control seen request (createdEventfd (.ok provision)).toList
        (state.links connection) ∧ Provides control request provision state.sender)
      (onLink connection (sendReply control request provision))
      (Settled (fun _ state => Serving control seen (state.links connection))
        fun state => Leaving (state.links connection)) := by
  refine attempt_triple (fun _ => leaving_stable)
    (settle_triple _ ((pending_stable _ _ _).and (provides_stable request provision))) ?_
      fun encoded => ?_
  · rintro error state inv ⟨⟨pending, provides⟩, failed, impossible⟩
    -- Encoding never returns an error; where it cannot, it panics.
    cases provision <;>
      simp only [replyPayload, ConnectionReady.encode, ConnectionReadyShm.encode] at impossible <;>
      unfold serializeWire at impossible <;> split at impossible <;> simp at impossible
  · refine triple_fact fun payload => ?_
    cases provision with
    | existing token =>
        simp only [writeFramed]
        split
        · refine triple_done leaving_stable ?_
          rintro state inv ⟨pending, provides⟩
          exact pending.replied.leaving
        · rw [Program.bind_eq, onLink_bind]
          refine triple_bind
            (answering_triple lawful seen ⟨request, .existing token, encoded⟩ payload) fun _ => ?_
          refine triple_weaken (attempt_triple (fun _ => leaving_stable)
            (writeReply_triple seen (frameHeader encoded) encoded token)
            (fun _ _ _ holds => holds) fun _ =>
            triple_weaken (writeReply_triple seen encoded [] token) ?_ ?_) ?_ fun _ _ _ holds =>
              holds
          · intro state inv holds
            rwa [List.append_nil]
          · intro result state inv holds
            cases result with
            | ok _ => exact ⟨holds.1.here, holds.1.replied⟩
            | error _ => exact holds
          · rintro state inv ⟨replying, earlier, last, -⟩
            exact ⟨replying,
              _, by rw [last]; exact List.mem_append_right _ (List.mem_singleton_self _), rfl⟩
    | created token path capacity eventfd =>
        refine attempt_triple (fun _ => leaving_stable)
          (settle_triple _ ((pending_stable _ _ _).and (provides_stable request _))) ?_
            fun message => ?_
        · rintro error state inv ⟨⟨pending, provides⟩, failed, impossible⟩
          have fits := replyPayload_fits lawful inv.sender provides.provisioned payload
          rw [sendFrameWithFd_eq (by simp only [maxFrameSize] at fits; omega)] at impossible
          simp at impossible
        · refine triple_fact fun framed => ?_
          obtain rfl := sendFrameWithFd_ok framed
          rw [Program.bind_eq, onLink_bind]
          exact triple_bind (answering_triple lawful seen
            ⟨request, .created token path capacity eventfd, encoded⟩ payload) fun _ =>
              sendmsg_triple seen _ rfl

/-! The loop. -/

theorem upsert_triple (sender : Sender) (request : SubscriptionRequest) :
    (sending sender).Triple (.handler connection) ((sending sender).rest (.handler connection))
      (upsertShm sender request) fun result state =>
        (∃ own : Belongings, own.held = [] ∧ Upserted (.handler connection) own result state) ∧
          Answers sender request result state := by
  have unclaimed : ∀ fresh current, (⟨none, fresh, [], current⟩ : Belongings).claim = none :=
    fun _ _ => rfl
  exact triple_weaken (triple_exists fun fresh => triple_exists fun current =>
    triple_weaken (upsertShm_answers (unclaimed fresh current) request) (fun _ _ holds => holds)
      fun _ _ _ holds => ⟨⟨_, rfl, holds.1⟩, holds.2⟩) (fun _ _ rest => rest.1) fun _ _ _ holds =>
        holds

theorem provisionedNote_triple (sender : Sender) (result : Except QlasterError ShmSlotProvision) :
    (sending sender).Triple (.handler connection)
      (fun state => ∃ own : Belongings, own.held = [] ∧
        Upserted (.handler connection) own result state)
      (ask (.note (.provisioned result))) fun _ => (sending sender).rest (.handler connection) := by
  refine triple_exists fun own => triple_weaken (triple_fact fun held => triple_weaken
    (provisioned_triple own result) (fun _ _ holds => holds) ?_)
      (fun _ _ holds => ⟨holds.2, holds.1⟩)
    fun _ _ _ holds => holds
  rintro _ state - ⟨fresh, owns⟩
  rw [held] at owns
  exact owns.rest (by simp)

theorem touch_triple (sender : Sender) (ping : PingRequest) :
    (sending sender).Triple (.handler connection) ((sending sender).rest (.handler connection))
      (touchPing ping) fun _ => (sending sender).rest (.handler connection) :=
  triple_weaken (triple_exists fun fresh => triple_exists fun current =>
    triple_weaken (touchPing_triple (handler_sends connection) ⟨none, fresh, [], current⟩ ping)
      (fun _ _ holds => holds) fun _ _ _ owns => owns.rest (by simp))
    (fun _ _ rest => rest.1) fun _ _ _ holds => holds

theorem noteCreated_triple (seen : List Bytes) (request : SubscriptionRequest)
    (result : Except QlasterError ShmSlotProvision) {known : SenderState → Prop}
    (stable : (sending control.sender).Stable (.handler connection) known)
    (provisioned : ∀ state, known state → Provisioned result state) :
    (controlling control outsiders).Triple (.sender (.handler connection))
      (fun state => Pending control seen request [] (state.links connection) ∧ known state.sender)
      (noteCreated connection result)
      fun _ state => Pending control seen request (createdEventfd result).toList
        (state.links connection) ∧ known state.sender := by
  unfold noteCreated
  cases made : createdEventfd result with
  | none =>
    exact triple_done ((pending_stable _ _ _).and (sender_stable stable)) fun _ _ holds => holds
  | some eventfd =>
      refine link_triple rfl ((pending_stable _ _ _).and (sender_stable stable))
        (fun _ => (pending_stable _ _ _).and (sender_stable stable)) ?_ ?_
      · rintro state inv ⟨pending, holds⟩
        refine ⟨pending.replied.opened, pending.replied.announced, ?_, request, pending.asked⟩
        have provisioned := provisioned _ holds
        match result with
        | .ok (.created _ _ _ _) =>
            obtain ⟨entry, member, same, -⟩ := provisioned
            exact ⟨entry, member, same.trans (Option.some.inj made)⟩
      · rintro choice state _ link inv ⟨pending, holds⟩ executed
        obtain ⟨-, rfl⟩ := Prod.mk.inj (Option.some.inj executed)
        simp only [ControlState.setLink_links]
        have replied := pending.replied
        refine ⟨⟨⟨pending.here.begun, pending.here.taken⟩,
          ⟨replied.accepted, rfl, replied.written, replied.opened, fun none => ?_⟩, pending.next⟩,
            holds⟩
        simp [Link.record, replied.announced none]

def AtLoop (control : Control) (connection : Nat) (state : ControlState) : Prop :=
  (∃ seen, Serving control seen (state.links connection)) ∧
    (sending control.sender).rest (.handler connection) state.sender

def AtExit (control : Control) (connection : Nat) (state : ControlState) : Prop :=
  Leaving (state.links connection) ∧
    (sending control.sender).rest (.handler connection) state.sender

theorem serving_stable (seen : List Bytes) :
    (controlling control outsiders).Stable (.sender (.handler connection))
      fun state => Serving control seen (state.links connection) :=
  (atFrame_stable .server seen).and (replied_stable _ _)

theorem idle_stable :
    (controlling control outsiders).Stable (.sender (.handler connection))
      fun state => (sending control.sender).rest (.handler connection) state.sender :=
  sender_stable stable_rest

theorem atLoop_stable :
    (controlling control outsiders).Stable (.sender (.handler connection))
    (AtLoop control connection) :=
  Stable.and (Stable.exists fun seen => serving_stable seen) idle_stable

theorem atExit_stable :
    (controlling control outsiders).Stable (.sender (.handler connection))
    (AtExit control connection) :=
  leaving_stable.and idle_stable

def AfterFrame (control : Control) (connection : Nat)
    (outcome : Sum Unit (Except QlasterError Unit)) (state : ControlState) : Prop :=
  match outcome with
  | .inl _ => AtLoop control connection state
  | .inr _ => AtExit control connection state

theorem subscription_triple (lawful : control.Lawful) (seen : List Bytes)
    (request : SubscriptionRequest) :
    (controlling control outsiders).Triple (.sender (.handler connection))
      (fun state => Pending control seen request [] (state.links connection) ∧
        (sending control.sender).rest (.handler connection) state.sender)
      (do
        let result ← onSender (upsertShm control.sender request)
        noteCreated connection result
        onSender (ask (.note (.provisioned result)))
        match result with
        | .error error => return .inr (.error error)
        | .ok provision =>
            let sent ← onLink connection (sendReply control request provision)
            match sent with
            | .error error => return .inr (.error error)
            | .ok _ => return .inl ())
      (AfterFrame control connection) := by
  refine triple_bind (onSender_triple (pending_stable seen request []) (fun _ _ _ holds => holds)
    (upsert_triple control.sender request)) fun result => ?_
  have upserted : (sending control.sender).Stable (.handler connection) fun state =>
      (∃ own : Belongings, own.held = [] ∧ Upserted (.handler connection) own result state) ∧
        Answers control.sender request result state :=
    Stable.and (Stable.exists fun own => (Stable.const _).and (upserted_stable own result))
      (answers_persistent request result).stable
  have provisioned : ∀ state, ((∃ own : Belongings, own.held = [] ∧
      Upserted (.handler connection) own result state) ∧
        Answers control.sender request result state) →
      Provisioned result state := by
    rintro state ⟨⟨own, -, claim, fresh, -, provisioned⟩, -⟩
    exact provisioned
  refine triple_bind (noteCreated_triple seen request result upserted provisioned) fun _ => ?_
  have frame : (controlling control outsiders).Stable (.sender (.handler connection)) fun state =>
      Pending control seen request (createdEventfd result).toList (state.links connection) ∧
        Answers control.sender request result state.sender ∧ Provisioned result state.sender :=
    (pending_stable _ _ _).and (controlling_stable fun _ _ leaves holds =>
      ⟨holds.1.grows leaves.grows, holds.2.grows leaves.grows⟩)
  refine triple_bind (triple_weaken (onSender_triple frame
    (fun _ _ grows holds => ⟨holds.1, holds.2.1.grows grows, holds.2.2.grows grows⟩)
    (provisionedNote_triple control.sender result))
    (fun state _ holds => ⟨⟨holds.1, holds.2.2, provisioned _ holds.2⟩, holds.2.1⟩)
      fun _ _ _ holds => holds) fun _ => ?_
  cases result with
  | error error =>
      refine triple_done atExit_stable ?_
      rintro state inv ⟨⟨pending, -⟩, idle⟩
      exact ⟨pending.replied.leaving, idle⟩
  | ok provision =>
      refine triple_bind
        (triple_weaken (onLink_along (sendReply_triple lawful seen request provision) idle_stable)
        (fun _ _ holds => ⟨⟨holds.1.1, holds.1.2.1, holds.1.2.2⟩, holds.2⟩) fun _ _ _ holds =>
          holds) fun sent => ?_
      cases sent with
      | error error => exact triple_done atExit_stable fun _ _ holds => holds
      | ok _ => exact triple_done atLoop_stable fun _ _ holds => ⟨⟨seen, holds.1⟩, holds.2⟩

theorem readRequest_triple (seen : List Bytes) :
    (controlling control outsiders).Triple (.sender (.handler connection))
      (fun state => Serving control seen (state.links connection) ∧
        (sending control.sender).rest (.handler connection) state.sender)
      (onLink connection (readFramed .server))
      (Settled (fun payload state => (AtFrame .server (seen ++ [payload]) (state.links connection) ∧
          Replied (asks control seen) [] (state.links connection)) ∧
          (sending control.sender).rest (.handler connection) state.sender)
        (AtExit control connection)) := by
  have takes : ∀ (state : ControlState) (count : Nat),
      Replied (asks control seen) [] (state.links connection) →
      Replied (asks control seen) [] ((state.setLink connection
        ((state.links connection).take .server count)).links connection) := by
    intro state count holds
    rw [ControlState.setLink_links]
    exact { holds with }
  have read : (controlling control outsiders).Triple (.sender (.handler connection)) _
      (onLink connection (readFramed .server)) _ :=
    readFramed_triple .server seen (replied_stable (asks control seen) []) takes
  refine triple_weaken (onLink_along read idle_stable) (fun _ _ holds => holds) ?_
  rintro (error | payload) state inv ⟨holds, idle⟩
  · exact ⟨holds.2.leaving, idle⟩
  · exact ⟨⟨holds.1.1, holds.2⟩, idle⟩

theorem handleFrameOf_triple (lawful : control.Lawful) :
    (controlling control outsiders).Triple (.sender (.handler connection))
    (AtLoop control connection)
      (handleFrameOf control connection) (AfterFrame control connection) := by
  refine triple_weaken
    (triple_exists fun seen => triple_bind (readRequest_triple seen) fun result => ?_)
    (fun _ _ ⟨⟨seen, holds⟩, idle⟩ => ⟨seen, holds, idle⟩) fun _ _ _ holds => holds
  cases result with
  | error error =>
      split
      · exact triple_done atExit_stable fun _ _ holds => holds
      · exact triple_done atExit_stable fun _ _ holds => holds
      · rename_i impossible
        simp at impossible
  | ok payload =>
      have readStable :
        (controlling control outsiders).Stable (.sender (.handler connection)) fun state =>
          (AtFrame .server (seen ++ [payload]) (state.links connection) ∧
            Replied (asks control seen) [] (state.links connection)) ∧
          (sending control.sender).rest (.handler connection) state.sender :=
        ((atFrame_stable .server _).and (replied_stable _ _)).and idle_stable
      refine triple_bind (settle_triple (decodeClientFrame control.wincode payload) readStable)
        fun decoded => ?_
      cases decoded with
      | error error =>
        exact triple_done atExit_stable fun _ _ holds => ⟨holds.1.1.2.leaving, holds.1.2⟩
      | ok frame =>
          refine triple_fact fun decoded => ?_
          cases frame with
          | subscription request =>
              refine triple_weaken (subscription_triple lawful (seen ++ [payload]) request) ?_
                fun _ _ _ holds => holds
              rintro state inv ⟨⟨here, replied⟩, idle⟩
              refine ⟨⟨here, by rwa [replied.answered], ?_⟩, idle⟩
              rw [replied.answered, asks_append]
              simp [asks, decoded]
          | ping ping =>
              have frameStable :
                (controlling control outsiders).Stable (.sender (.handler connection)) fun state =>
                  AtFrame .server (seen ++ [payload]) (state.links connection) ∧
                    Replied (asks control seen) [] (state.links connection) :=
                (atFrame_stable .server _).and (replied_stable _ _)
              refine triple_bind (onSender_triple frameStable (fun _ _ _ holds => holds)
                (touch_triple control.sender ping)) fun _ => ?_
              refine triple_done atLoop_stable ?_
              rintro state inv ⟨⟨here, replied⟩, idle⟩
              refine ⟨⟨seen ++ [payload], here, ?_⟩, idle⟩
              have none : asks control [payload] = [] := by simp [asks, decoded]
              rwa [asks_append, none, List.append_nil]

theorem handleUdsConnection_triple (lawful : control.Lawful) :
    (controlling control outsiders).Triple (.sender (.handler connection))
    (AtLoop control connection)
      (handleUdsConnection control connection) fun _ =>
        controlRest control (.sender (.handler connection)) := by
  have dropped : (controlling control outsiders).Triple (.sender (.handler connection))
    (AtExit control connection)
      (onLink connection (.perform (.drop .server)))
      fun _ => controlRest control (.sender (.handler connection)) := by
    refine link_triple rfl atExit_stable (fun _ => stable_rest)
      (fun _ _ holds => holds.1.replied) ?_
    rintro choice state _ link inv ⟨leaving, idle⟩ executed
    obtain ⟨-, rfl⟩ := Prod.mk.inj (Option.some.inj executed)
    refine ⟨idle, ?_⟩
    rintro other same unaccepted
    obtain rfl := SenderTask.handler.inj same
    simp [Link.hangUp, leaving.accepted] at unaccepted
  refine triple_bind
    (triple_loop (fun _ => atExit_stable) (triple_weaken (handleFrameOf_triple lawful)
    (fun _ _ holds => holds) ?_)) fun result => triple_bind dropped fun _ =>
      triple_done stable_rest fun _ _ holds => holds
  rintro (_ | _) state inv holds
  · exact holds
  · exact holds

theorem serve_triple (lawful : control.Lawful) :
    (controlling control outsiders).Triple (.sender (.handler connection))
      (controlRest control (.sender (.handler connection)))
      (controlProgram control (.serve connection))
      fun _ => controlRest control (.sender (.handler connection)) := by
  have accepted : (controlling control outsiders).Triple (.sender (.handler connection))
      (controlRest control (.sender (.handler connection))) (onLink connection (.perform .accept))
      fun _ => AtLoop control connection := by
    refine link_triple rfl stable_rest (fun _ => atLoop_stable) (fun _ _ _ => trivial) ?_
    rintro choice state _ link inv ⟨idle, unserved⟩ executed
    simp only [Link.exec] at executed
    split at executed
    · rename_i fresh
      simp only [Bool.and_eq_true, Bool.not_eq_true'] at fresh
      obtain ⟨-, rfl⟩ := Prod.mk.inj (Option.some.inj executed)
      have unserved := unserved connection rfl fresh.2
      refine ⟨⟨[], ⟨List.nil_prefix, ?_⟩, ?_, ?_, ?_, ?_, fun _ => ?_⟩, idle⟩
      all_goals simp only [ControlState.setLink_links]
      · exact unserved.taken
      · simp [unserved.answers, asks]
      · simp [unserved.answers, unserved.written]
      · exact unserved.closed
      · exact unserved.announced
    · simp at executed
  exact triple_bind accepted fun _ => triple_bind (handleUdsConnection_triple lawful) fun _ =>
    triple_done stable_rest fun _ _ holds => holds

end

end Qlaster
