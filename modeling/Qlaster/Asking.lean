import Qlaster.Setup

/-!
The calls of a consumer that has its ring keep to the discipline: the reply it reads is the
one to the request it has just sent, until the socket fails for good.
-/

namespace Qlaster

open Interleaving Interleaving.Discipline LittleEndian PrefixCode

section
variable {control : Control} {outsiders : Bool} {connection : Nat}

structure Talking (token : SlotToken) (link : Link) : Prop where
  connected : link.connected = true
  reads : ∃ consumer, link.consumer = some consumer ∧ consumer.ring.slotToken = token

theorem Talking.keeps {token : SlotToken} {link after : Link} (talking : Talking token link)
    (keeps : ClientKeeps control link after) : Talking token after :=
  ⟨keeps.connected.trans talking.connected, by rw [keeps.consumer]; exact talking.reads⟩

theorem Talking.rest {token : SlotToken} {link : Link} (talking : Talking token link)
    (synchronised : Synchronised control link) : ClientRest control link := by
  obtain ⟨consumer, here, -⟩ := talking.reads
  rw [ClientRest, here]
  exact ⟨talking.connected, synchronised⟩

def AtRest (control : Control) (token : SlotToken) (link : Link) : Prop := Talking token link ∧
    Synchronised control link

theorem atRest_stable (token : SlotToken) :
    (controlling control outsiders).Stable (.consumer connection)
      fun state => AtRest control token (state.links connection) :=
  client_stable fun _ _ keeps holds => ⟨holds.1.keeps keeps, holds.2.keeps keeps⟩

theorem slotToken_triple :
    (controlling control outsiders).Triple (.consumer connection)
    (controlRest control (.consumer connection))
      (onLink connection ShmConsumer.slotToken) fun found state => ∃ token,
        AtRest control token (state.links connection) ∧ found = some token ∧
          token.slotIndex ≠ unsetSlotIndex := by
  have index : (controlling control outsiders).Triple (.consumer connection)
      (controlRest control (.consumer connection))
      (onLink connection (.perform .loadSlotTokenIndex))
      fun index state => ∃ token, AtRest control token (state.links connection) ∧
        index = token.slotIndex ∧ token.slotIndex ≠ unsetSlotIndex := by
    refine link_triple rfl stable_rest
      (fun _ => Stable.exists fun token => (atRest_stable token).and (Stable.const _))
      (fun _ _ _ => trivial) ?_
    intro choice state reply link inv rest executed
    obtain ⟨consumer, here, same⟩ := Option.map_eq_some_iff.mp executed
    obtain ⟨rfl, rfl⟩ := Prod.mk.inj same
    have tokened := (inv.links connection).tokened consumer here
    simp only [controlRest, ClientRest, here] at rest
    simp only [ControlState.setLink_links]
    exact ⟨consumer.ring.slotToken, ⟨⟨rest.1, consumer, here, rfl⟩, rest.2⟩,
      tokened.index, tokened.set⟩
  have generation : ∀ token, (controlling control outsiders).Triple (.consumer connection)
      (fun state => AtRest control token (state.links connection))
      (onLink connection (.perform .loadSlotTokenGeneration))
      fun generation state => AtRest control token (state.links connection) ∧
        generation = token.generation := by
    intro token
    refine link_triple rfl (atRest_stable token)
      (fun _ => (atRest_stable token).and (Stable.const _)) (fun _ _ _ => trivial) ?_
    intro choice state reply link inv ready executed
    obtain ⟨consumer, here, same⟩ := Option.map_eq_some_iff.mp executed
    obtain ⟨rfl, rfl⟩ := Prod.mk.inj same
    simp only [ControlState.setLink_links]
    refine ⟨ready, ?_⟩
    obtain ⟨other, here', rfl⟩ := ready.1.reads
    obtain rfl : consumer = other := Option.some.inj (here.symm.trans here')
    exact ((inv.links connection).tokened consumer here).generation
  have foundStable : ∀ found : Option SlotToken, (controlling control outsiders).Stable
    (.consumer connection)
      fun state => ∃ token, AtRest control token (state.links connection) ∧ found = some token ∧
        token.slotIndex ≠ unsetSlotIndex :=
    fun _ => Stable.exists fun token => (atRest_stable token).and (Stable.const _)
  simp only [ShmConsumer.slotToken, Program.bind_eq, onLink_bind]
  refine triple_bind index fun found => triple_exists fun token => triple_fact fun same => ?_
  obtain ⟨rfl, set⟩ := same
  rw [if_neg set, onLink_bind]
  refine triple_bind (generation token) fun found => triple_fact fun same => ?_
  subst same
  exact triple_done (foundStable _) fun _ _ ready => ⟨token, ready, rfl, set⟩

/-- A frame was sent on a sound socket; the subscriptions of `left` wait for their replies. -/
structure Sent (control : Control) (token : SlotToken) (left : List SubscriptionRequest)
    (rest : Bytes) (link : Link) : Prop where
  talking : Talking token link
  written : link.requests.written ++ rest = framesBytes link.sent
  step : InStep control left link

theorem sent_stable (token : SlotToken) (left : List SubscriptionRequest) (rest : Bytes) :
    (controlling control outsiders).Stable (.consumer connection)
      fun state => Sent control token left rest (state.links connection) := by
  refine client_stable fun before after keeps sent =>
    ⟨sent.talking.keeps keeps, ?_, sent.step.keeps keeps⟩
  rw [keeps.written, keeps.sent]
  exact sent.written

structure Begun (control : Control) (token : SlotToken) (payload : Bytes) (link : Link) : Prop where
  talking : Talking token link
  writing : link.replies.closed = true ∨ link.health .client = .failed ∨
    link.requests.written ++ frameBytes payload = framesBytes link.sent
  reading : link.replies.closed = true ∨ link.health .client ≠ .sound ∨
    InStep control (asks control [payload]) link

theorem begun_stable (token : SlotToken) (payload : Bytes) :
    (controlling control outsiders).Stable (.consumer connection)
      fun state => Begun control token payload (state.links connection) := by
  refine client_stable fun before after keeps begun => ⟨begun.talking.keeps keeps, ?_, ?_⟩
  · rw [keeps.written, keeps.sent]
    exact begun.writing.imp (fun closed => (keeps.hungUp closed).1) (Or.imp_left keeps.failed)
  · exact begun.reading.imp (fun closed => (keeps.hungUp closed).1)
      (Or.imp (keeps.ill _) fun step => step.keeps keeps)

theorem InStep.put {left : List SubscriptionRequest} {link : Link} {bytes : Bytes}
    (step : InStep control left link) : InStep control left (link.put .client bytes) := step

theorem Talking.spoilt {token : SlotToken} {link : Link} {bytes : Bytes} {count : Nat}
    (talking : Talking token link) (ill : link.health .client ≠ .sound) :
    AtRest control token (link.spoil .client bytes count) := by
  -- After a write that failed nothing more will be written.
  have failed : (link.spoil .client bytes count).health .client = .failed := spoil_failed ill
  refine ⟨⟨?_, ?_⟩, .inr (.inl failed), .inr (.inl (by simp [failed]))⟩
  · rw [Link.spoil_connected, talking.connected]
  · rw [Link.spoil_consumer]
    exact talking.reads

theorem sendRequest_triple (token : SlotToken) (payload : Bytes) :
    (controlling control outsiders).Triple (.consumer connection)
      (fun state => AtRest control token (state.links connection))
      (onLink connection (writeFramed .client payload (.sending payload)))
      (Settled (fun _ state => Sent control token (asks control [payload]) []
        (state.links connection)) fun state => AtRest control token (state.links connection)) := by
  unfold writeFramed
  split
  · exact triple_done (atRest_stable token) fun _ _ ready => ready
  rename_i small
  have note : (controlling control outsiders).Triple (.consumer connection)
      (fun state => AtRest control token (state.links connection))
      (onLink connection (.perform (.note (.sending payload))))
      fun _ state => Begun control token payload (state.links connection) := by
    refine link_triple rfl (atRest_stable token) (fun _ => begun_stable token payload) ?_ ?_
    · rintro state inv ⟨talking, -⟩
      refine ⟨by omega, fun waiting => ?_⟩
      obtain ⟨consumer, here, -⟩ := talking.reads
      simp [waiting] at here
    · rintro choice state _ link inv ⟨talking, synchronised⟩ executed
      obtain ⟨-, rfl⟩ := Prod.mk.inj (Option.some.inj executed)
      simp only [ControlState.setLink_links]
      refine ⟨⟨talking.connected, talking.reads⟩, ?_, ?_⟩
      · refine synchronised.writing.imp_right (Or.imp_right fun written => ?_)
        simp [Link.record, written]
      · refine synchronised.reading.imp_right (Or.imp_right ?_)
        rintro ⟨⟨front, asked, count⟩, seen⟩
        rw [List.append_nil] at asked
        exact ⟨⟨front, by simp only [Link.record, asks_append, asked], count⟩, seen⟩
  have header : (controlling control outsiders).Triple (.consumer connection)
      (fun state => Begun control token payload (state.links connection))
      (onLink connection (call (.writeAll .client (frameHeader payload)) .io))
      (Settled (fun _ state => Sent control token (asks control [payload]) payload
        (state.links connection)) fun state => AtRest control token (state.links connection)) := by
    refine writeAll_triple .client (begun_stable token payload) (sent_stable _ _ _)
      (atRest_stable token) ?_ ?_ ?_ ?_
    · rintro state inv ⟨-, writing, -⟩
      refine writing.imp_right (Or.imp_right fun whole => ?_)
      rw [← whole, frameBytes, ← List.append_assoc]
      exact List.prefix_append _ _
    · rintro state inv ⟨talking, writing, reading⟩ sound opened
      have opened : (state.links connection).replies.closed = false := opened
      simp only [ControlState.setLink_links]
      simp only [opened, sound, Bool.false_eq_true, reduceCtorEq, false_or, ne_eq,
        not_true_eq_false] at writing reading
      refine ⟨⟨talking.connected, talking.reads⟩, ?_, reading.put⟩
      simpa [Link.put, frameBytes] using writing
    · rintro state inv ⟨talking, -, -⟩ closed
      exact ⟨talking, .inl closed, .inl closed⟩
    · rintro state count inv ⟨talking, -, -⟩ ill
      rw [ControlState.setLink_links]
      exact talking.spoilt ill
  simp only [Program.bind_eq, onLink_bind]
  refine triple_bind note fun _ => attempt_triple (fun _ => atRest_stable token) header
    (fun _ _ _ holds => holds) fun _ => ?_
  refine writeAll_triple .client (sent_stable _ _ _) (sent_stable _ _ _)
    (atRest_stable token) ?_ ?_ ?_ ?_
  · intro state inv sent
    exact .inr (.inr (by rw [sent.written]))
  · intro state inv sent _ _
    simp only [ControlState.setLink_links]
    refine ⟨⟨sent.talking.connected, sent.talking.reads⟩, ?_, sent.step.put⟩
    simpa [Link.put] using sent.written
  · intro state inv sent closed
    exact ⟨sent.talking, .inl closed, .inl closed⟩
  · intro state count inv sent ill
    rw [ControlState.setLink_links]
    exact sent.talking.spoilt ill

/-! Replies. -/

theorem prefix_map_concat {α β : Type} {wrap : α → β} {front all : List α} {last : β}
    (begins : front <+: all)
    (next : front.map wrap ++ [last] <+: all.map wrap) : ∃ value, front ++ [value] <+: all ∧
      wrap value = last := by
  obtain ⟨rest, rfl⟩ := begins
  rw [List.map_append, List.prefix_append_right_inj] at next
  cases rest with
  | nil => simp at next
  | cons value rest =>
      rw [List.map_cons, List.cons_prefix_cons] at next
      exact ⟨value, ⟨rest, by simp⟩, next.1.symm⟩

structure Awaiting (control : Control) (token : SlotToken) (request : SubscriptionRequest)
    (seen : List Answer) (link : Link) : Prop where
  talking : Talking token link
  written : link.requests.written = framesBytes link.sent
  asked : ∃ front, asks control link.sent = front ++ [request] ∧ front.length = seen.length
  begun : seen <+: link.answers
  count : seen.length = 1 + link.exchanges.length

structure ReadReply (control : Control) (token : SlotToken) (request : SubscriptionRequest)
    (reply : Bytes) (link : Link) : Prop where
  talking : Talking token link
  written : link.requests.written = framesBytes link.sent
  step : InStep control [] link
  answer : ∃ answer ∈ link.answers, answer.request = request ∧ answer.payload = reply

theorem awaiting_stable (token : SlotToken) (request : SubscriptionRequest) (seen : List Answer) :
    (controlling control outsiders).Stable (.consumer connection)
      fun state => Awaiting control token request seen (state.links connection) := by
  refine client_stable fun before after keeps holds => ?_
  refine ⟨holds.talking.keeps keeps, ?_, ?_, holds.begun.trans keeps.answers, ?_⟩
  · rw [keeps.written, keeps.sent]
    exact holds.written
  · rw [keeps.sent]
    exact holds.asked
  · rw [keeps.exchanges]
    exact holds.count

theorem readReply_stable (token : SlotToken) (request : SubscriptionRequest) (reply : Bytes) :
    (controlling control outsiders).Stable (.consumer connection)
      fun state => ReadReply control token request reply (state.links connection) := by
  refine client_stable fun before after keeps holds => ?_
  refine ⟨holds.talking.keeps keeps, ?_, holds.step.keeps keeps, ?_⟩
  · rw [keeps.written, keeps.sent]
    exact holds.written
  · obtain ⟨answer, member, found⟩ := holds.answer
    exact ⟨answer, keeps.answers.subset member, found⟩

theorem ReadReply.atRest {token : SlotToken} {request : SubscriptionRequest} {reply : Bytes}
    {link : Link}
    (heard : ReadReply control token request reply link) : AtRest control token link :=
  ⟨heard.talking, .inr (.inr heard.written), .inr (.inr heard.step)⟩

theorem Awaiting.next {token : SlotToken} {request : SubscriptionRequest} {seen : List Answer}
    {link : Link} {state : SenderState} (awaiting : Awaiting control token request seen link)
    (inv : LinkInv control state link) {reply : Bytes}
    (next : seen.map Answer.payload ++ [reply] <+: link.answers.map Answer.payload) :
    ∃ answer, seen ++ [answer] <+: link.answers ∧ answer.request = request ∧
      answer.payload = reply := by
  -- The reply that comes next is the one to the request that waits for it.
  obtain ⟨answer, begun, payload⟩ := prefix_map_concat awaiting.begun next
  refine ⟨answer, begun, ?_, payload⟩
  obtain ⟨front, asked, count⟩ := awaiting.asked
  have requests : (seen ++ [answer]).map Answer.request <+: front ++ [request] := by
    rw [← asked]
    exact (begun.map _).trans inv.asked
  have same := requests.eq_of_length (by simp [count])
  rw [List.map_append, List.map_singleton] at same
  have last := (List.append_inj' same rfl).2
  simpa using last

theorem Awaiting.exchange {token : SlotToken} {request : SubscriptionRequest} {seen : List Answer}
    {link : Link} {state : SenderState} (awaiting : Awaiting control token request seen link)
    (inv : LinkInv control state link)
    {answer : Answer} (begun : seen ++ [answer] <+: link.answers) :
    link.exchanges ++ [answer.exchange] <+: (link.answers.drop 1).map Answer.exchange := by
  have count := awaiting.count
  have read : (seen.drop 1).map Answer.exchange ++ [answer.exchange] <+:
      (link.answers.drop 1).map Answer.exchange := by
    have dropped := (begun.drop 1).map Answer.exchange
    rwa [List.drop_append_of_le_length (by omega), List.map_append, List.map_singleton] at dropped
  have before : link.exchanges <+: (seen.drop 1).map Answer.exchange := by
    refine List.prefix_of_prefix_length_le inv.exchanged ((List.prefix_append _ _).trans read) ?_
    simp
    omega
  rwa [before.eq_of_length (by simp; omega)]

theorem readReply_triple (token : SlotToken) (request : SubscriptionRequest) :
    (controlling control outsiders).Triple (.consumer connection)
      (fun state => Sent control token [request] [] (state.links connection))
      (onLink connection (readFramed .client))
      (Settled (fun reply state => ∃ seen, Awaiting control token request seen
        (state.links connection) ∧
          AtFrame .client (seen.map Answer.payload ++ [reply]) (state.links connection))
        fun state => AtRest control token (state.links connection)) := by
  have takes : ∀ (seen : List Answer) (state : ControlState) (count : Nat),
      Awaiting control token request seen (state.links connection) →
      Awaiting control token request seen ((state.setLink connection
        ((state.links connection).take .client count)).links connection) := by
    intro seen state count holds
    rw [ControlState.setLink_links]
    exact ⟨⟨holds.talking.connected, holds.talking.reads⟩, holds.written, holds.asked,
      holds.begun, holds.count⟩
  have read : ∀ seen : List Answer, (controlling control outsiders).Triple (.consumer connection) _
      (onLink connection (readFramed .client)) _ :=
    fun seen => readFramed_triple .client (seen.map Answer.payload)
      (awaiting_stable token request seen) (takes seen)
  refine triple_weaken
    (triple_exists fun seen => triple_weaken (read seen) (fun _ _ holds => holds) ?_) ?_
    fun _ _ _ holds => holds
  · rintro (error | reply) state inv holds
    · obtain ⟨broken, awaiting⟩ := holds
      refine ⟨awaiting.talking, .inr (.inr awaiting.written), ?_⟩
      rcases broken with closed | ill | ⟨payload, member, large⟩
      · exact .inl closed
      · exact .inr (.inl ill)
      · obtain ⟨answer, answered, rfl⟩ := List.mem_map.mp member
        have fits := ((inv.links connection).answered answer answered).fits
        omega
    · exact ⟨seen, holds.2, holds.1.1⟩
  · rintro state inv ⟨talking, written, ⟨front, asked, count⟩, seen, begun, length, taken⟩
    rw [List.append_nil] at written
    exact ⟨seen, ⟨begun.map _, taken⟩, talking, written, ⟨front, asked, count.trans length.symm⟩,
      begun, length⟩

theorem exchanged_triple (token : SlotToken) (request : SubscriptionRequest) (reply : Bytes) :
    (controlling control outsiders).Triple (.consumer connection)
      (fun state => ∃ seen, Awaiting control token request seen (state.links connection) ∧
        AtFrame .client (seen.map Answer.payload ++ [reply]) (state.links connection))
      (onLink connection (.perform (.note (.exchanged request reply))))
      fun _ state => ReadReply control token request reply (state.links connection) := by
  refine triple_exists fun seen =>
    link_triple rfl ((awaiting_stable _ _ _).and (atFrame_stable .client _))
    (fun _ => readReply_stable _ _ _) ?_ ?_
  · rintro state inv ⟨awaiting, here⟩
    obtain ⟨answer, begun, rfl, rfl⟩ := awaiting.next (inv.links connection) here.begun
    exact awaiting.exchange (inv.links connection) begun
  · rintro choice state _ link inv ⟨awaiting, here⟩ executed
    obtain ⟨-, rfl⟩ := Prod.mk.inj (Option.some.inj executed)
    obtain ⟨answer, begun, rfl, rfl⟩ := awaiting.next (inv.links connection) here.begun
    obtain ⟨front, asked, count⟩ := awaiting.asked
    have length := awaiting.count
    simp only [ControlState.setLink_links]
    refine ⟨⟨awaiting.talking.connected, awaiting.talking.reads⟩, awaiting.written,
      ⟨⟨front ++ [answer.request], ?_, ?_⟩, seen ++ [answer], begun, ?_, ?_⟩,
      answer, begun.subset (by simp), rfl, rfl⟩
    · simpa [Link.record] using asked
    · simp [Link.record]
      omega
    · simp [Link.record]
      omega
    · rw [List.map_append, List.map_singleton]
      exact here.taken

theorem ReadReply.confirms (lawful : control.Lawful) {token : SlotToken}
    {request : SubscriptionRequest} {reply : Bytes}
    {link : Link} {state : SenderState} (heard : ReadReply control token request reply link)
    (inv : LinkInv control state link) (carried : request.slotToken = some token)
    {ready : ConnectionReady}
    (decoded : decodeServerFrameOwned control.sender.codecs reply = .ok (.connectionReady ready)) :
    ready.slotToken = token ∧ Confirmed state link request := by
  obtain ⟨answer, member, rfl, rfl⟩ := heard.answer
  have answered := inv.answered answer member
  have existing := replyPayload_ready lawful answered.encoded decoded
  have answers := answered.answers
  rw [existing] at answers
  obtain ⟨named, entry, installed, issued, refreshed⟩ := answers
  have same : ready.slotToken = token := Option.some.inj (named.symm.trans carried)
  obtain ⟨consumer, here, reads⟩ := heard.talking.reads
  refine ⟨same, consumer, entry, here, ?_, installed, refreshed, answer, member, rfl, ?_⟩
  · rw [reads, ← same, issued]
  · rw [issued, existing]

theorem storeToken_triple (token : SlotToken) (request : SubscriptionRequest) (reply : Bytes)
    {op : LinkOp Unit}
    {store : ShmConsumer → ShmConsumer} (owner : op.ownedBy (.consumer connection) connection)
    (stores : ∀ (link : Link) choice files, link.exec choice files op =
      link.consumer.map fun consumer => ((), { link with consumer := some (store consumer) }))
    (ring : ∀ consumer, (store consumer).ring = consumer.ring)
    (guarded : ∀ state, ControlInv control state → ReadReply control token request reply
      (state.links connection) →
      linkGuard control state.sender state.adopted (state.links connection) op) :
    (controlling control outsiders).Triple (.consumer connection)
      (fun state => ReadReply control token request reply (state.links connection))
      (onLink connection (.perform op))
      fun _ state => ReadReply control token request reply (state.links connection) := by
  refine link_triple owner (readReply_stable _ _ _) (fun _ => readReply_stable _ _ _) guarded ?_
  intro choice state _ link inv heard executed
  rw [stores] at executed
  obtain ⟨consumer, here, same⟩ := Option.map_eq_some_iff.mp executed
  obtain ⟨-, rfl⟩ := Prod.mk.inj same
  obtain ⟨other, here', reads⟩ := heard.talking.reads
  obtain rfl : consumer = other := Option.some.inj (here.symm.trans here')
  simp only [ControlState.setLink_links]
  exact ⟨⟨heard.talking.connected, _, rfl, by rw [ring, reads]⟩, heard.written, heard.step,
    heard.answer⟩

theorem confirm_triple (lawful : control.Lawful) {token : SlotToken} {request : SubscriptionRequest}
    {reply : Bytes} (carried : request.slotToken = some token) {ready : ConnectionReady}
    (decoded : decodeServerFrameOwned control.sender.codecs reply = .ok (.connectionReady ready)) :
    (controlling control outsiders).Triple (.consumer connection)
      (fun state => ReadReply control token request reply (state.links connection))
      (onLink connection (do
        .perform (.storeSlotTokenIndex ready.slotToken.slotIndex)
        .perform (.storeSlotTokenGeneration ready.slotToken.generation)
        .perform (.note (.confirmed request))
        return (.ok () : Except QlasterError Unit)))
      fun _ state => AtRest control token (state.links connection) := by
  have reads : ∀ state, ControlInv control state → ReadReply control token request reply
    (state.links connection) →
      ∀ consumer, (state.links connection).consumer = some consumer →
        ready.slotToken = consumer.ring.slotToken := by
    intro state inv heard consumer here
    obtain ⟨other, here', same⟩ := heard.talking.reads
    obtain rfl : consumer = other := Option.some.inj (here.symm.trans here')
    rw [same, (heard.confirms lawful (inv.links connection) carried decoded).1]
  simp only [Program.bind_eq, onLink_bind]
  refine triple_bind
    (storeToken_triple token request reply rfl (fun _ _ _ => rfl) (fun _ => rfl) ?_) fun _ =>
    triple_bind (storeToken_triple token request reply rfl (fun _ _ _ => rfl) (fun _ => rfl) ?_)
      fun _ =>
    triple_bind (link_triple rfl (readReply_stable _ _ _) (fun _ => atRest_stable token) ?_ ?_)
      fun _ =>
    triple_done (atRest_stable token) fun _ _ holds => holds
  · exact fun state inv heard consumer here => by rw [reads state inv heard consumer here]
  · exact fun state inv heard consumer here => by rw [reads state inv heard consumer here]
  · exact fun state inv heard => (heard.confirms lawful (inv.links connection) carried decoded).2
  · intro choice state _ link inv heard executed
    obtain ⟨-, rfl⟩ := Prod.mk.inj (Option.some.inj executed)
    simp only [ControlState.setLink_links]
    exact ⟨⟨heard.talking.connected, heard.talking.reads⟩, .inr (.inr heard.written),
      .inr (.inr heard.step)⟩

theorem sendSubscription_triple (lawful : control.Lawful) {token : SlotToken}
    {request : SubscriptionRequest}
    (carried : request.slotToken = some token) (set : token.slotIndex ≠ unsetSlotIndex) :
    (controlling control outsiders).Triple (.consumer connection)
      (fun state => AtRest control token (state.links connection))
      (onLink connection (sendSubscription control request))
      fun _ state => AtRest control token (state.links connection) := by
  have stable : ∀ _ : QlasterError, (controlling control outsiders).Stable (.consumer connection)
      fun state => AtRest control token (state.links connection) := fun _ => atRest_stable token
  refine attempt_triple stable (settle_triple _ (atRest_stable token)) (fun _ _ _ holds => holds.1)
    fun encoded => triple_fact fun written => ?_
  have asked : asks control [encoded] = [request] := by
    refine (asks_request lawful (fun other same => ?_) written).1
    rwa [← Option.some.inj (carried.symm.trans same)]
  refine attempt_triple stable (sendRequest_triple token encoded) (fun _ _ _ holds => holds)
    fun _ => ?_
  rw [asked]
  refine attempt_triple stable (readReply_triple token request) (fun _ _ _ holds => holds)
    fun reply => ?_
  simp only [Program.bind_eq, onLink_bind]
  refine triple_bind (exchanged_triple token request reply) fun _ => ?_
  refine attempt_triple stable (settle_triple _ (readReply_stable _ _ _))
    (fun _ _ _ holds => holds.1.atRest) fun frame => triple_fact fun decoded => ?_
  cases frame with
  | connectionReady ready => exact confirm_triple lawful carried decoded
  | _ => exact triple_done (atRest_stable token) fun _ _ heard => heard.atRest

/-! The calls. -/

theorem AtRest.rest {token : SlotToken} {state : ControlState}
    (ready : AtRest control token (state.links connection)) :
    controlRest control (.consumer connection) state :=
  ready.1.rest ready.2

theorem subscribeWith_triple (lawful : control.Lawful) (request : SubscriptionRequest) :
    (controlling control outsiders).Triple (.consumer connection)
    (controlRest control (.consumer connection))
      (onLink connection (do
        let token ← ShmConsumer.slotToken
        sendSubscription control (request.withSlotToken token)))
      fun _ => controlRest control (.consumer connection) := by
  simp only [Program.bind_eq, onLink_bind]
  refine triple_bind slotToken_triple fun found => triple_exists fun token =>
    triple_fact fun ⟨same, set⟩ => ?_
  subst same
  exact triple_weaken (sendSubscription_triple lawful rfl set) (fun _ _ holds => holds)
    fun _ _ _ ready => ready.rest

theorem sendPing_triple (lawful : control.Lawful) :
    (controlling control outsiders).Triple (.consumer connection)
    (controlRest control (.consumer connection))
      (onLink connection (sendPing control)) fun _ =>
        controlRest control (.consumer connection) := by
  simp only [sendPing, Program.bind_eq, onLink_bind]
  refine triple_bind slotToken_triple fun found => triple_exists fun token =>
    triple_fact fun ⟨same, set⟩ => ?_
  subst same
  refine attempt_triple (fun _ => stable_rest) (settle_triple _ (atRest_stable token))
    (fun _ _ _ holds => holds.1.rest) fun encoded => triple_fact fun written => ?_
  refine triple_weaken (sendRequest_triple token encoded) (fun _ _ holds => holds) ?_
  rintro (error | _) state inv holds
  · exact holds.rest
  · rw [asks_ping lawful written] at holds
    have written :
        (state.links connection).requests.written = framesBytes (state.links connection).sent := by
      simpa using holds.written
    exact holds.talking.rest ⟨.inr (.inr written), .inr (.inr holds.step)⟩

end

end Qlaster
