import Qlaster.Slots

/-!
From the dispatchers to the consumers. The sender's side is an outbox: calls of the
dispatchers, the frames each ring has accepted, and which call each frame is of. What
a ring accepted is then what its consumer sees, up to what its queues lose.
-/

namespace Qlaster

open Interleaving Interleaving.Discipline

/-! Frames decode to the update they are made of. -/

section
variable {codecs : Codecs} {nanos : UInt64} {frame : OutboundFrame}

theorem encodeAccountFrame_decodes (lossless : codecs.lz4.RoundTrips) {update : AccountUpdate}
    (made : encodeAccountFrame codecs update nanos = .ok frame) :
    decodeUpdate codecs (frame.header ++ frame.payload) = some (.account update) := by
  have encoded := update.encodePartsAt_eq codecs.lz4 nanos
  simp only [encodeAccountFrame, encoded, ok_bind, pure_ok, Except.ok.injEq] at made
  subst frame
  simp only [decodeUpdate, (update.encoded_carries codecs lossless nanos encoded).routedWithMeta]

theorem encodeTransactionFrame_decodes {update : TransactionUpdate}
    (made : encodeTransactionFrame update nanos = .ok frame) :
    decodeUpdate codecs (frame.header ++ frame.payload) = some (.transaction update) := by
  have encoded := update.encodePartsAt_eq nanos
  simp only [encodeTransactionFrame, encoded, ok_bind, pure_ok, Except.ok.injEq] at made
  subst frame
  simp only [decodeUpdate, update.encoded_routed codecs nanos encoded]

theorem encodeSlotFrame_decodes {update : SlotUpdate}
    (made : encodeSlotFrame update nanos = .ok frame) :
    decodeUpdate codecs (frame.header ++ frame.payload) = some (.slot update) := by
  have encoded : update.encodePartsAt nanos = .ok (update.header nanos, []) := rfl
  simp only [encodeSlotFrame, encoded, ok_bind, pure_ok, Except.ok.injEq] at made
  subst frame
  simp only [decodeUpdate, update.encoded_routed codecs nanos encoded]

end

theorem encodeFrame_decodes {codecs : Codecs} (lossless : codecs.lz4.RoundTrips) {update : Update}
    {nanos : UInt64} {frame : OutboundFrame} (made : encodeFrame codecs update nanos = .ok frame) :
    decodeUpdate codecs (frame.header ++ frame.payload) = some update := by
  cases update with
  | account update => exact encodeAccountFrame_decodes lossless made
  | transaction update => exact encodeTransactionFrame_decodes made
  | slot update => exact encodeSlotFrame_decodes made

theorem FrameOf.carries {codecs : Codecs} (lossless : codecs.lz4.RoundTrips) {update : Update}
    {bytes : Bytes} (frame : FrameOf codecs update bytes) :
    ∃ body, bodyOf bytes = some body ∧ decodeUpdate codecs body = some update := by
  obtain ⟨nanos, frame, made, rfl⟩ := frame
  exact ⟨frame.header ++ frame.payload, bodyOf_frame _, encodeFrame_decodes lossless made⟩

theorem FrameOf.ne_sentinel {codecs : Codecs} {update : Update} {bytes : Bytes}
    (frame : FrameOf codecs update bytes) : bytes ≠ sentinelBytes := by
  obtain ⟨nanos, frame, -, rfl⟩ := frame
  exact Item.frame_ne_sentinel _

/-! The outbox. -/

structure Outbox where
  -- Calls of each dispatcher, newest first.
  dispatched : Kind → List Dispatch
  -- What each ring has accepted, oldest first.
  sent : Nat → List Bytes

inductive Outbox.Step (codecs : Codecs) (box : Outbox) : Outbox → Prop
  | idle : Step codecs box box
  | begin (update : Update) :
      Step codecs box { box with
        dispatched := Function.update box.dispatched update.kind
          (⟨update, [], []⟩ :: box.dispatched update.kind) }
  | look (kind : Kind) (found : Dispatch → List Nat)
    (more : ∀ dispatch, dispatch.subscribed ⊆ found dispatch) :
      Step codecs box { box with
        dispatched := Function.update box.dispatched kind ((box.dispatched kind).modifyHead
          fun dispatch => { dispatch with subscribed := found dispatch }) }
  | close (address : Nat) :
      Step codecs box { box with
        sent := Function.update box.sent address (box.sent address ++ [sentinelBytes]) }
  | push (kind : Kind) (dispatch : Dispatch) (earlier : List Dispatch) (address : Nat)
    (bytes : Bytes)
      (current : box.dispatched kind = dispatch :: earlier)
      (frame : FrameOf codecs dispatch.update bytes)
      (asked : kind = .slot ∨ address ∈ dispatch.subscribed) (once : address ∉ dispatch.pushed) :
      Step codecs box {
        dispatched := Function.update box.dispatched kind
          ({ dispatch with pushed := address :: dispatch.pushed } :: earlier)
        sent := Function.update box.sent address (box.sent address ++ [bytes]) }

def takenBy (address : Nat) (calls : List Dispatch) : List Update :=
  ((calls.filter fun dispatch => address ∈ dispatch.pushed).map Dispatch.update).reverse

theorem takenBy_begin (address : Nat) (update : Update) (subscribed : List Nat)
    (calls : List Dispatch) :
    takenBy address (⟨update, subscribed, []⟩ :: calls) = takenBy address calls := by
  simp [takenBy]

theorem takenBy_push (address : Nat) {dispatch : Dispatch} (once : address ∉ dispatch.pushed)
    (calls : List Dispatch) :
    takenBy address ({ dispatch with pushed := address :: dispatch.pushed } :: calls) =
      takenBy address (dispatch :: calls) ++ [dispatch.update] := by
  simp [takenBy, once]

theorem takenBy_push_other {address other : Nat} (different : other ≠ address) (dispatch : Dispatch)
    (calls : List Dispatch) :
    takenBy other ({ dispatch with pushed := address :: dispatch.pushed } :: calls) =
      takenBy other (dispatch :: calls) := by
  simp [takenBy, List.filter_cons, different]
  split <;> simp

theorem takenBy_look (address : Nat) (found : Dispatch → List Nat) (calls : List Dispatch) :
    takenBy address
      (calls.modifyHead fun dispatch => { dispatch with subscribed := found dispatch }) =
      takenBy address calls := by
  cases calls with
  | nil => rfl
  | cons dispatch earlier =>
      simp only [takenBy, List.modifyHead_cons, List.filter_cons]
      split <;> simp

structure Dispatch.Genuine (kind : Kind) (dispatch : Dispatch) : Prop where
  right : dispatch.update.kind = kind
  asked : ∀ address ∈ dispatch.pushed, kind = .slot ∨ address ∈ dispatch.subscribed

/-- What is in the rings comes from the calls. -/
structure Outbox.Faithful (codecs : Codecs) (box : Outbox) : Prop where
  genuine : ∀ kind, ∀ dispatch ∈ box.dispatched kind, dispatch.Genuine kind
  carried : ∀ address kind, ofKind kind (decodedBodies (decodeUpdate codecs) (box.sent address)) =
    takenBy address (box.dispatched kind)
  decodes : ∀ address, ∀ body ∈ bodies (box.sent address), (decodeUpdate codecs body).isSome = true

theorem bodies_append (sent : List Bytes) (bytes : Bytes) :
    bodies (sent ++ [bytes]) = bodies sent ++ (bodyOf bytes).toList := by
  simp only [bodies, List.filterMap_append, List.filterMap_cons, List.filterMap_nil]
  cases bodyOf bytes <;> rfl

theorem decodedBodies_append {decode : Bytes → Option Update} (sent : List Bytes)
    {bytes body : Bytes}
    {update : Update} (framed : bodyOf bytes = some body) (decoded : decode body = some update) :
    decodedBodies decode (sent ++ [bytes]) = decodedBodies decode sent ++ [update] := by
  simp [decodedBodies, bodies_append, framed, decoded]

section
variable {codecs : Codecs} {before after : Outbox}

theorem Outbox.Faithful.recall (faithful : before.Faithful codecs) {kind : Kind}
    {calls : List Dispatch} (genuine : ∀ dispatch ∈ calls, dispatch.Genuine kind)
    (taken : ∀ address, takenBy address calls = takenBy address (before.dispatched kind)) :
    Outbox.Faithful codecs { before with
      dispatched := Function.update before.dispatched kind calls } := by
  refine ⟨?_, fun address => ?_, faithful.decodes⟩
  · exact (Function.forall_update_iff before.dispatched fun kind calls =>
      ∀ dispatch ∈ calls, dispatch.Genuine kind).mpr
      ⟨genuine, fun other _ => faithful.genuine other⟩
  · refine (Function.forall_update_iff before.dispatched fun kind calls =>
      ofKind kind (decodedBodies (decodeUpdate codecs) (before.sent address)) = takenBy
        address calls).mpr
      ⟨?_, fun other _ => faithful.carried address other⟩
    rw [taken address, faithful.carried address kind]

theorem Outbox.Faithful.look (faithful : before.Faithful codecs) (kind : Kind)
    {found : Dispatch → List Nat} (more : ∀ dispatch, dispatch.subscribed ⊆ found dispatch) :
    Outbox.Faithful codecs { before with
      dispatched := Function.update before.dispatched kind ((before.dispatched kind).modifyHead
        fun dispatch => { dispatch with subscribed := found dispatch }) } := by
  refine faithful.recall (fun dispatch member => ?_) fun address => takenBy_look address found _
  have genuine := faithful.genuine kind
  cases calls : before.dispatched kind with
  | nil => simp [calls] at member
  | cons first earlier =>
      rw [calls] at member genuine
      rcases List.mem_cons.mp member with rfl | old
      · have known := genuine first (List.mem_cons_self ..)
        exact ⟨known.right, fun address pushed =>
          (known.asked address pushed).imp_right fun asked =>
          more first asked⟩
      · exact genuine dispatch (List.mem_cons_of_mem _ old)

theorem Outbox.Faithful.push (lossless : codecs.lz4.RoundTrips) (faithful : before.Faithful codecs)
    {kind : Kind} {dispatch : Dispatch} {earlier : List Dispatch} {address : Nat} {bytes : Bytes}
    (current : before.dispatched kind = dispatch :: earlier)
    (frame : FrameOf codecs dispatch.update bytes)
    (asked : kind = .slot ∨ address ∈ dispatch.subscribed) (once : address ∉ dispatch.pushed) :
    Outbox.Faithful codecs {
      dispatched := Function.update before.dispatched kind
        ({ dispatch with pushed := address :: dispatch.pushed } :: earlier)
      sent := Function.update before.sent address (before.sent address ++ [bytes]) } := by
  obtain ⟨body, framed, decoded⟩ := frame.carries lossless
  have genuine := faithful.genuine kind
  rw [current] at genuine
  have own := genuine dispatch (List.mem_cons_self ..)
  refine ⟨?_, ?_, ?_⟩
  · refine (Function.forall_update_iff before.dispatched fun kind calls =>
      ∀ dispatch ∈ calls, dispatch.Genuine kind).mpr
      ⟨fun call member => ?_, fun other _ => faithful.genuine other⟩
    rcases List.mem_cons.mp member with rfl | old
    · refine ⟨own.right, fun target pushed => ?_⟩
      rcases List.mem_cons.mp pushed with rfl | old
      · exact asked
      · exact own.asked target old
    · exact genuine call (List.mem_cons_of_mem _ old)
  · -- This ring gets one more update of the dispatcher's kind; no other list changes.
    intro target other
    show ofKind other (decodedBodies _ (Function.update before.sent address _ target)) =
      takenBy target (Function.update before.dispatched kind _ other)
    have carried := faithful.carried target other
    by_cases here : target = address <;> by_cases same : other = kind
    · subst here same
      rw [current] at carried
      rw [Function.update_self, Function.update_self, decodedBodies_append _ framed decoded,
        takenBy_push target once, ← carried]
      simp [ofKind, own.right]
    · subst here
      rw [Function.update_self, Function.update_of_ne same, decodedBodies_append _ framed decoded,
        ← carried]
      simp [ofKind, own.right, Ne.symm same]
    · subst same
      rw [current] at carried
      rw [Function.update_of_ne here, Function.update_self, takenBy_push_other here, carried]
    · rw [Function.update_of_ne here, Function.update_of_ne same, carried]
  · refine (Function.forall_update_iff before.sent fun _ sent => ∀ body ∈ bodies sent,
      (decodeUpdate codecs body).isSome = true).mpr
      ⟨fun found member => ?_, fun target _ => faithful.decodes target⟩
    rw [bodies_append, framed] at member
    rcases List.mem_append.mp member with old | new
    · exact faithful.decodes _ found old
    · obtain rfl : found = body := by simpa using new
      simp [decoded]

theorem Outbox.Faithful.close (faithful : before.Faithful codecs) (address : Nat) :
    Outbox.Faithful codecs { before with
      sent := Function.update before.sent address (before.sent address ++ [sentinelBytes]) } := by
  have kept : bodies (before.sent address ++ [sentinelBytes]) = bodies (before.sent address) := by
    simp [bodies_append]
  refine ⟨faithful.genuine, ?_, ?_⟩
  · refine (Function.forall_update_iff before.sent fun address sent => ∀ kind, ofKind kind
      (decodedBodies (decodeUpdate codecs) sent) = takenBy address (before.dispatched kind)).mpr
      ⟨fun kind => ?_, fun target _ => faithful.carried target⟩
    rw [decodedBodies, kept]
    exact faithful.carried address kind
  · refine (Function.forall_update_iff before.sent fun _ sent => ∀ body ∈ bodies sent,
      (decodeUpdate codecs body).isSome = true).mpr ⟨?_, fun target _ => faithful.decodes target⟩
    rw [kept]
    exact faithful.decodes address

theorem Outbox.Step.faithful (lossless : codecs.lz4.RoundTrips)
    (step : Outbox.Step codecs before after)
    (faithful : before.Faithful codecs) : after.Faithful codecs := by
  cases step with
  | idle => exact faithful
  | begin update =>
      refine faithful.recall (fun dispatch member => ?_) fun address =>
        takenBy_begin address update [] _
      rcases List.mem_cons.mp member with rfl | old
      · exact ⟨rfl, by simp⟩
      · exact faithful.genuine _ dispatch old
  | look kind found more => exact faithful.look kind more
  | close address => exact faithful.close address
  | push kind dispatch earlier address bytes current frame asked once =>
      exact faithful.push lossless current frame asked once

end

/-! The sender works on it. -/

def sentOf (channels : Nat → Channel SenderTask) : Nat → List Bytes := Channel.sent ∘ channels

theorem sentOf_update (channels : Nat → Channel SenderTask) (address : Nat)
    (channel : Channel SenderTask) :
    sentOf (Function.update channels address channel) =
      Function.update (sentOf channels) address channel.sent :=
  Function.comp_update _ _ _ _

theorem sentOf_update_same {channels : Nat → Channel SenderTask} {address : Nat}
    {channel : Channel SenderTask} (same : channel.sent = (channels address).sent) :
    sentOf (Function.update channels address channel) = sentOf channels := by
  rw [sentOf_update, same]
  exact Function.update_eq_self _ _

def SenderState.outbox (state : SenderState) : Outbox := ⟨state.dispatched, sentOf state.channels⟩

theorem Channel.exec_sent {choice : ChannelChoice} {task : SenderTask} {β : Type} {op : ChannelOp β}
    {before after : Channel SenderTask} {reply : β} (notWrite : ¬ IsWrite op)
    (executed : before.exec choice task op = some (reply, after)) : after.sent = before.sent := by
  cases op with
  | tryWriteSlice bytes => exact absurd trivial notWrite
  | note note =>
      simp only [Channel.exec, Option.some.injEq, Prod.mk.injEq] at executed
      obtain ⟨-, rfl⟩ := executed
      cases note with
      | pushReturned parts result =>
          simp only [Channel.record]
          split <;> rfl
      | popReturned result => cases result <;> rfl
      | _ => rfl
  | _ =>
      simp only [Channel.exec] at executed
      repeat' split at executed
      all_goals simp only [reduceCtorEq, Option.some.injEq, Prod.mk.injEq] at executed
      all_goals obtain ⟨-, rfl⟩ := executed
      all_goals rfl

theorem Channel.write_sent {choice : ChannelChoice} {task : SenderTask} {bytes : Bytes}
    {before after : Channel SenderTask} {accepted : Bool}
    (executed : before.exec choice task (.tryWriteSlice bytes) = some (accepted, after)) :
    after.sent = before.sent ++ if accepted then [bytes] else [] := by
  simp only [Channel.exec, Channel.markClose] at executed
  repeat' split at executed
  all_goals simp only [Option.some.injEq, Prod.mk.injEq] at executed
  all_goals obtain ⟨rfl, rfl⟩ := executed
  all_goals simp [Channel.sent, Channel.append]

def Unwritten (state : SenderState) : Prop :=
  ∀ address, state.allocated ≤ address → (state.channels address).sent = []

section
variable {sender : Sender} {choice : SenderChoice} {task : SenderTask} {before after : SenderState}

theorem unwritten_persistent : (sending sender).Persistent Unwritten := by
  intro choice task β op before reply after inv guarded executed unwritten address unused
  have earlier : before.allocated ≤ address := (Grows.exec inv executed).allocated.trans unused
  rcases ring_unused inv guarded executed earlier with same | ⟨capacity, created⟩
  · rw [same]
    exact unwritten address earlier
  · rw [created]
    rfl

theorem observed_outbox (task : SenderTask) (entry : ManagedConnection)
    (filter : SubscriptionFilter) : Outbox.Step sender.codecs before.outbox
      { before.outbox with dispatched := before.observed task entry filter } := by
  cases task with
  | dispatcher kind =>
      let found (dispatch : Dispatch) : List Nat :=
        if filter.subscribes dispatch.update then entry.address :: dispatch.subscribed
        else dispatch.subscribed
      have more : ∀ dispatch : Dispatch, dispatch.subscribed ⊆ found dispatch := by
        intro dispatch
        simp only [found]
        split
        · exact List.subset_cons_self _ _
        · exact List.Subset.refl _
      have change : (fun dispatch : Dispatch => if filter.subscribes dispatch.update then
          { dispatch with subscribed := entry.address :: dispatch.subscribed } else dispatch) =
          fun dispatch => { dispatch with subscribed := found dispatch } := by
        funext dispatch
        simp only [found]
        split <;> rfl
      simp only [SenderState.observed, SenderState.currentDispatch, change]
      exact .look kind found more
  | _ => exact .idle

theorem write_outbox {address : Nat} {bytes : Bytes} {accepted : Bool}
    (inv : SenderInv sender before)
    (guarded : senderGuard sender task (.channel address (.tryWriteSlice bytes)) before)
    (executed : before.execChannel choice task address (.tryWriteSlice bytes) = some
      (accepted, after)) :
    Outbox.Step sender.codecs before.outbox after.outbox := by
  obtain ⟨_, _, channel, ran, rfl⟩ := SenderState.execChannel_exec inv executed
  have sent := Channel.write_sent ran
  simp only [SenderState.outbox, SenderState.recordPush, sentOf_update, sent]
  cases accepted with
  | false =>
      have same : (before.channels address).sent ++ [] = sentOf before.channels address := by
        simp [sentOf]
      simp only [Bool.false_eq_true, if_false, Bool.false_and, same, Function.update_eq_self]
      exact .idle
  | true =>
      rcases guarded.2.2 with rfl | ⟨kind, dispatch, earlier, rfl, current, frame, asked, once⟩
      · simp only [if_true, ne_eq, not_true_eq_false, decide_false, Bool.and_false,
          Bool.false_eq_true, if_false]
        exact .close address
      · simp only [if_true, ne_eq, frame.ne_sentinel, not_false_eq_true, decide_true, Bool.and_true,
          SenderState.currentDispatch, current, List.modifyHead_cons]
        exact .push kind dispatch earlier address bytes current frame asked once

theorem exec_outbox {β : Type} {op : SenderOp β} {reply : β} (inv : SenderInv sender before)
    (unwritten : Unwritten before) (guarded : senderGuard sender task op before)
    (executed : before.exec choice task op = some (reply, after)) :
    Outbox.Step sender.codecs before.outbox after.outbox := by
  cases op with
  | channel address op =>
      by_cases write : IsWrite op
      · cases op with
        | tryWriteSlice bytes => exact write_outbox inv guarded executed
        | _ => exact write.elim
      · obtain ⟨_, _, channel, ran, rfl⟩ := SenderState.execChannel_exec inv executed
        have same := Channel.exec_sent write ran
        have quiet : before.recordPush task address op reply = before.dispatched := by
          cases op <;> first | exact absurd trivial write | rfl
        simp only [SenderState.outbox, quiet, sentOf_update_same same]
        exact .idle
  | manager op =>
      simp only [SenderState.exec] at executed
      cases op with
      | loadFilter entry =>
          simp only [SenderState.execManager] at executed
          split at executed <;>
            simp only [reduceCtorEq, Option.some.injEq, Prod.mk.injEq] at executed
          obtain ⟨-, rfl⟩ := executed
          exact observed_outbox task entry _
      | dropProducer ring =>
          simp only [SenderState.execManager, Option.some.injEq, Prod.mk.injEq] at executed
          obtain ⟨-, rfl⟩ := executed
          have same : sentOf (Function.update before.channels ring.address
            { before.channels ring.address with linked := false }) = sentOf before.channels :=
            sentOf_update_same rfl
          simp only [SenderState.outbox, same]
          exact .idle
      | createQueue path capacity =>
          simp only [SenderState.execManager] at executed
          split at executed <;> simp only [Option.some.injEq, Prod.mk.injEq] at executed <;>
            obtain ⟨-, rfl⟩ := executed
          · exact .idle
          · have same : (Channel.created SenderTask capacity).sent =
                (before.channels before.allocated).sent := (unwritten _ (Nat.le_refl _)).symm
            simp only [SenderState.outbox, sentOf_update_same same]
            exact .idle
      | compareAndSwap index current new => cases inv.swap guarded executed <;> exact .idle
      | note note =>
          simp only [SenderState.execManager, Option.some.injEq, Prod.mk.injEq] at executed
          obtain ⟨-, rfl⟩ := executed
          cases note with
          | dispatchBegan update => exact .begin update
          | provisioned result => rcases result with _ | ⟨_ | _⟩ <;> exact .idle
          | lookupReturned _ _ => exact .idle
          | refreshed _ _ => exact .idle
          | sinkClosed _ => exact .idle
      | _ =>
          simp only [SenderState.execManager] at executed
          repeat' split at executed
          all_goals simp only [reduceCtorEq, Option.some.injEq, Prod.mk.injEq] at executed
          all_goals obtain ⟨-, rfl⟩ := executed
          all_goals exact .idle

end

/-! What a consumer gets. -/

/-- The update calls of one kind whose filter check let them pass to the ring, oldest first. -/
def dispatchedTo (address : Nat) (kind : Kind) (state : SenderState) : List Update :=
  ((state.dispatched kind).reverse.filter fun dispatch =>
    kind = .slot ∨ address ∈ dispatch.subscribed).map Dispatch.update

theorem takenBy_sublist {kind : Kind} {address : Nat} {state : SenderState}
    (genuine : ∀ dispatch ∈ state.dispatched kind, dispatch.Genuine kind) :
    (takenBy address (state.dispatched kind)).Sublist (dispatchedTo address kind state) := by
  rw [takenBy, dispatchedTo, ← List.map_reverse, ← List.filter_reverse]
  refine List.Sublist.map _ ?_
  have asked : (state.dispatched kind).reverse.filter (fun dispatch => address ∈ dispatch.pushed) =
      ((state.dispatched kind).reverse.filter fun dispatch =>
        kind = .slot ∨ address ∈ dispatch.subscribed).filter fun dispatch =>
          address ∈ dispatch.pushed := by
    rw [List.filter_filter]
    refine List.filter_congr fun dispatch member => ?_
    have known := genuine dispatch (List.mem_reverse.mp member)
    by_cases pushed : address ∈ dispatch.pushed
    · simp [pushed, known.asked address pushed]
    · simp [pushed]
  rw [asked]
  exact List.filter_sublist

def tracing : Program SenderOp Unit → Option TraceEvent
  | .request (.channel _ (.trace event)) _ => some event
  | _ => none

theorem tracing_eq {program : Program SenderOp Unit} {event : TraceEvent}
    (traced : tracing program = some event) :
    ∃ address next, program = .request (.channel address (.trace event)) next := by
  unfold tracing at traced
  split at traced
  · obtain rfl := Option.some.inj traced
    exact ⟨_, _, rfl⟩
  · simp at traced

/-- Nothing reaches a consumer that was not dispatched to it, in the order of the calls. -/
structure DeliverySafe (config : Config SenderOp SenderTask SenderState) (address : Nat) :
    Prop where
  -- Each dispatcher is only handed updates of its kind.
  calls : ∀ kind, ∀ dispatch ∈ config.shared.dispatched kind, dispatch.update.kind = kind
  received : ∀ kind, (ofKind kind (config.shared.channels address).received).Sublist
    (dispatchedTo address kind config.shared)
  decodes : ∀ error, tracing (config.pool (.reader address)) ≠ some (.decodeFailed error)
  routes : ∀ frame, tracing (config.pool (.reader address)) ≠ some (.nonUpdateFrame frame)

section
variable {sender : Sender} {files : List Path} {config : Config SenderOp SenderTask SenderState}

theorem outbox_faithful (lossless : sender.codecs.lz4.RoundTrips)
    (run : (senderSystem sender).Reachable (senderStart files) config) :
    config.shared.outbox.Faithful sender.codecs := by
  have persistent : (sending sender).Persistent fun state =>
      Unwritten state ∧ state.outbox.Faithful sender.codecs := by
    intro choice task β op before reply after inv guarded executed holds
    refine ⟨unwritten_persistent inv guarded executed holds.1, ?_⟩
    exact (exec_outbox inv holds.1 guarded executed).faithful lossless holds.2
  have created : Unwritten (SenderState.created files) ∧
      (SenderState.created files).outbox.Faithful sender.codecs := by
    refine ⟨fun _ _ => rfl, ⟨?_, ?_, ?_⟩⟩ <;>
      simp [SenderState.created, SenderState.outbox, sentOf, Channel.sent, Channel.created, bodies,
        decodedBodies, ofKind, takenBy]
  exact (Sound.always senderCall_triple persistent (sender_sound sender files) created run).2

theorem decodable (lossless : sender.codecs.lz4.RoundTrips)
    (run : (senderSystem sender).Reachable (senderStart files) config) (address : Nat) :
    ¬ Undecodable (decodeUpdate sender.codecs) (config.shared.channels address) := by
  rintro ⟨body, member, undecoded⟩
  have decodes := (outbox_faithful lossless run).decodes address body member
  simp [undecoded] at decodes

/--
In every run of a sender and its consumers, what `try_next_update`, `try_next_transaction`
and `try_next_slot` return is a subsequence of the calls of the dispatcher of that kind
whose filter check let the ring have them, update for update; and no reader reports a
frame that does not decode or is not an update.
-/
theorem delivery_safe (lossless : sender.codecs.lz4.RoundTrips)
    (run : (senderSystem sender).Reachable (senderStart files) config) (address : Nat) :
    DeliverySafe config address := by
  have sound := Sound.reachable senderCall_triple (sender_sound sender files) run
  have faithful := outbox_faithful lossless run
  have framed := (sound.inv.wired.ring address).1
  refine ⟨?_, ?_, ?_, ?_⟩
  · exact fun kind dispatch member => (faithful.genuine kind dispatch member).right
  · intro kind
    have kept := (List.sublist_append_left _ _).trans (framed.received kind)
    have queued := (framed.enqueued.sublist.filter fun update => decide (update.kind = kind))
    have carried := faithful.carried address kind
    exact (kept.trans (queued.trans (carried ▸ List.Sublist.refl _))).trans
      (takenBy_sublist (faithful.genuine kind))
  · intro error traced
    obtain ⟨target, next, running⟩ := tracing_eq traced
    have guarded :
      senderGuard sender (.reader address) (.channel target (.trace (.decodeFailed error)))
      config.shared := sound.guard running
    exact decodable lossless run target guarded.1.1
  · intro frame traced
    obtain ⟨target, next, running⟩ := tracing_eq traced
    have guarded :
      senderGuard sender (.reader address) (.channel target (.trace (.nonUpdateFrame frame)))
      config.shared := sound.guard running
    exact decodable lossless run target guarded.1.1

end

-- One update on its way from a dispatcher through the ring to the client.
theorem delivery_safe_received :
    ∃ config, sampleSender.codecs.lz4.RoundTrips ∧
      (senderSystem sampleSender).Reachable (senderStart []) config ∧ DeliverySafe config 0 ∧
      (config.shared.channels 0).received = [.account sampleAccountUpdate] := by
  have ran : ((senderSystem sampleSender).schedule (senderStart [])
      ([.start (.handler 0) (.subscribe sampleRequest)] ++ takes (.handler 0) 15 ++
        [.start (.dispatcher .account) (.dispatch (.account sampleAccountUpdate))] ++
        takes (.dispatcher .account) 19 ++
        [.start (.reader 0) (.consume 0)] ++ takes (.reader 0) 7 ++
        [.start (.client 0) (.tryNext 0 .account)] ++ takes (.client 0) 1)).any (fun config =>
          (config.shared.channels 0).received = [.account sampleAccountUpdate]) = true := by
    decide +kernel
  obtain ⟨config, run, received⟩ := System.schedule_finds ran
  exact ⟨config, literalLz4_roundTrips, run, delivery_safe literalLz4_roundTrips run 0,
    of_decide_eq_true received⟩

end Qlaster
