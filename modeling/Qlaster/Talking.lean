import Qlaster.Agreement
import Qlaster.Progress
import Qlaster.Provisioning
import Qlaster.Refining

/-!
A control socket while nobody else steps: what is unread in each direction as a pair of queues, and
what `wire.rs` and the calls of the sender do to a state that is known in these terms.
-/

namespace Qlaster

open Interleaving Interleaving.System LittleEndian PrefixCode

/-- What is on its way between the two ends, and what the consumer has stored. -/
structure Talk where
  asked : Bytes
  answered : Bytes
  attached : Option Nat
  connected : Bool
  accepted : Bool
  consumer : Option ShmConsumer
  confirmed : List SubscriptionRequest

namespace Talk

def incoming (talk : Talk) : Side → Bytes
  | .client => talk.answered
  | .server => talk.asked

def put (talk : Talk) (side : Side) (bytes : Bytes) : Talk :=
  match side with
  | .client => { talk with asked := talk.asked ++ bytes }
  | .server => { talk with answered := talk.answered ++ bytes }

def take (talk : Talk) (side : Side) (count : Nat) : Talk :=
  match side with
  | .client =>
      { talk with
        answered := talk.answered.drop count
        attached := if count = 0 then talk.attached else none }
  | .server => { talk with asked := talk.asked.drop count }

theorem put_put (talk : Talk) (side : Side) (first second : Bytes) :
    (talk.put side first).put side second = talk.put side (first ++ second) := by
  cases side <;> simp [put]

theorem take_incoming (talk : Talk) (side : Side) (count : Nat) :
    (talk.take side count).incoming side = (talk.incoming side).drop count := by
  cases side <;> rfl

end Talk

def Link.talk (link : Link) : Talk where
  asked := link.requests.unread
  answered := link.replies.unread
  attached := link.attached
  connected := link.connected
  accepted := link.accepted
  consumer := link.consumer
  confirmed := link.confirmed

structure Pipe.Flows (pipe : Pipe) : Prop where
  unclosed : pipe.closed = false
  within : pipe.taken ≤ pipe.written.length

theorem Pipe.Flows.put {pipe : Pipe} (flows : pipe.Flows) (bytes : Bytes) :
    Pipe.Flows { pipe with written := pipe.written ++ bytes } ∧
      Pipe.unread { pipe with written := pipe.written ++ bytes } = pipe.unread ++ bytes := by
  have within := flows.within
  refine ⟨⟨flows.unclosed, ?_⟩, List.drop_append_of_le_length within⟩
  change pipe.taken ≤ (pipe.written ++ bytes).length
  rw [List.length_append]
  omega

theorem Pipe.Flows.take {pipe : Pipe} (flows : pipe.Flows) {count : Nat}
    (enough : count ≤ pipe.unread.length) : Pipe.Flows { pipe with taken := pipe.taken + count } ∧
      Pipe.unread { pipe with taken := pipe.taken + count } = pipe.unread.drop count := by
  have within := flows.within
  rw [Pipe.unread, List.length_drop] at enough
  refine ⟨⟨flows.unclosed, ?_⟩, by simp [Pipe.unread]⟩
  change pipe.taken + count ≤ pipe.written.length
  omega

structure Link.Intact (link : Link) : Prop where
  sound : ∀ side, link.health side = .sound
  requests : link.requests.Flows
  replies : link.replies.Flows

section
variable {link : Link} (intact : link.Intact)
include intact

theorem Link.Intact.incoming (side : Side) : (link.incoming side).Flows := by
  cases side with
  | client => exact intact.replies
  | server => exact intact.requests

theorem Link.Intact.put (side : Side) (bytes : Bytes) :
    (link.put side bytes).Intact ∧ (link.put side bytes).talk = link.talk.put side bytes := by
  cases side with
  | client =>
      obtain ⟨flows, unread⟩ := intact.requests.put bytes
      exact ⟨⟨intact.sound, flows,
        intact.replies⟩, by simp only [Link.talk, Link.put, Talk.put, unread]⟩
  | server =>
      obtain ⟨flows, unread⟩ := intact.replies.put bytes
      exact ⟨⟨intact.sound, intact.requests,
        flows⟩, by simp only [Link.talk, Link.put, Talk.put, unread]⟩

theorem Link.Intact.take (side : Side) {count : Nat}
    (enough : count ≤ (link.incoming side).unread.length) :
    (link.take side count).Intact ∧ (link.take side count).talk = link.talk.take side count := by
  obtain ⟨flows, unread⟩ := (intact.incoming side).take enough
  cases side with
  | client =>
      refine ⟨⟨intact.sound, intact.requests, flows⟩, ?_⟩
      simp only [Link.incoming] at unread
      simp only [Link.talk, Link.take, Talk.take, unread]
  | server =>
      refine ⟨⟨intact.sound, flows, intact.replies⟩, ?_⟩
      simp only [Link.incoming] at unread
      simp only [Link.talk, Link.take, Talk.take, unread]

end

/-- The state is `base` but for one socket, which is as the talk on it says. -/
structure Speaks (connection : Nat) (base : ControlState) (talk : Talk) (state : ControlState) :
    Prop where
  intact : (state.links connection).Intact
  talk : (state.links connection).talk = talk
  sender : state.sender = base.sender
  others : ∀ other ≠ connection, state.links other = base.links other
  adopted : state.adopted = base.adopted

section
variable {control : Control} {outsiders : Bool} {task : ControlTask} {connection : Nat}
  {choices : Nat → ControlChoice} {tick : Nat} {base state : ControlState} {talk talk' : Talk}

theorem speaks_self (intact : (state.links connection).Intact) :
    Speaks connection state (state.links connection).talk state :=
  ⟨intact, rfl, rfl, fun _ _ => rfl, rfl⟩

theorem Speaks.rebase {other : ControlState} (speaks : Speaks connection other talk state)
    (links : other.links = base.links) (adopted : other.adopted = base.adopted) :
    Speaks connection { base with sender := state.sender } talk state := by
  refine ⟨speaks.intact, speaks.talk, rfl, fun elsewhere different =>
    ?_, speaks.adopted.trans adopted⟩
  rw [speaks.others elsewhere different, links]

/-! Operations on the socket. -/

theorem Speaks.executes {β : Type} {op : LinkOp β} {reply : β} {link : Link} {adopted : List Nat}
    (speaks : Speaks connection base talk state)
    (executed : (state.links connection).exec (choices tick) state.sender.files op = some
      (reply, link))
    (adopts : state.adopts op reply = adopted) (intact : link.Intact) (same : link.talk = talk') :
    (controlSystem control outsiders).Alone task choices (onLink connection (.perform op))
      tick state
      fun value _ after => value = reply ∧ Speaks connection { base with adopted := adopted }
        talk' after := by
  have ran :
    (controlSystem control outsiders).exec (choices tick) task (.link connection op) state =
      some (reply, { state.setLink connection link with adopted := state.adopts op reply }) := by
    simp only [controlSystem, ControlState.exec, executed]
    rfl
  refine .request ran (.done ⟨rfl, ?_, ?_, speaks.sender, ?_, adopts⟩)
  · simpa using intact
  · simpa using same
  · intro other different
    rw [← speaks.others other different]
    exact Function.update_of_ne different _ _

theorem Speaks.perform {β : Type} {op : LinkOp β} {reply : β} {link : Link}
    (speaks : Speaks connection base talk state)
    (executed : (state.links connection).exec (choices tick) state.sender.files op = some
      (reply, link))
    (adopts : state.adopts op reply = state.adopted) (intact : link.Intact)
    (same : link.talk = talk') :
    (controlSystem control outsiders).Alone task choices (onLink connection (.perform op))
      tick state fun value _ after => value = reply ∧ Speaks connection base talk' after :=
  speaks.executes executed (adopts.trans speaks.adopted) intact same

theorem Speaks.calls {ε α : Type} {op : LinkOp (Except ε α)} {convert : ε → QlasterError}
    {value : α} {link : Link} (speaks : Speaks connection base talk state)
    (executed : (state.links connection).exec (choices tick) state.sender.files op = some
      (.ok value, link))
    (adopts : state.adopts op (.ok value) = state.adopted) (intact : link.Intact)
    (same : link.talk = talk') :
    (controlSystem control outsiders).Alone task choices (onLink connection (call op convert))
      tick state fun result _ after => result = .ok value ∧ Speaks connection base talk' after := by
  rw [call, onLink_bind]
  refine (speaks.perform executed adopts intact same).bind ?_
  rintro _ later after ⟨rfl, spoken⟩
  exact .done ⟨rfl, spoken⟩

theorem attempt_alone {α β : Type} {first : Program LinkOp (Except QlasterError α)}
    {rest : α → Program LinkOp (Except QlasterError β)} {value : α} {mid : ControlState → Prop}
    {post : Except QlasterError β → Nat → ControlState → Prop}
    (begins :
      (controlSystem control outsiders).Alone task choices (onLink connection first) tick state
      fun result _ after => result = .ok value ∧ mid after)
    (continues : ∀ later after, mid after →
      (controlSystem control outsiders).Alone task choices (onLink connection (rest value)) later
        after post) :
    (controlSystem control outsiders).Alone task choices (onLink connection (attempt first rest))
      tick state post := by
  rw [attempt, onLink_bind]
  refine begins.bind ?_
  rintro _ later after ⟨rfl, holds⟩
  exact continues later after holds

theorem attempt_until {α β : Type} {first : Program LinkOp (Except QlasterError α)}
    {rest : α → Program LinkOp (Except QlasterError β)}
    {final : Except QlasterError β → Program ControlOp Unit}
    {value : α} {mid : ControlState → Prop} {goal : Program ControlOp Unit → Nat →
      ControlState → Prop}
    (begins :
      (controlSystem control outsiders).Alone task choices (onLink connection first) tick state
      fun result _ after => result = .ok value ∧ mid after)
    (continues : ∀ later after, mid after →
      (controlSystem control outsiders).Until task choices goal
        ((onLink connection (rest value)).bind final) later after) :
    (controlSystem control outsiders).Until task choices goal
      ((onLink connection (attempt first rest)).bind final) tick state := by
  rw [attempt, onLink_bind, Program.bind_assoc]
  refine begins.until ?_
  rintro _ later after ⟨rfl, holds⟩
  exact continues later after holds

theorem settle_alone {α : Type} {outcome : Outcome α} {value : α} (settled : outcome = .ok value)
    {mid : ControlState → Prop} (holds : mid state) :
    (controlSystem control outsiders).Alone task choices (onLink connection (settle outcome))
      tick state fun result _ after => result = .ok value ∧ mid after := by
  subst settled
  exact .done ⟨rfl, holds⟩

def Unseen (note : LinkNote) : Prop := ∀ link : Link, (link.record note).talk = link.talk

theorem record_intact {link : Link} (intact : link.Intact) (note : LinkNote) :
    (link.record note).Intact := by
  cases note <;> exact ⟨intact.sound, intact.requests, intact.replies⟩

theorem Speaks.note {note : LinkNote} (unseen : Unseen note)
    (speaks : Speaks connection base talk state) :
    (controlSystem control outsiders).Alone task choices (onLink connection (.perform (.note note)))
      tick state fun _ _ after => Speaks connection base talk after :=
  (speaks.perform rfl rfl (record_intact speaks.intact note) ((unseen _).trans speaks.talk)).mono
    fun _ _ _ spoken => spoken.2

/-! `wire.rs`. -/

theorem Speaks.writeAll {side : Side} {bytes : Bytes} (speaks : Speaks connection base talk state) :
    (controlSystem control outsiders).Alone task choices
      (onLink connection (call (.writeAll side bytes) .io)) tick
      state fun result _ after => result = .ok () ∧
        Speaks connection base (talk.put side bytes) after := by
  obtain ⟨intact, same⟩ := speaks.intact.put side bytes
  rw [speaks.talk] at same
  refine speaks.calls ?_ rfl intact same
  simp [Link.exec, (speaks.intact.incoming side).unclosed, speaks.intact.sound side]

theorem Speaks.readExact {side : Side} {count : Nat} (enough : count ≤ (talk.incoming side).length)
    (speaks : Speaks connection base talk state) :
    (controlSystem control outsiders).Alone task choices
      (onLink connection (call (.readExact side count) .io)) tick
      state fun result _ after => result = .ok ((talk.incoming side).take count) ∧
        Speaks connection base (talk.take side count) after := by
  have unread : ((state.links connection).incoming side).unread = talk.incoming side := by
    rw [← speaks.talk]
    cases side <;> rfl
  obtain ⟨intact, same⟩ := speaks.intact.take side (unread ▸ enough)
  rw [speaks.talk] at same
  refine speaks.calls ?_ rfl intact same
  simp [Link.exec, speaks.intact.sound side, enough, unread]

theorem writeFramed_alone {side : Side} {payload : Bytes} (small : payload.length < 2 ^ 32)
    {begun : LinkNote} (unseen : Unseen begun) (speaks : Speaks connection base talk state) :
    (controlSystem control outsiders).Alone task choices
      (onLink connection (writeFramed side payload begun)) tick state
      fun result _ after => result = .ok () ∧
        Speaks connection base (talk.put side (frameBytes payload)) after := by
  rw [writeFramed, if_neg (by omega), Program.bind_eq, onLink_bind]
  refine (speaks.note unseen).bind fun _ _ _ noted => ?_
  refine attempt_alone noted.writeAll fun _ _ headed => ?_
  refine headed.writeAll.mono ?_
  rintro _ _ _ ⟨rfl, written⟩
  rw [Talk.put_put] at written
  exact ⟨rfl, written⟩

theorem readFramed_alone {side : Side} {payload : Bytes} (small : payload.length ≤ maxFrameSize)
    {rest : Bytes} (waiting : talk.incoming side = frameBytes payload ++ rest)
    (speaks : Speaks connection base talk state) :
    (controlSystem control outsiders).Alone task choices (onLink connection (readFramed side))
      tick state fun result _ after => result = .ok payload ∧
        Speaks connection base ((talk.take side 4).take side payload.length) after := by
  have size : (u32FromLeBytes ((talk.incoming side).take 4)).toNat = payload.length := by
    rw [waiting, frameBytes, List.append_assoc, List.take_left' (frameHeader_length payload),
      frameHeader_size]
    simp only [maxFrameSize] at small
    omega
  refine attempt_alone (speaks.readExact ?_) fun _ _ headed => ?_
  · rw [waiting]
    simp
    omega
  have left : (talk.take side 4).incoming side = payload ++ rest := by
    rw [Talk.take_incoming, waiting, frameBytes, List.append_assoc,
      List.drop_left' (frameHeader_length payload)]
  simp only [size]
  rw [if_neg (by omega)]
  refine (headed.readExact ?_).mono ?_
  · rw [left]
    simp
  · rintro _ _ _ ⟨rfl, read⟩
    rw [left, List.take_left]
    exact ⟨rfl, read⟩

/-! Calls of the sender. -/

theorem onSender_alone {α : Type} {program : Program SenderOp α} {actor : SenderTask}
    {post : α → Nat → SenderState → Prop}
    (alone : (senderSystem control.sender).Alone actor (fun n => (choices n).toSenderChoice) program
      tick state.sender post)
    (speaks : Speaks connection base talk state) :
    (controlSystem control outsiders).Alone (.sender actor) choices (onSender program) tick state
      fun value later after => post value later after.sender ∧
        Speaks connection { base with sender := after.sender } talk after := by
  let frame (before after : ControlState) : Prop := after.links = before.links ∧
    after.adopted = before.adopted
  have follows :
    ∀ {β : Type} {op : SenderOp β} {tick : Nat} {now : ControlState} {reply : β}
    {after : SenderState},
      frame state now →
      (senderSystem control.sender).exec (choices tick).toSenderChoice actor op now.sender = some
        (reply, after) →
      ∃ later, (controlSystem control outsiders).exec (choices tick) (.sender actor)
        (.sender op) now = some (reply, later) ∧ later.sender = after ∧ frame now later := by
    intro β op tick now reply after _ executed
    have ran : now.sender.exec (choices tick).toSenderChoice actor op = some (reply, after) :=
      executed
    exact ⟨{ now with sender := after }, by simp only [controlSystem, ControlState.exec, ran], rfl, rfl, rfl⟩
  refine (Alone.lift (fun op => ControlOp.sender op) (fun state : ControlState => state.sender)
    frame (fun first second => ⟨second.1.trans first.1, second.2.trans first.2⟩) follows ⟨rfl, rfl⟩
      alone).mono ?_
  rintro value later after ⟨holds, links, adopted⟩
  refine ⟨holds, ?_, ?_, rfl, ?_, adopted.trans speaks.adopted⟩
  · rw [links]
    exact speaks.intact
  · rw [links]
    exact speaks.talk
  · intro other different
    rw [links]
    exact speaks.others other different

end

end Qlaster
