import Qlaster.Arrival
import Qlaster.Connecting
import Qlaster.Standing

/-!
From end to end. A consumer asks over its socket, the application publishes on its streams, and
the client gets exactly the updates that were asked for before they were published, in their order.
-/

namespace Qlaster

open Interleaving Interleaving.System Broadcast

/-! What happens, and what is to come of it. -/

/-- The consumer makes a call, or the application publishes an update. -/
inductive Event
  | ask (demand : Demand)
  | publish (kind : Kind) (value : kind.Payload)

def named (requests : List SubscriptionRequest) : Update → Bool
  | .account update => requests.any fun request =>
      request.accountPubkeys.contains update.accountPubkey || request.accountOwners.contains
        update.accountOwner
  | .transaction _ => requests.any fun request => request.includeTransactions
  | .slot _ => true

def Event.requests (token : SlotToken) : Event → List SubscriptionRequest
  | .ask demand => (demand.asks token).toList
  | .publish _ _ => []

def Event.updates (earlier : List SubscriptionRequest) : Event → List Update
  | .ask _ => []
  | .publish kind value => if named earlier (kind.update value) then [kind.update value] else []

/-- What it gets of all of them, each with the requests made by then. -/
def heard (token : SlotToken) : List SubscriptionRequest → List Event → List Update
  | _, [] => []
  | earlier, event :: rest =>
    event.updates earlier ++ heard token (earlier ++ event.requests token) rest

/-- A request fits in a frame; an update has a stream, and fits in the ring. -/
def Event.Fits (control : Control) (feeds : Feeds) (entry : ManagedConnection) : Event → Prop
  | .ask demand =>
    ∃ encoded, demand.encode control (slotToken entry) = .ok encoded ∧ encoded.length ≤ maxFrameSize
  | .publish kind value => (feeds.capacity kind).isSome = true ∧
      frameLenBytes + (kind.update value).frameLength control.sender.codecs ≤ entry.sink.capacity

section
variable {feeds : Feeds}

end

section
variable {α : Type} {channel : Interface α}

structure Feed.CaughtUp (feed : Feed channel) : Prop where
  opened : feed.closed = false
  all : position feed.log = feed.sent.length

def Feed.sending (feed : Feed channel) (value : α) : Feed channel :=
  { feed with state := channel.send feed.state value, sent := feed.sent ++ [value] }

def Feed.receiving (feed : Feed channel) (result : Except RecvError α) (state : channel.State) :
    Feed channel :=
  { feed with state := state, log := feed.log ++ [result] }

theorem Feed.CaughtUp.passes {feed : Feed channel} (caughtUp : feed.CaughtUp)
    (lawful : channel.Lawful) {capacity : Nat}
    (positive : 0 < capacity) (genuine : feed.Genuine capacity) (value : α) :
    ∃ state, channel.recv (feed.sending value).state = some (.ok value, state) ∧
      ((feed.sending value).receiving (.ok value) state).CaughtUp := by
  unfold Feed.Genuine at genuine
  rw [caughtUp.opened] at genuine
  obtain ⟨state, received⟩ := genuine.passes lawful positive caughtUp.all value
  refine ⟨state, received, caughtUp.opened, ?_⟩
  simp [Feed.receiving, Feed.sending, position_snoc, advance, caughtUp.all]

end

section
variable {control : Control} {feeds : Feeds} {outsiders : Bool} {choices : Nat → ControlChoice}
  {tick : Nat} {state : ProcessState feeds} {kind : Kind} {value : kind.Payload}

end

/-! The process between two events. -/

/-- The clock stands still, interruptions come to an end, rings take what fits and eventfds do not
fail. -/
structure Favourable (choices : Nat → ControlChoice) (now : UInt64) (bound : Nat) : Prop where
  constant : ∀ n, (choices n).now = now
  settled : ∀ n, bound ≤ n → (choices n).interrupted = false
  admitted : ∀ n, (choices n).admitted = true
  unfailing : ∀ n, (choices n).failure = none

theorem Favourable.from {choices : Nat → ControlChoice} {now : UInt64} {bound : Nat}
    (steady : Favourable choices now bound) (tick : Nat) :
    Favourable (fun n => choices (tick + n)) now bound where
  constant n := steady.constant (tick + n)
  settled n late := steady.settled (tick + n) (Nat.le_trans late (Nat.le_add_left n tick))
  admitted n := steady.admitted (tick + n)
  unfailing n := steady.unfailing (tick + n)

/-- The consumer is idle and its handler waits; its reader is parked in front of an empty ring; the
dispatchers of all streams wait for the next update, and nothing is under way in the sender. -/
structure InService (control : Control) (feeds : Feeds) (connection : Nat)
    (entry : ManagedConnection) (now : UInt64)
    (config : Config ProcessOp ProcessTask (ProcessState feeds)) : Prop extends
    AtEase connection entry now config.shared.control, Resting control config where
  idle : config.pool (.control (.consumer connection)) = .done ()
  waiting : config.pool (.control (.sender (.handler connection))) = onControl
    (waitingHandler control connection)
  parked : config.pool (.control (.sender (.reader entry.address))) =
    onControl (onSender (onRing entry.address (parkedReader control.sender.codecs)))
  unpolled : config.pool (.control (.sender (.runtime entry.address))) = .done ()
  publishers : ∀ kind, config.pool (.publisher kind) = .done ()
  listening : ∀ kind, (feeds.capacity kind).isSome = true →
    config.pool (dispatcherOf kind) = waitingDispatcher control kind
  caughtUp : ∀ kind, (feeds.capacity kind).isSome = true → (config.shared.feeds kind).CaughtUp
  empty : (config.shared.control.sender.channels entry.address).queue = []

def circle (connection address : Nat) : List ProcessTask :=
  [.control (.consumer connection), .control (.sender (.handler connection)),
    .control (.sender (.runtime address)),
    .control (.sender (.reader address)), .publisher .account, .publisher .transaction,
      .publisher .slot,
    dispatcherOf .account, dispatcherOf .transaction, dispatcherOf .slot]

/-- The requests were confirmed and the updates queued for the client, by steps of these tasks
alone. -/
structure Brought (control : Control) (feeds : Feeds) (outsiders : Bool) (connection : Nat)
    (entry : ManagedConnection)
    (now : UInt64) (choices : Nat → ControlChoice) (requests : List SubscriptionRequest)
    (updates : List Update)
    (tick : Nat) (config : Config ProcessOp ProcessTask (ProcessState feeds)) (later : Nat)
    (final : Config ProcessOp ProcessTask (ProcessState feeds)) : Prop where
  leads : (processSystem control feeds outsiders).Leads (circle connection entry.address) choices
    tick config later final
  service : InService control feeds connection entry now final
  confirmed : (final.shared.control.links connection).confirmed =
    (config.shared.control.links connection).confirmed ++ requests
  enqueued : (final.shared.control.sender.channels entry.address).enqueued =
    (config.shared.control.sender.channels entry.address).enqueued ++ updates
  filter : ∀ filter earlier, config.shared.control.sender.filters[entry.filter]? = some filter →
    filter.Holds earlier →
    ∃ wider, final.shared.control.sender.filters[entry.filter]? = some wider ∧
      wider.Holds (earlier ++ requests)

section
variable {control : Control} {feeds : Feeds} {outsiders : Bool} {connection : Nat}
  {entry : ManagedConnection}
  {now : UInt64} {choices : Nat → ControlChoice} {tick between last : Nat}
  {config mid final : Config ProcessOp ProcessTask (ProcessState feeds)}

theorem Brought.refl (service : InService control feeds connection entry now config) :
    Brought control feeds outsiders connection entry now choices [] [] tick config tick config := by
  refine ⟨.refl, service, (List.append_nil _).symm, (List.append_nil _).symm,
    fun filter earlier found holds => ?_⟩
  rw [List.append_nil]
  exact ⟨filter, found, holds⟩

theorem Brought.trans {requests later : List SubscriptionRequest} {updates newer : List Update}
    (brought : Brought control feeds outsiders connection entry now choices requests updates tick
      config between mid)
    (again : Brought control feeds outsiders connection entry now choices later newer between mid
      last final) :
    Brought control feeds outsiders connection entry now choices (requests ++ later)
      (updates ++ newer) tick config last final where
  leads := brought.leads.trans again.leads
  service := again.service
  confirmed := by rw [again.confirmed, brought.confirmed, List.append_assoc]
  enqueued := by rw [again.enqueued, brought.enqueued, List.append_assoc]
  filter filter earlier found holds := by
    obtain ⟨wider, found', holds'⟩ := brought.filter filter earlier found holds
    rw [← List.append_assoc]
    exact again.filter wider _ found' holds'

variable {files : List Path} {bound : Nat}
  (run : (processSystem control feeds outsiders).Reachable (processStart feeds files) config)
  (service : InService control feeds connection entry now config)
  (steady : Favourable choices now bound)
include run service steady

omit run service steady in
theorem InService.kept (service : InService control feeds connection entry now config)
    (pool : final.pool = config.pool)
    (links : final.shared.control.links = config.shared.control.links)
    (tabled : final.shared.control.sender.connections entry.slotIndex = some entry)
    (lastSeen : final.shared.control.sender.lastSeen = config.shared.control.sender.lastSeen)
    (caughtUp : ∀ kind, (feeds.capacity kind).isSome = true → (final.shared.feeds kind).CaughtUp)
    (empty : (final.shared.control.sender.channels entry.address).queue = []) :
    InService control feeds connection entry now final := by
  have same :
    final.shared.control.sender.process.lastSeen = config.shared.control.sender.process.lastSeen :=
    lastSeen
  have seen : final.shared.control.sender.process.stale now entry = false := by
    rw [← service.live.seen, Table.stale, Table.stale, same]
  refine ⟨⟨?_, ?_, ?_, ?_, ⟨tabled, seen⟩⟩, ⟨?_, ?_⟩, ?_, ?_, ?_, ?_, ?_, ?_, caughtUp, empty⟩
  · rw [links]
    exact service.intact
  · rw [links]
    exact service.asked
  · rw [links]
    exact service.answered
  · rw [links]
    exact service.consumer
  · rw [pool]
    exact service.handlers
  · rw [pool]
    exact service.dispatchers
  · rw [pool]
    exact service.idle
  · rw [pool]
    exact service.waiting
  · rw [pool]
    exact service.parked
  · rw [pool]
    exact service.unpolled
  · rw [pool]
    exact service.publishers
  · rw [pool]
    exact service.listening

end

/-! How a consumer comes into service. -/

section
variable {control : Control} {feeds : Feeds} {outsiders : Bool}
  {config : Config ProcessOp ProcessTask (ProcessState feeds)}

section
variable (lawful : control.Lawful) (fits : control.Fits) (large : 64 ≤ control.sender.ringCapacity)
  (small : control.sender.ringCapacity ≤ 2 ^ 63)
  (short : ∀ encoded, bootstrap.encode control.wincode = .ok encoded →
    encoded.length ≤ maxFrameSize) {files : List Path}
  (absent :
    ∀ index, control.sender.ringPath index (controlStart files).shared.sender.nextConnectionId ∉
    files)
  (connection : Nat) {choices : Nat → ControlChoice} {now : UInt64} {bound : Nat}
  (steady : Favourable choices now bound) (unrefused : ∀ n, (choices n).refused = none)
include lawful fits large small short absent steady unrefused

end

end

end Qlaster
