import Mathlib.Data.PNat.Defs
import Qlaster.Broadcast
import Qlaster.LinkCore

/-!
`setup_sender_with_streams` of `sender/mod.rs`: each stream of updates is a `broadcast` channel
whose receiver a dispatcher of its own reads, next to the handlers that the listener spawns.
-/

namespace Qlaster

open Interleaving Broadcast

def Kind.Payload : Kind → Type
  | .account => AccountUpdate
  | .transaction => TransactionUpdate
  | .slot => SlotUpdate

def Kind.update : (kind : Kind) → kind.Payload → Update
  | .account, update => .account update
  | .transaction, update => .transaction update
  | .slot, update => .slot update

/-- The channels handed to the setup, by their capacities, and the library they are of;
`setup_sender` gives only the first. -/
structure Feeds where
  broadcast : (kind : Kind) → Interface kind.Payload
  masterUpdates : ℕ+
  transactionUpdates : Option ℕ+
  slotUpdates : Option ℕ+

def Feeds.capacity (feeds : Feeds) : Kind → Option ℕ+
  | .account => some feeds.masterUpdates
  | .transaction => feeds.transactionUpdates
  | .slot => feeds.slotUpdates

def Feeds.Lawful (feeds : Feeds) : Prop := ∀ kind, (feeds.broadcast kind).Lawful

section
variable (broadcast : (kind : Kind) → Interface kind.Payload)

def setupSenderWithStreams (masterUpdates : ℕ+) (transactionUpdates slotUpdates : Option ℕ+) :
    Feeds :=
  ⟨broadcast, masterUpdates, transactionUpdates, slotUpdates⟩

def setupSenderWithTransactions (masterUpdates : ℕ+) (transactionUpdates : Option ℕ+) : Feeds :=
  setupSenderWithStreams broadcast masterUpdates transactionUpdates none

def setupSender (masterUpdates : ℕ+) :
    Feeds := setupSenderWithTransactions broadcast masterUpdates none

end

inductive FeedOp (α : Type) : Type → Type
  | send (value : α) : FeedOp α Unit
  | dropSenders : FeedOp α Unit
  | recv : FeedOp α (Except RecvError α)
  -- The warning that updates were skipped.
  | warnLagged (skipped : Nat) : FeedOp α Unit

inductive ProcessOp (β : Type) : Type
  | control (op : ControlOp β)
  | feed (kind : Kind) (op : FeedOp kind.Payload β)

def onControl {α : Type} (program : Program ControlOp α) : Program ProcessOp α :=
  program.lift fun op => .control op

section
variable (control : Control)

/-- One turn of a dispatcher's loop; `inr` leaves it. -/
def dispatcherTurn (kind : Kind) : Program ProcessOp (Sum Unit Unit) := do
  let received ← .perform (.feed kind .recv)
  match received with
  | .ok value =>
      onControl (controlProgram control (.sender (.dispatch (kind.update value))))
      return .inl ()
  | .error (.lagged skipped) =>
      .perform (.feed kind (.warnLagged skipped))
      return .inl ()
  | .error .closed => return .inr ()

def runDispatcher (kind : Kind) : Program ProcessOp Unit :=
  .iterate () fun _ => dispatcherTurn control kind

/-- The tasks of the control plane, and those of the application that publish. -/
inductive ProcessTask
  | control (task : ControlTask)
  | publisher (kind : Kind)
  deriving DecidableEq, Repr

inductive ProcessCall
  | control (call : ControlCall)
  | runDispatcher (kind : Kind)
  | publish (kind : Kind) (value : kind.Payload)
  | close (kind : Kind)

def processProgram : ProcessCall → Program ProcessOp Unit
  | .control call => onControl (controlProgram control call)
  | .runDispatcher kind => runDispatcher control kind
  | .publish kind value => .perform (.feed kind (.send value))
  | .close kind => .perform (.feed kind .dropSenders)

/-- A dispatcher is spawned for every channel there is, and dispatches nothing but what it receives.
-/
def processMayStart (feeds : Feeds) (outsiders : Bool) : ProcessTask → ProcessCall → Bool
  | .control (.sender (.dispatcher kind)), .runDispatcher kind' =>
      decide (kind = kind') && (feeds.capacity kind).isSome
  | .control (.sender (.dispatcher _)), _ => false
  | .control task, .control call => controlMayStart outsiders task call
  | .publisher kind, .publish kind' _ => decide (kind = kind') && (feeds.capacity kind).isSome
  | .publisher kind, .close kind' => decide (kind = kind') && (feeds.capacity kind).isSome
  | _, _ => false

end

/-- A channel, what went in and out of it, and the warnings about it. -/
structure Feed {α : Type} (channel : Interface α) where
  state : channel.State
  sent : List α
  -- All senders are gone.
  closed : Bool
  log : List (Except RecvError α)
  warned : List Nat

namespace Feed

variable {α : Type} {channel : Interface α}

def opened (capacity : Nat) : Feed channel := ⟨channel.opened capacity, [], false, [], []⟩

def exec : {β : Type} → FeedOp α β → Feed channel → Option (β × Feed channel)
  | _, .send value, feed =>
      if feed.closed then none
      else some
        ((), { feed with state := channel.send feed.state value, sent := feed.sent ++ [value] })
  | _, .dropSenders, feed =>
    some ((), { feed with state := channel.dropSenders feed.state, closed := true })
  | _, .recv, feed =>
      match channel.recv feed.state with
      | none => none
      | some (result, state) =>
        some (result, { feed with state := state, log := feed.log ++ [result] })
  | _, .warnLagged skipped, feed => some ((), { feed with warned := feed.warned ++ [skipped] })

end Feed

structure ProcessState (feeds : Feeds) where
  control : ControlState
  feeds : (kind : Kind) → Feed (feeds.broadcast kind)

section
variable {feeds : Feeds}

def ProcessState.exec (choice : ControlChoice) (task : ProcessTask) :
    {β : Type} → ProcessOp β → ProcessState feeds → Option (β × ProcessState feeds)
  | _, .control op, state =>
      match task with
      | .control task =>
          match state.control.exec choice task op with
          | none => none
          | some (reply, control) => some (reply, { state with control := control })
      | _ => none
  | _, .feed kind op, state =>
      match (state.feeds kind).exec op with
      | none => none
      | some (reply, feed) =>
        some (reply, { state with feeds := Function.update state.feeds kind feed })

end

def processSystem (control : Control) (feeds : Feeds) (outsiders : Bool) :
    System ProcessOp ProcessTask (ProcessState feeds) ControlChoice ProcessCall where
  exec choice task _ op state := state.exec choice task op
  program := processProgram control
  mayStart := processMayStart feeds outsiders

def Feeds.room (feeds : Feeds) (kind : Kind) : Nat := ((feeds.capacity kind).getD 1 : ℕ+)

def processStart (feeds : Feeds) (files : List Path) :
    Config ProcessOp ProcessTask (ProcessState feeds) where
  shared := ⟨(controlStart files).shared, fun kind => .opened (feeds.room kind)⟩
  pool := fun _ => .done ()

end Qlaster
