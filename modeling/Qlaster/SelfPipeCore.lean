import Qlaster.ChannelCore

/-!
The two backends of `shm/eventfd.rs`: the eventfd and the self-pipe. Both keep a number of
wakeups pending, up to a limit; they differ in what a read takes.
-/

namespace Qlaster

open Interleaving

/-- The system calls on a non-blocking descriptor. -/
inductive FdOp : Type → Type
  | write : FdOp (SyscallReply Unit)
  | read (len : Nat) : FdOp (SyscallReply Nat)

def afterWrite : SyscallReply Unit → Sum Unit (Except IoErrorKind Unit)
  | .done _ => .inr (.ok ())
  | .wouldBlock => .inr (.ok ())
  | .interrupted => .inl ()
  | .failed kind => .inr (.error kind)

def writeLoop : Program FdOp (Except IoErrorKind Unit) :=
  .iterate () fun _ => do
    let reply ← .perform .write
    return afterWrite reply

namespace EventFd

def notify : Program FdOp (Except IoErrorKind Unit) := writeLoop

def afterRead : SyscallReply Nat → Sum Unit (Except IoErrorKind Nat)
  | .done count => .inr (.ok count)
  | .wouldBlock => .inr (.ok 0)
  | .interrupted => .inl ()
  | .failed kind => .inr (.error kind)

def drain : Program FdOp (Except IoErrorKind Nat) :=
  .iterate () fun _ => do
    let reply ← .perform (.read 8)
    return afterRead reply

end EventFd

/-- A handle on the self-pipe: the consumer's has no write end. -/
structure SelfPipe where
  write : Bool
  deriving DecidableEq, Repr

namespace SelfPipe

def new : SelfPipe := ⟨true⟩
def fromOwnedFd : SelfPipe := ⟨false⟩

def notify (pipe : SelfPipe) : Program FdOp (Except IoErrorKind Unit) :=
  if pipe.write then writeLoop else return .error .unsupported

def drainBuf : Nat := 64

/-- The total is a `u64` in the source: to overflow it, a single drain would have to read
2^64 notifies. -/
def afterRead (total : Nat) : SyscallReply Nat → Sum Nat (Except IoErrorKind Nat)
  | .done n =>
      -- No bytes at all: the write end is closed.
      if n = 0 then .inr (.ok total)
      else if n < drainBuf then .inr (.ok (total + n))
      else .inl (total + n)
  | .wouldBlock => .inr (.ok total)
  | .interrupted => .inl total
  | .failed kind => .inr (.error kind)

def drainFrom (total : Nat) : Program FdOp (Except IoErrorKind Nat) :=
  .iterate total fun total => do
    let reply ← .perform (.read drainBuf)
    return afterRead total reply

def drain : Program FdOp (Except IoErrorKind Nat) := drainFrom 0

end SelfPipe

/-! Tasks that notify and one that drains. -/

inductive Backend
  | eventfd
  | pipe
  deriving DecidableEq, Repr

namespace Backend

def notify : Backend → Program FdOp (Except IoErrorKind Unit)
  | .eventfd => EventFd.notify
  | .pipe => SelfPipe.new.notify

def drain : Backend → Program FdOp (Except IoErrorKind Nat)
  | .eventfd => EventFd.drain
  | .pipe => SelfPipe.drain

/-- What a read takes of what is pending: the whole counter, or as many bytes as there is room for.
-/
def takes (backend : Backend) (len pending : Nat) : Nat :=
  match backend with
  | .eventfd => pending
  | .pipe => min len pending

end Backend

inductive WakeTask
  | notifier (index : Nat)
  | drainer
  deriving DecidableEq, Repr

inductive WakeEvent
  | notifyCalled
  -- A `write` that was not interrupted, and whether there was room.
  | wrote (stored : Bool)
  | notifyReturned (result : Except IoErrorKind Unit)
  | drainCalled
  | drainReturned (result : Except IoErrorKind Nat)

inductive WakeOp : Type → Type
  | write : WakeOp (SyscallReply Unit)
  | read (len : Nat) : WakeOp (SyscallReply Nat)
  | note (event : WakeEvent) : WakeOp Unit

def FdOp.noted : {β : Type} → FdOp β → WakeOp β
  | _, .write => .write
  | _, .read len => .read len

def onFd {α : Type} (program : Program FdOp α) : Program WakeOp α := program.lift FdOp.noted

inductive WakeCall
  | notify
  | drain
  deriving DecidableEq, Repr

def notifyRest (result : Except IoErrorKind Unit) : Program WakeOp Unit :=
  .perform (.note (.notifyReturned result))

def drainRest (result : Except IoErrorKind Nat) : Program WakeOp Unit :=
  .perform (.note (.drainReturned result))

def wakeProgram (backend : Backend) : WakeCall → Program WakeOp Unit
  | .notify => do
      .perform (.note .notifyCalled)
      let result ← onFd backend.notify
      notifyRest result
  | .drain => do
      .perform (.note .drainCalled)
      let result ← onFd backend.drain
      drainRest result

def wakeMayStart : WakeTask → WakeCall → Bool
  | .notifier _, .notify => true
  | .drainer, .drain => true
  | _, _ => false

structure WakeState where
  -- The counter of the eventfd, or the bytes in the pipe.
  pending : Nat
  -- System calls made so far.
  attempts : Nat
  -- Calls, writes and results, newest first.
  history : List (WakeTask × WakeEvent)
  -- What the drain that is underway has read.
  taken : Nat

def WakeEvent.settles : WakeEvent → Bool
  | .drainReturned _ => true
  | _ => false

namespace WakeState

def created : WakeState := ⟨0, 0, [], 0⟩

def tried (state : WakeState) : WakeState := { state with attempts := state.attempts + 1 }

def wrote (state : WakeState) (limit : Nat) (task : WakeTask) : WakeState :=
  if limit ≤ state.pending then
    { state.tried with history := (task, .wrote false) :: state.history }
  else
    { state.tried with
      pending := state.pending + 1
      history := (task, .wrote true) :: state.history }

def noted (state : WakeState) (task : WakeTask) (event : WakeEvent) : WakeState :=
  { state with
    history := (task, event) :: state.history
    taken := if event.settles then 0 else state.taken }

/-- `interrupts` says which system calls a signal interrupts, counted over the whole run. -/
def exec (backend : Backend) (limit : Nat) (interrupts : Nat → Bool) (task : WakeTask) :
    {β : Type} → WakeOp β → WakeState → β × WakeState
  | _, .write, state =>
      if interrupts state.attempts then (.interrupted, state.tried)
      else if limit ≤ state.pending then (.wouldBlock, state.wrote limit task)
      else (.done (), state.wrote limit task)
  | _, .read len, state =>
      if interrupts state.attempts then (.interrupted, state.tried)
      else if state.pending = 0 then (.wouldBlock, state.tried)
      else
        let count := backend.takes len state.pending
        (.done count, { state.tried with
          pending := state.pending - count
          taken := state.taken + count })
  | _, .note event, state => ((), state.noted task event)

end WakeState

def wakeSystem (backend : Backend) (limit : Nat) (interrupts : Nat → Bool) :
    System WakeOp WakeTask WakeState Unit WakeCall where
  exec _ task _ op state := some (state.exec backend limit interrupts task op)
  program := wakeProgram backend
  mayStart := wakeMayStart

def wakeStart : Config WakeOp WakeTask WakeState where
  shared := .created
  pool _ := .done ()

/-- No system call is interrupted for ever. -/
def Finitely (interrupts : Nat → Bool) : Prop := ∀ attempt, ∃ later, attempt ≤ later ∧
    interrupts later = false

end Qlaster
