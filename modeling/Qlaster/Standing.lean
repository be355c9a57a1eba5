import Qlaster.Echoing
import Qlaster.Feed
import Qlaster.Session

/-!
Where the tasks of the process stand in the systems inside it. Handlers read sockets and
dispatchers read streams between their calls of the sender; every other task is in the sender,
or in the control plane, exactly where it is in the process.
-/

namespace Qlaster

open Interleaving

section
variable {control : Control} {outsiders : Bool} {feeds : Feeds}

/-! The sender in the control plane. -/

theorem onSender_injective {α : Type} {program other : Program SenderOp α}
    (same : onSender program = onSender other) : program = other :=
  Program.lift_injective (fun clash => ControlOp.sender.inj clash) same

theorem control_carries (control : Control) (outsiders : Bool) :
    Hosting.Carries (controlSystem control outsiders) (senderSystem control.sender)
      ControlState.sender
      (fun sender whole => { whole with sender := sender }) ControlTask.sender ControlOp.sender
      ControlChoice.toSenderChoice ControlCall.sender where
  seen := fun _ _ => rfl
  unchanged := fun _ => rfl
  replaced := fun _ _ _ => rfl
  executed := by
    intro choice task β op whole reply after executed
    have ran : whole.sender.exec choice.toSenderChoice task op = some (reply, after) := executed
    simp only [controlSystem, ControlState.exec, ran]
  program := fun _ => rfl

def PassesOn : SenderTask → Prop
  | .handler _ => False
  | _ => True

theorem control_echoes (control : Control) (outsiders : Bool) :
    Hosting.Echoes (controlSystem control outsiders) (senderSystem control.sender)
      ControlTask.sender ControlCall.sender PassesOn := by
  intro task passes call
  cases task with
  | handler handler => exact passes.elim
  | _ => cases call <;> simp [controlSystem, controlMayStart, senderSystem]

theorem waitingHandler_quits (control : Control) (connection : Nat) :
    Quits OnSocket (waitingHandler control connection) :=
  .request trivial (.error .unexpectedEof) (.request trivial () (.done ()))

/-! The control plane in the process. -/

theorem onControl_injective {α : Type} {program other : Program ControlOp α}
    (same : onControl program = onControl other) : program = other :=
  Program.lift_injective (fun clash => ProcessOp.control.inj clash) same

theorem process_carries (control : Control) (feeds : Feeds) (outsiders : Bool) :
    Hosting.Carries (processSystem control feeds outsiders) (controlSystem control outsiders)
      ProcessState.control
      (fun control whole => { whole with control := control }) ProcessTask.control
        ProcessOp.control id
      ProcessCall.control where
  seen := fun _ _ => rfl
  unchanged := fun _ => rfl
  replaced := fun _ _ _ => rfl
  executed := by
    intro choice task β op whole reply after executed
    have ran : whole.control.exec choice task op = some (reply, after) := executed
    simp only [processSystem, ProcessState.exec, ran]
  program := fun _ => rfl

def HandsOn : ControlTask → Prop
  | .sender (.dispatcher _) => False
  | _ => True

theorem process_echoes (control : Control) (feeds : Feeds) (outsiders : Bool) :
    Hosting.Echoes (processSystem control feeds outsiders) (controlSystem control outsiders)
      ProcessTask.control ProcessCall.control HandsOn := by
  intro task hands call
  cases task with
  | sender task =>
      cases task with
      | dispatcher kind => exact hands.elim
      | _ => cases call <;> simp [processSystem, processMayStart, controlSystem]
  | _ => cases call <;> simp [processSystem, processMayStart, controlSystem]

def waitingDispatcher (control : Control) (kind : Kind) : Program ProcessOp Unit :=
  .unrolled () (fun _ => dispatcherTurn control kind) .done

theorem waitingDispatcher_quits (control : Control) (kind : Kind) :
    Quits OnFeed (waitingDispatcher control kind) :=
  .request trivial (.error .closed) (.done ())

end

/-! The places of all tasks. -/

/-- Nothing is under way in the sender: handlers wait for a frame and dispatchers for an update, if
they run at all. -/
structure Resting {feeds : Feeds} (control : Control)
    (config : Config ProcessOp ProcessTask (ProcessState feeds)) : Prop where
  handlers : ∀ handler, config.pool (.control (.sender (.handler handler))) = .done () ∨
    config.pool (.control (.sender (.handler handler))) = onControl (waitingHandler control handler)
  dispatchers : ∀ kind, config.pool (dispatcherOf kind) = .done () ∨
    config.pool (dispatcherOf kind) = waitingDispatcher control kind

/-- Runs of the two inner systems that lead to the same state, with the tasks of the process at
these places. -/
structure Stands {feeds : Feeds} (control : Control) (outsiders : Bool) (files : List Path)
    (config : Config ProcessOp ProcessTask (ProcessState feeds))
    (outer : ControlTask → Program ControlOp Unit)
    (inner : SenderTask → Program SenderOp Unit) : Prop where
  controlRun : (controlSystem control outsiders).Reachable (controlStart files)
    ⟨config.shared.control, outer⟩
  senderRun :
    (senderSystem control.sender).Reachable (senderStart files)
    ⟨config.shared.control.sender, inner⟩
  hands : ∀ task, HandsOn task → config.pool (.control task) = onControl (outer task)
  passes : ∀ task, PassesOn task → outer (.sender task) = onSender (inner task)
  idle : ∀ task, Sends task → inner task = .done ()

theorem Resting.stands {control : Control} {feeds : Feeds} {outsiders : Bool} {files : List Path}
    {config : Config ProcessOp ProcessTask (ProcessState feeds)} (resting : Resting control config)
    (run : (processSystem control feeds outsiders).Reachable (processStart feeds files) config) :
    ∃ outer inner, Stands control outsiders files config outer inner := by
  obtain ⟨outer, controlRun, outside⟩ := ((process_carries control feeds outsiders).tracks
    (process_hosts control feeds outsiders) (process_echoes control feeds outsiders)).reachable
    (process_hosts control feeds outsiders) (fun _ => rfl) run
  obtain ⟨inner, senderRun, inside⟩ :=
    ((control_carries control outsiders).tracks (control_hosts control outsiders)
    (control_echoes control outsiders)).reachable (control_hosts control outsiders)
      (fun _ => rfl) controlRun
  refine ⟨outer, inner, controlRun, senderRun, fun task => (outside task).2, fun task =>
    (inside task).2, ?_⟩
  intro task sends
  cases task with
  | dispatcher kind =>
      -- It is in no call of the control plane, and there it only passes calls on.
      have quits : Quits OnFeed (config.pool (dispatcherOf kind)) := by
        rcases resting.dispatchers kind with idle | waits
        · rw [idle]
          exact .done ()
        · rw [waits]
          exact waitingDispatcher_quits control kind
      have idle := (outside (.sender (.dispatcher kind))).1.quits (fun _ => id) quits
      exact onSender_injective (((inside (.dispatcher kind)).2 trivial).symm.trans idle)
  | handler handler =>
      have place := (outside (.sender (.handler handler))).2 trivial
      have quits : Quits OnSocket (outer (.sender (.handler handler))) := by
        rcases resting.handlers handler with idle | waits
        · have same : onControl (.done ()) = onControl (outer (.sender (.handler handler))) :=
            idle.symm.trans place
          rw [← onControl_injective same]
          exact .done ()
        · rw [← onControl_injective (waits.symm.trans place)]
          exact waitingHandler_quits control handler
      exact (inside (.handler handler)).1.quits (fun _ => id) quits
  | _ => exact sends.elim

section
variable {control : Control} {feeds : Feeds} {outsiders : Bool} {files : List Path}
  {config : Config ProcessOp ProcessTask (ProcessState feeds)}
  {outer : ControlTask → Program ControlOp Unit}
  {inner : SenderTask → Program SenderOp Unit} {choices : Nat → ControlChoice} {tick later : Nat}
  (stands : Stands control outsiders files config outer inner)
include stands

theorem Stands.place (task : SenderTask) (passes : PassesOn task) (hands : HandsOn (.sender task)) :
    config.pool (.control (.sender task)) = onControl (onSender (inner task)) := by
  rw [stands.hands _ hands, stands.passes _ passes]

theorem Stands.found (task : SenderTask) (passes : PassesOn task) (hands : HandsOn (.sender task))
    {program : Program SenderOp Unit}
    (there : config.pool (.control (.sender task)) = onControl (onSender program)) :
    inner task = program :=
  onSender_injective (onControl_injective ((stands.place task passes hands).symm.trans there))

end

end Qlaster
