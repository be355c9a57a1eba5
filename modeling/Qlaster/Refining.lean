import Qlaster.Agreement
import Qlaster.Hosting

/-!
The control plane runs the sender: a handler turns what it reads from its socket into calls of
the sender, so whatever happens on the sockets, the sender's state is one that its own calls
can bring about.
-/

namespace Qlaster

open Interleaving

section
variable {control : Control}

def OnSocket : {β : Type} → ControlOp β → Prop
  | _, .link _ _ => True
  | _, .sender _ => False

theorem onLink_onSocket {α : Type} (connection : Nat) (program : Program LinkOp α) :
    (onLink connection program).Only OnSocket :=
  Program.lift_only (fun _ => trivial) program

/-- A program that makes calls of the sender, as one of its tasks. -/
abbrev ServesSender (control : Control) (task : SenderTask) {α : Type}
    (program : Program ControlOp α) : Prop :=
  Serves (senderSystem control.sender) ControlOp.sender OnSocket task program

theorem onLink_serves {task : SenderTask} {α : Type} (connection : Nat)
    (program : Program LinkOp α) : ServesSender control task (onLink connection program) :=
  .ofOnly (onLink_onSocket connection program)

theorem onSender_follows {α : Type} (program : Program SenderOp α) :
    Follows (fun op => ControlOp.sender op) OnSocket (onSender program) Eq program :=
  follows_lift program

theorem upsert_serves (connection handler : Nat) (request : SubscriptionRequest) {α : Type}
    {rest : Except QlasterError ShmSlotProvision → Program ControlOp α}
    (continues : ∀ result, ServesSender control (.handler handler) (rest result)) :
    ServesSender control (.handler handler)
      ((onSender (upsertShm control.sender request)).bind fun result =>
        (noteCreated connection result).bind fun _ =>
          (onSender (ask (.note (.provisioned result)))).bind fun _ => rest result) := by
  let whole : Program ControlOp (Except QlasterError ShmSlotProvision) :=
    (onSender (upsertShm control.sender request)).bind fun result =>
      (noteCreated connection result).bind fun _ =>
        (onSender (ask (.note (.provisioned result)))).bind fun _ => .done result
  have follows : Follows (fun op => ControlOp.sender op) OnSocket whole (fun _ _ => True)
      ((senderSystem control.sender).program (.subscribe request)) := by
    refine (onSender_follows _).bind ?_
    rintro result _ rfl
    have marked : Follows (fun op => ControlOp.sender op) OnSocket
        ((onSender (ask (.note (.provisioned result)))).bind fun _ => .done result)
        (fun _ _ => True) (ask (.note (.provisioned result))) :=
      .inr ⟨_, _, rfl, rfl, fun _ => ⟨_, rfl, trivial⟩⟩
    unfold noteCreated
    split
    · exact .inl ⟨trivial, fun _ => marked⟩
    · exact marked
  have split : ((onSender (upsertShm control.sender request)).bind fun result =>
      (noteCreated connection result).bind fun _ =>
        (onSender (ask (.note (.provisioned result)))).bind fun _ => rest result) =
          whole.bind rest := by
    simp only [whole, Program.bind_assoc, Program.bind]
  rw [split]
  exact .call (.subscribe request) rfl follows continues

theorem touchPing_serves (handler : Nat) (ping : PingRequest) {α : Type}
    {rest : Program ControlOp α} (continues : ServesSender control (.handler handler) rest) :
    ServesSender control (.handler handler) ((onSender (touchPing ping)).bind fun _ => rest) := by
  refine .call (.ping ping) rfl ?_ fun _ => continues
  change Follows _ _ (onSender (touchPing ping)) _ ((touchPing ping).bind fun _ => .done ())
  rw [← Program.bind_done (onSender (touchPing ping))]
  exact (onSender_follows _).bind fun _ _ _ => ⟨(), rfl, trivial⟩

theorem handleFrameOf_serves (connection : Nat) :
    ServesSender control (.handler connection) (handleFrameOf control connection) := by
  refine (onLink_serves connection _).bind fun read => ?_
  split
  · exact .done _
  · exact .done _
  · refine (onLink_serves connection _).bind fun decoded => ?_
    cases decoded with
    | error error => exact .done _
    | ok frame =>
        cases frame with
        | ping ping => exact touchPing_serves connection ping (.done _)
        | subscription request =>
            refine upsert_serves connection connection request fun result => ?_
            cases result with
            | error error => exact .done _
            | ok provision =>
                refine (onLink_serves connection _).bind fun sent => ?_
                cases sent with
                | error error => exact .done _
                | ok _ => exact .done _

theorem serve_serves (connection : Nat) :
    ServesSender control (.handler connection) (controlProgram control (.serve connection)) := by
  refine (onLink_serves connection _).bind fun _ => Serves.bind ?_ fun _ => .done _
  refine (Serves.iterate fun _ => handleFrameOf_serves connection).bind fun _ => ?_
  exact (onLink_serves connection _).bind fun _ => .done _

theorem senderCall_serves {task : SenderTask} {call : SenderCall}
    (may : senderMayStart task call = true) :
    ServesSender control task (controlProgram control (.sender call)) :=
  .ofCall call may ((onSender_follows (senderProgram control.sender call)).mono fun _ _ _ =>
    trivial)

theorem control_hosts (control : Control) (outsiders : Bool) :
    Hosting (controlSystem control outsiders) (senderSystem control.sender) ControlState.sender
      ControlTask.sender ControlOp.sender OnSocket where
  injective := fun _ _ same => ControlTask.sender.inj same
  apart := by
    intro choice task β op before reply after mine executed
    cases op with
    | sender op => exact mine.elim
    | link connection op =>
        have ran : before.exec choice task (.link connection op) = some (reply, after) := executed
        obtain ⟨link, _, rfl⟩ := exec_link ran
        rfl
  executed := by
    intro choice task β op before reply after executed
    obtain ⟨sender, ran, rfl⟩ := exec_sender executed
    exact ⟨_, ran⟩
  serves := by
    intro task call may
    cases call with
    | sender call =>
        have allowed : senderMayStart task call = true := by
          cases task <;> simp_all [controlSystem, controlMayStart]
        exact senderCall_serves allowed
    | serve connection =>
        cases task with
        | handler handler =>
            obtain rfl : handler = connection := of_decide_eq_true may
            exact serve_serves handler
        | _ => cases may
    | _ => cases task <;> cases may
  bystands := by
    intro task call outsider may
    cases task with
    | sender task => exact absurd rfl (outsider task)
    | consumer connection =>
        cases call <;> first
          | cases may
          | exact (onLink_onSocket _ _).bind fun _ => trivial
    | network connection =>
        cases call <;> first
          | cases may
          | exact onLink_onSocket _ _

end

/-- Every run of the control plane is a run of the sender; what is idle in the one is idle in the
other. -/
theorem control_sender {control : Control} {outsiders : Bool} {files : List Path}
    {config : Config ControlOp ControlTask ControlState}
    (run : (controlSystem control outsiders).Reachable (controlStart files) config) :
    ∃ pool, (senderSystem control.sender).Reachable (senderStart files)
      ⟨config.shared.sender, pool⟩ ∧
      ∀ task, config.pool (.sender task) = .done () → pool task = .done () := by
  obtain ⟨pool, reached, plays⟩ := (control_hosts control outsiders).reachable (fun _ => rfl) run
  refine ⟨pool, reached, fun task idle => ?_⟩
  have playing := plays task
  rw [idle] at playing
  exact playing.idle

end Qlaster
