import Qlaster.Asking
import Qlaster.Handling
import Qlaster.Slots

/-!
Both ends of every control socket keep to the discipline in every run, so a consumer and its
handler agree on the token and on which reply belongs to which request.
-/

namespace Qlaster

open Interleaving Interleaving.Discipline LittleEndian PrefixCode

section
variable {control : Control} {outsiders : Bool}

theorem senderTask_triple (actor : SenderTask) (call : SenderCall)
    (may : senderMayStart actor call = true) :
    (controlling control outsiders).Triple (.sender actor) (controlRest control (.sender actor))
      (onSender (senderProgram control.sender call)) fun _ =>
        controlRest control (.sender actor) := by
  have frame : (controlling control outsiders).Stable (.sender actor) fun state =>
      ∀ connection, actor = .handler connection →
        (state.links connection).accepted = false → Unserved (state.links connection) := by
    refine controlling_stable fun before after leaves unserved connection same unaccepted => ?_
    have keeps := leaves.server connection (by rw [same])
    exact (unserved connection same (keeps.accepted ▸ unaccepted)).keeps keeps
  exact triple_weaken
    (onSender_triple frame (fun _ _ _ holds => holds) (senderCall_triple actor call may))
    (fun _ _ holds => ⟨holds.2, holds.1⟩) fun _ _ _ holds => ⟨holds.2, holds.1⟩

theorem fail_triple (connection : Nat) (side : Side) :
    (controlling control outsiders).Triple (.network connection)
    (controlRest control (.network connection))
      (onLink connection (.perform (.fail side))) fun _ =>
        controlRest control (.network connection) :=
  link_triple rfl stable_rest (fun _ => stable_rest) (fun _ _ _ => trivial) fun _ _ _ _ _ _ _ =>
    trivial

theorem controlCall_triple (lawful : control.Lawful) (task : ControlTask) (call : ControlCall)
    (may : controlMayStart outsiders task call = true) :
    (controlling control outsiders).Triple task (controlRest control task)
    (controlProgram control call)
      fun _ => controlRest control task := by
  have once : ∀ {task : ControlTask} {α : Type} {program : Program ControlOp α},
      (controlling control outsiders).Triple task (controlRest control task) program
        (fun _ => controlRest control task) →
      (controlling control outsiders).Triple task (controlRest control task)
      (program.bind fun _ => .done ())
        fun _ => controlRest control task :=
    fun triple => triple_bind triple fun _ => triple_done stable_rest fun _ _ holds => holds
  match task, call, may with
  | .sender (.handler connection), .sender call, may =>
      exact senderTask_triple _ call (Bool.and_eq_true_iff.mp may).2
  | .sender (.dispatcher kind), .sender call, may => exact senderTask_triple _ call may
  | .sender (.reader ring), .sender call, may => exact senderTask_triple _ call may
  | .sender (.client ring), .sender call, may => exact senderTask_triple _ call may
  | .sender (.runtime ring), .sender call, may => exact senderTask_triple _ call may
  | .sender (.handler connection), .serve connection', may =>
      obtain rfl : connection = connection' := of_decide_eq_true may
      exact serve_triple lawful
  | .consumer connection, .setup connection', may =>
      obtain rfl : connection = connection' := of_decide_eq_true may
      exact once (setup_triple lawful)
  | .consumer connection, .subscribe connection' accountPubkeys accountOwners, may =>
      obtain rfl : connection = connection' := of_decide_eq_true may
      exact once (subscribeWith_triple lawful (.new accountPubkeys accountOwners))
  | .consumer connection, .subscribeTransactions connection', may =>
      obtain rfl : connection = connection' := of_decide_eq_true may
      exact once (subscribeWith_triple lawful .transactions)
  | .consumer connection, .sendPing connection', may =>
      obtain rfl : connection = connection' := of_decide_eq_true may
      exact once (sendPing_triple lawful)
  | .network connection, .fail connection' side, may =>
      obtain rfl : connection = connection' := of_decide_eq_true may
      exact fail_triple connection side

theorem linkInv_unused (state : SenderState) : LinkInv control state .unused := by
  refine ⟨⟨?_, ?_⟩, ⟨?_, ?_⟩, ?_, ?_, ?_, ?_, ?_, ?_, ?_, ?_, fun _ => ⟨?_, ?_, ?_, .inl rfl⟩⟩ <;>
    simp [Link.unused, asks]

theorem control_sound (control : Control) (outsiders : Bool) (files : List Path) :
    Sound (controlling control outsiders) (controlStart files) := by
  refine Sound.ofIdle ⟨senderInv_created control.sender files, fun _ => linkInv_unused _⟩
    (fun _ => rfl) fun task => ?_
  cases task with
  | sender actor =>
      refine ⟨(sender_sound control.sender files).rest rfl, fun connection _ _ => ?_⟩
      constructor <;> rfl
  | consumer connection => exact .inr ⟨rfl, ⟨rfl, rfl, rfl, rfl, rfl⟩⟩
  | network connection => trivial

theorem control_inv {files : List Path} {config : Config ControlOp ControlTask ControlState}
    (lawful : control.Lawful)
    (run : (controlSystem control outsiders).Reachable (controlStart files) config) :
    ControlInv control config.shared :=
  ((control_sound control outsiders files).reachable (controlCall_triple lawful) run).inv

end

/-- The consumer of a socket and its handler agree. -/
structure Agrees (control : Control) (state : SenderState) (link : Link) : Prop where
  -- The stored token is that of the `ConnectionReadyShm` whose ring the reader opened.
  token : ∀ consumer, link.consumer = some consumer →
    ⟨consumer.slotTokenIndex, consumer.slotTokenGeneration⟩ = consumer.ring.slotToken ∧
      Announces control link.answers consumer.ring
  -- The handler answers the subscriptions in the order in which they were sent, with what
  -- `upsert_shm` returns.
  answered : link.answers.map Answer.request <+: asks control link.sent ∧
    ∀ answer ∈ link.answers, replyPayload control answer.provision = .ok answer.payload ∧
      Answers control.sender answer.request (.ok answer.provision) state
  -- After the first, every subscription is paired with its own reply.
  exchanged : link.exchanges <+: (link.answers.drop 1).map fun answer =>
    (answer.request, answer.payload)
  -- What was confirmed is the `Existing` branch, for that request and on the connection of that
  -- token.
  confirmed : ∀ request ∈ link.confirmed, Confirmed state link request

/--
In every run, with evictions and other clients at any moment, the token a consumer stores is that
of the ring it opened, `send_subscription` reads the reply to its own request, and when it returns
`Ok` the connection of that token was refreshed with exactly that request.
-/
theorem control_agrees (control : Control) (lawful : control.Lawful) (outsiders : Bool)
    (files : List Path) (config : Config ControlOp ControlTask ControlState)
    (run : (controlSystem control outsiders).Reachable (controlStart files) config)
    (connection : Nat) : Agrees control config.shared.sender (config.shared.links connection) := by
  have inv := (control_inv lawful run).links connection
  refine ⟨fun consumer here => ?_, ⟨inv.asked, fun answer member => ?_⟩, inv.exchanged,
    inv.confirmed⟩
  · have tokened := inv.tokened consumer here
    exact ⟨by rw [tokened.index, tokened.generation], tokened.announced⟩
  · have answered := inv.answered answer member
    exact ⟨answered.encoded, answered.answers⟩

def sampleControl : Control where
  sender := { sampleSender with codecs := ⟨literalLz4, defaultWincode.toWincode⟩ }
  wincode := defaultWincode
  same := rfl

theorem sampleControl_path (slotIndex : SlotIndex) (connectionId : UInt64) :
    (sampleControl.sender.ringPath slotIndex connectionId).length ≤ 108 := by
  have bytes := sampleControl.sender.ringPath_length_le slotIndex connectionId
  have dir : sampleControl.sender.shmDir.length = 2 := rfl
  have pid : (Nat.toDigits 10 sampleControl.sender.pid).length = 1 := by decide
  omega

theorem sampleControl_text : ∃ text, utf8 text = sampleControl.sender.shmDir :=
  ⟨"/q", by decide +kernel⟩

theorem sampleControl_lawful : sampleControl.Lawful where
  wincode := defaultWincode_lawful
  readySized := by
    intro wire bytes written
    obtain rfl := Except.ok.inj written
    simp [readyCode, imap, pair, tokenCode, byte, u64, block]
  shmSized := defaultWincode_shmSized
  keepsText := sampleLossy_keepsText
  paths := by
    intro slotIndex connectionId
    have short := sampleControl_path slotIndex connectionId
    have keeps : KeepsText sampleControl.toStringLossy := sampleLossy_keepsText
    rw [ringPath_said keeps sampleControl_text]
    simp only [maxFrameSize]
    omega

abbrev ControlCommand := System.Command ControlTask ControlChoice ControlCall

def moves (task : ControlTask) (count : Nat) (choice : ControlChoice := {}) : List ControlCommand :=
  List.replicate count (.step task choice)

def sampleSetup : List ControlCommand :=
  .start (.consumer 0) (.setup 0) :: moves (.consumer 0) 4 ++
    .start (.sender (.handler 0)) (.serve 0) :: moves (.sender (.handler 0)) 23 ++ moves
      (.consumer 0) 4

-- A setup and a subscription that is confirmed, under the first token.
theorem control_agrees_subscribed :
    ∃ config, (controlSystem sampleControl true).Reachable (controlStart []) config ∧
      Agrees sampleControl config.shared.sender (config.shared.links 0) ∧
      (config.shared.links 0).consumer.map (·.ring.slotToken) = some ⟨0, 1⟩ ∧
      (config.shared.links 0).confirmed =
        [(SubscriptionRequest.new [] []).withSlotToken (some ⟨0, 1⟩)] ∧
      (config.shared.links 0).exchanges.length = 1 := by
  have ran : ((controlSystem sampleControl true).schedule (controlStart [])
      (sampleSetup ++ .start (.consumer 0) (.subscribe 0 [] []) :: moves (.consumer 0) 5 ++
        moves (.sender (.handler 0)) 19 ++ moves (.consumer 0) 6)).any (fun config =>
          (config.shared.links 0).consumer.map (·.ring.slotToken) = some ⟨0, 1⟩ ∧
          (config.shared.links 0).confirmed =
            [(SubscriptionRequest.new [] []).withSlotToken (some ⟨0, 1⟩)] ∧
          (config.shared.links 0).exchanges.length = 1) = true := by
    decide +kernel
  obtain ⟨config, run, checked⟩ := System.schedule_finds ran
  obtain ⟨token, confirmed, exchanged⟩ := of_decide_eq_true checked
  exact ⟨config, run, control_agrees sampleControl sampleControl_lawful true [] config run 0, token,
    confirmed, exchanged⟩

end Qlaster
