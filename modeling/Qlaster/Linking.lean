import Qlaster.Link

/-!
The discipline of the control plane: the sender's tasks keep to their own discipline, and
each end of a socket leaves to the other what is the other's.
-/

namespace Qlaster

open Interleaving Interleaving.Discipline LittleEndian PrefixCode

/-! What each end leaves to the other. -/

section
variable (control : Control)

structure ClientKeeps (before after : Link) : Prop where
  connected : after.connected = before.connected
  consumer : after.consumer = before.consumer
  sent : after.sent = before.sent
  exchanges : after.exchanges = before.exchanges
  confirmed : after.confirmed = before.confirmed
  written : after.requests.written = before.requests.written
  closed : after.requests.closed = before.requests.closed
  taken : after.replies.taken = before.replies.taken
  refused : after.refused = before.refused
  answers : before.answers <+: after.answers
  ill : ∀ side, before.health side ≠ .sound → after.health side ≠ .sound
  failed : before.health .client = .failed → after.health .client = .failed
  hungUp : before.replies.closed = true → after.replies.closed = true ∧
    after.replies.written = before.replies.written
  settled : (asks control before.sent).length ≤ before.answers.length →
    after.announced = before.announced

structure ServerKeeps (before after : Link) : Prop where
  accepted : after.accepted = before.accepted
  answers : after.answers = before.answers
  announced : after.announced = before.announced
  taken : after.requests.taken = before.requests.taken
  written : after.replies.written = before.replies.written
  closed : after.replies.closed = before.replies.closed
  sent : before.sent <+: after.sent
  ill : before.health .server ≠ .sound → after.health .server ≠ .sound
  dropped : before.requests.closed = true → after.requests.closed = true

theorem ClientKeeps.refl (link : Link) : ClientKeeps control link link := by
  constructor <;> simp

theorem ServerKeeps.refl (link : Link) : ServerKeeps link link := by
  constructor <;> simp

end

section
variable {control : Control} {state : SenderState} {adopted : List Nat} {link after : Link}
  {task : ControlTask} {connection : Nat} {β : Type} {op : LinkOp β} {choice : ControlChoice}
  {files : List Path} {reply : β}

theorem clientKeeps_ail {side : Side} {health : Health} (ill : health ≠ .sound)
    (other : side = .client → link.health .client ≠ .failed) :
    ClientKeeps control link (link.ail side health) := by
  constructor <;> simp only [Link.ail, List.prefix_rfl, implies_true]
  · intro other before
    by_cases same : other = side
    · rw [same, Function.update_self]
      exact ill
    · rwa [Function.update_of_ne same]
  · intro failed
    cases side with
    | client => exact absurd failed (other rfl)
    | server => simpa using failed
  · exact fun closed => ⟨closed, trivial⟩

theorem clientKeeps_spoil {bytes : Bytes} {count : Nat} (opened : link.replies.closed = false) :
    ClientKeeps control link (link.spoil .server bytes count) := by
  unfold Link.spoil
  split
  · have keeps : ClientKeeps control link (link.ail .server .failed) :=
      clientKeeps_ail (by simp) (by simp)
    refine { keeps with hungUp := fun closed => ?_ }
    simp [opened] at closed
  · exact ClientKeeps.refl control link

theorem Link.exec_clientKeeps (owner : op.ownedBy task connection)
    (other : task ≠ .consumer connection) (guarded : linkGuard control state adopted link op)
    (executed : link.exec choice files op = some (reply, after)) :
    ClientKeeps control link after := by
  cases op with
  | connect => exact absurd owner other
  | recvmsg => exact absurd owner other
  | openRing path => exact absurd owner other
  | joinRing path eventfd => exact absurd owner other
  | install consumer => exact absurd owner other
  | loadSlotTokenIndex => exact absurd owner other
  | loadSlotTokenGeneration => exact absurd owner other
  | storeSlotTokenIndex index => exact absurd owner other
  | storeSlotTokenGeneration generation => exact absurd owner other
  | panicked => simp [Link.exec] at executed
  | accept =>
      simp only [Link.exec] at executed
      split at executed
      all_goals simp only [reduceCtorEq, Option.some.injEq, Prod.mk.injEq] at executed
      obtain ⟨-, rfl⟩ := executed
      exact { ClientKeeps.refl control link with }
  | readExact side count =>
      cases side with
      | client => exact absurd owner other
      | server =>
          simp only [Link.exec] at executed
          repeat' split at executed
          all_goals simp only [reduceCtorEq, Option.some.injEq, Prod.mk.injEq] at executed
          all_goals
            obtain ⟨-, rfl⟩ := executed
            exact { ClientKeeps.refl control link with }
  | writeAll side bytes =>
      cases side with
      | client => exact absurd owner other
      | server =>
          obtain ⟨opened, -⟩ := guarded
          simp only [Link.exec] at executed
          repeat' split at executed
          all_goals
            simp only [Option.some.injEq, Prod.mk.injEq] at executed
            obtain ⟨-, rfl⟩ := executed
          · exact ClientKeeps.refl control link
          · exact clientKeeps_spoil opened
          · refine { ClientKeeps.refl control link with hungUp := fun closed => ?_ }
            simp [opened] at closed
  | sendmsg message fd =>
      obtain ⟨opened, -⟩ := guarded
      simp only [Link.exec] at executed
      repeat' split at executed
      all_goals
        simp only [Option.some.injEq, Prod.mk.injEq] at executed
        obtain ⟨-, rfl⟩ := executed
      · exact ClientKeeps.refl control link
      · have keeps : ClientKeeps control link (link.spoil .server message choice.written) :=
          clientKeeps_spoil opened
        exact { keeps with }
      · refine { ClientKeeps.refl control link with hungUp := fun closed => ?_ }
        simp [opened] at closed
  | drop side =>
      cases side with
      | client => exact absurd owner other
      | server =>
          obtain ⟨-, rfl⟩ := Prod.mk.inj (Option.some.inj executed)
          exact { ClientKeeps.refl control link with hungUp := fun _ => ⟨rfl, rfl⟩ }
  | fail side =>
      obtain ⟨-, rfl⟩ := Prod.mk.inj (Option.some.inj executed)
      split
      · rename_i sound
        refine clientKeeps_ail (by simp) fun same => ?_
        subst same
        simp [sound]
      · exact ClientKeeps.refl control link
  | note note =>
      obtain ⟨-, rfl⟩ := Prod.mk.inj (Option.some.inj executed)
      cases note with
      | sending payload => exact absurd owner other
      | exchanged request reply => exact absurd owner other
      | confirmed request => exact absurd owner other
      | announcing eventfd =>
          obtain ⟨-, -, -, request, next⟩ := guarded
          refine { ClientKeeps.refl control link with settled := fun all => ?_ }
          have length := next.length_le
          simp at length
          omega
      | answering answer =>
          exact { ClientKeeps.refl control link with answers := List.prefix_append _ _ }

theorem serverKeeps_onFile {granted : Except String Unit} :
    ServerKeeps link (link.onFile choice granted).2 := by
  unfold Link.onFile
  split
  · exact { ServerKeeps.refl link with }
  · exact ServerKeeps.refl link

theorem Link.exec_serverKeeps (owner : op.ownedBy task connection)
    (other : task ≠ .sender (.handler connection))
    (executed : link.exec choice files op = some (reply, after)) : ServerKeeps link after := by
  have ailing : ∀ {side : Side} {health : Health}, health ≠ .sound →
      ServerKeeps link (link.ail side health) := by
    intro side health ill
    refine { ServerKeeps.refl link with ill := fun before => ?_ }
    cases side with
    | client => simpa [Link.ail] using before
    | server => simpa [Link.ail] using ill
  cases op with
  | accept => exact absurd owner other
  | sendmsg message fd => exact absurd owner other
  | panicked => simp [Link.exec] at executed
  | connect =>
      simp only [Link.exec] at executed
      repeat' split at executed
      all_goals simp only [reduceCtorEq, Option.some.injEq, Prod.mk.injEq] at executed
      all_goals
        obtain ⟨-, rfl⟩ := executed
        exact { ServerKeeps.refl link with }
  | recvmsg =>
      simp only [Link.exec] at executed
      repeat' split at executed
      all_goals simp only [reduceCtorEq, Option.some.injEq, Prod.mk.injEq] at executed
      all_goals
        obtain ⟨-, rfl⟩ := executed
        exact { ServerKeeps.refl link with }
  | openRing path =>
      obtain rfl := congrArg Prod.snd (Option.some.inj executed)
      exact serverKeeps_onFile
  | joinRing path eventfd =>
      obtain rfl := congrArg Prod.snd (Option.some.inj executed)
      exact serverKeeps_onFile
  | install consumer =>
      obtain ⟨-, rfl⟩ := Prod.mk.inj (Option.some.inj executed)
      exact { ServerKeeps.refl link with }
  | loadSlotTokenIndex =>
      obtain ⟨consumer, -, same⟩ := Option.map_eq_some_iff.mp executed
      rw [← (Prod.mk.inj same).2]
      exact ServerKeeps.refl link
  | loadSlotTokenGeneration =>
      obtain ⟨consumer, -, same⟩ := Option.map_eq_some_iff.mp executed
      rw [← (Prod.mk.inj same).2]
      exact ServerKeeps.refl link
  | storeSlotTokenIndex index =>
      obtain ⟨consumer, -, same⟩ := Option.map_eq_some_iff.mp executed
      rw [← (Prod.mk.inj same).2]
      exact { ServerKeeps.refl link with }
  | storeSlotTokenGeneration generation =>
      obtain ⟨consumer, -, same⟩ := Option.map_eq_some_iff.mp executed
      rw [← (Prod.mk.inj same).2]
      exact { ServerKeeps.refl link with }
  | readExact side count =>
      cases side with
      | server => exact absurd owner other
      | client =>
          simp only [Link.exec] at executed
          repeat' split at executed
          all_goals simp only [reduceCtorEq, Option.some.injEq, Prod.mk.injEq] at executed
          all_goals
            obtain ⟨-, rfl⟩ := executed
            exact { ServerKeeps.refl link with }
  | writeAll side bytes =>
      cases side with
      | server => exact absurd owner other
      | client =>
          simp only [Link.exec] at executed
          repeat' split at executed
          all_goals
            simp only [Option.some.injEq, Prod.mk.injEq] at executed
            obtain ⟨-, rfl⟩ := executed
          · exact ServerKeeps.refl link
          · unfold Link.spoil
            split
            · have keeps : ServerKeeps link (link.ail .client .failed) := ailing (by simp)
              exact { keeps with }
            · exact ServerKeeps.refl link
          · exact { ServerKeeps.refl link with }
  | drop side =>
      cases side with
      | server => exact absurd owner other
      | client =>
          obtain ⟨-, rfl⟩ := Prod.mk.inj (Option.some.inj executed)
          exact { ServerKeeps.refl link with dropped := fun _ => rfl }
  | fail side =>
      obtain ⟨-, rfl⟩ := Prod.mk.inj (Option.some.inj executed)
      split
      · exact ailing (by simp)
      · exact ServerKeeps.refl link
  | note note =>
      obtain ⟨-, rfl⟩ := Prod.mk.inj (Option.some.inj executed)
      cases note with
      | announcing eventfd => exact absurd owner other
      | answering answer => exact absurd owner other
      | sending payload => exact { ServerKeeps.refl link with sent := List.prefix_append _ _ }
      | exchanged request reply => exact { ServerKeeps.refl link with }
      | confirmed request => exact { ServerKeeps.refl link with }

end

/-! The discipline. -/

section
variable (control : Control)

structure ControlInv (state : ControlState) : Prop where
  sender : SenderInv control.sender state.sender
  links : ∀ connection, LinkInv control state.sender (state.links connection)

def controlGuard (task : ControlTask) : {β : Type} → ControlOp β → ControlState → Prop
  | _, .sender op, state =>
    ∃ actor, task = .sender actor ∧ senderGuard control.sender actor op state.sender
  | _, .link connection op, state => op.ownedBy task connection ∧
      linkGuard control state.sender state.adopted (state.links connection) op

def InStep (left : List SubscriptionRequest) (link : Link) : Prop :=
  (∃ front, asks control link.sent = front ++ left ∧ front.length = 1 + link.exchanges.length) ∧
    ∃ seen, seen <+: link.answers ∧ seen.length = 1 + link.exchanges.length ∧
      link.replies.taken = (framesBytes (seen.map Answer.payload)).length

/-- A consumer between two calls; once a call has failed, no later one gets anything done. -/
structure Synchronised (link : Link) : Prop where
  writing : link.replies.closed = true ∨ link.health .client = .failed ∨
    link.requests.written = framesBytes link.sent
  reading : link.replies.closed = true ∨ link.health .client ≠ .sound ∨ InStep control [] link

structure Unsent (link : Link) : Prop where
  sent : link.sent = []
  written : link.requests.written = []
  exchanges : link.exchanges = []
  closed : link.requests.closed = false
  taken : link.replies.taken = 0

def ClientRest (link : Link) : Prop :=
  match link.consumer with
  | none =>
    link.connected = true ∧ link.requests.closed = true ∨ link.connected = false ∧ Unsent link
  | some _ => link.connected = true ∧ Synchronised control link

structure Unserved (link : Link) : Prop where
  taken : link.requests.taken = 0
  answers : link.answers = []
  announced : link.announced = []
  written : link.replies.written = []
  closed : link.replies.closed = false

def controlRest : ControlTask → ControlState → Prop
  | .sender actor, state => (sending control.sender).rest actor state.sender ∧
      ∀ connection, actor = .handler connection →
        (state.links connection).accepted = false → Unserved (state.links connection)
  | .consumer connection, state => ClientRest control (state.links connection)
  | .network _, _ => True

structure Leaves (task : ControlTask) (before after : ControlState) : Prop where
  grows : Grows before.sender after.sender
  adopted : before.adopted ⊆ after.adopted
  client : ∀ connection, task = .consumer connection →
    ClientKeeps control (before.links connection) (after.links connection)
  server : ∀ connection, task = .sender (.handler connection) →
    ServerKeeps (before.links connection) (after.links connection)
  sender : ∀ actor, task = .sender actor →
    (sending control.sender).Later actor before.sender after.sender

end

section
variable {control : Control} {task other : ControlTask} {β : Type} {choice : ControlChoice}
  {before after : ControlState} {reply : β}

theorem Grows.refl (state : SenderState) : Grows state state := by
  constructor <;> simp

theorem ControlState.adopts_subset (state : ControlState) (op : LinkOp β) (reply : β) :
    state.adopted ⊆ state.adopts op reply := by
  unfold ControlState.adopts
  split
  · split
    · exact List.subset_cons_self _ _
    · exact List.Subset.refl _
  · exact List.Subset.refl _

theorem exec_sender {op : SenderOp β} {actor : SenderTask}
    (executed : before.exec choice (.sender actor) (.sender op) = some (reply, after)) :
    ∃ sender, before.sender.exec choice.toSenderChoice actor op = some (reply, sender) ∧
      after = { before with sender := sender } := by
  simp only [ControlState.exec] at executed
  split at executed
  · simp at executed
  · rename_i found sender done
    obtain ⟨rfl, rfl⟩ := Prod.mk.inj (Option.some.inj executed)
    exact ⟨sender, done, rfl⟩

theorem exec_link {op : LinkOp β} {connection : Nat}
    (executed : before.exec choice task (.link connection op) = some (reply, after)) :
    ∃ link, (before.links connection).exec choice before.sender.files op = some (reply, link) ∧
      after = { before with
        links := Function.update before.links connection link
        adopted := before.adopts op reply } := by
  simp only [ControlState.exec] at executed
  split at executed
  · simp at executed
  · rename_i found link done
    obtain ⟨rfl, rfl⟩ := Prod.mk.inj (Option.some.inj executed)
    exact ⟨link, done, rfl⟩

theorem ControlInv.exec {op : ControlOp β} (inv : ControlInv control before)
    (guarded : controlGuard control task op before)
    (executed : before.exec choice task op = some (reply, after)) : ControlInv control after := by
  cases op with
  | sender op =>
      obtain ⟨actor, rfl, guarded⟩ := guarded
      obtain ⟨sender, done, rfl⟩ := exec_sender executed
      exact ⟨(sending control.sender).preserved inv.sender guarded done,
        fun connection => (inv.links connection).grows (Grows.exec inv.sender done)⟩
  | link connection op =>
      obtain ⟨link, done, rfl⟩ := exec_link executed
      refine ⟨inv.sender, fun other => ?_⟩
      by_cases same : other = connection
      · subst same
        simp only [Function.update_self]
        exact (inv.links other).exec guarded.2 done
      · simp only [Function.update_of_ne same]
        exact inv.links other

theorem leaves_exec {op : ControlOp β} (different : other ≠ task) (inv : ControlInv control before)
    (guarded : controlGuard control other op before)
    (executed : before.exec choice other op = some (reply, after)) :
    Leaves control task before after := by
  cases op with
  | sender op =>
      obtain ⟨actor, rfl, guarded⟩ := guarded
      obtain ⟨sender, done, rfl⟩ := exec_sender executed
      refine ⟨Grows.exec inv.sender done, List.Subset.refl _, fun _ _ => .refl control _,
        fun _ _ => .refl _, ?_⟩
      rintro other rfl
      refine Relation.ReflTransGen.single ⟨inv.sender, actor, choice.toSenderChoice, β, op, reply,
        ?_, guarded, done⟩
      rintro rfl
      exact different rfl
  | link connection op =>
      obtain ⟨owner, guarded⟩ := guarded
      obtain ⟨link, done, rfl⟩ := exec_link executed
      refine ⟨Grows.refl _, before.adopts_subset op reply, ?_, ?_, fun _ _ => .refl⟩
      · rintro target rfl
        by_cases same : target = connection
        · subst same
          simp only [Function.update_self]
          exact Link.exec_clientKeeps owner different guarded done
        · simp only [Function.update_of_ne same]
          exact .refl control _
      · rintro target rfl
        by_cases same : target = connection
        · subst same
          simp only [Function.update_self]
          exact Link.exec_serverKeeps owner different done
        · simp only [Function.update_of_ne same]
          exact .refl _

theorem InStep.keeps {left : List SubscriptionRequest} {link link' : Link}
    (step : InStep control left link)
    (keeps : ClientKeeps control link link') : InStep control left link' := by
  obtain ⟨⟨front, asked, count⟩, seen, begun, length, taken⟩ := step
  rw [InStep, keeps.sent, keeps.exchanges, keeps.taken]
  exact ⟨⟨front, asked, count⟩, seen, begun.trans keeps.answers, length, taken⟩

theorem Synchronised.keeps {link link' : Link} (rest : Synchronised control link)
    (keeps : ClientKeeps control link link') : Synchronised control link' := by
  constructor
  · rcases rest.writing with closed | failed | whole
    · exact .inl (keeps.hungUp closed).1
    · exact .inr (.inl (keeps.failed failed))
    · exact .inr (.inr (by rw [keeps.written, keeps.sent, whole]))
  · rcases rest.reading with closed | ill | step
    · exact .inl (keeps.hungUp closed).1
    · exact .inr (.inl (keeps.ill _ ill))
    · exact .inr (.inr (step.keeps keeps))

theorem Unsent.keeps {link link' : Link} (unsent : Unsent link)
    (keeps : ClientKeeps control link link') : Unsent link' :=
  ⟨keeps.sent.trans unsent.sent, keeps.written.trans unsent.written,
    keeps.exchanges.trans unsent.exchanges,
    keeps.closed.trans unsent.closed, keeps.taken.trans unsent.taken⟩

theorem ClientRest.keeps {link link' : Link} (rest : ClientRest control link)
    (keeps : ClientKeeps control link link') : ClientRest control link' := by
  unfold ClientRest at rest ⊢
  rw [keeps.consumer]
  cases found : link.consumer with
  | some consumer =>
      rw [found] at rest
      exact ⟨keeps.connected.trans rest.1, rest.2.keeps keeps⟩
  | none =>
      rw [found] at rest
      rcases rest with ⟨connected, closed⟩ | ⟨unconnected, unsent⟩
      · exact .inl ⟨keeps.connected.trans connected, keeps.closed.trans closed⟩
      · exact .inr ⟨keeps.connected.trans unconnected, unsent.keeps keeps⟩

theorem Unserved.keeps {link link' : Link} (unserved : Unserved link)
    (keeps : ServerKeeps link link') : Unserved link' :=
  ⟨keeps.taken.trans unserved.taken, keeps.answers.trans unserved.answers,
    keeps.announced.trans unserved.announced,
    keeps.written.trans unserved.written, keeps.closed.trans unserved.closed⟩

theorem controlRest.leaves (rest : controlRest control task before)
    (leaves : Leaves control task before after) : controlRest control task after := by
  cases task with
  | sender actor =>
      refine ⟨stable_rest.later (leaves.sender actor rfl) rest.1, ?_⟩
      rintro connection rfl unaccepted
      have keeps := leaves.server connection rfl
      exact (rest.2 connection rfl (keeps.accepted ▸ unaccepted)).keeps keeps
  | consumer connection => exact ClientRest.keeps rest (leaves.client connection rfl)
  | network connection => trivial

end

def controlling (control : Control) (outsiders : Bool) :
    Discipline (controlSystem control outsiders) where
  inv := ControlInv control
  guard task _ op state := controlGuard control task op state
  rest := controlRest control
  preserved := ControlInv.exec
  rest_stable := fun different inv guarded executed rest =>
    rest.leaves (leaves_exec different inv guarded executed)

section
variable {control : Control} {outsiders : Bool} {task : ControlTask}

theorem controlling_stable {assertion : ControlState → Prop}
    (kept : ∀ before after, Leaves control task before after → assertion before → assertion after) :
    (controlling control outsiders).Stable task assertion := by
  rintro before after ⟨inv, other, choice, β, op, reply, different, guarded, executed⟩ holds
  exact kept before after (leaves_exec different inv guarded executed) holds

end

end Qlaster
