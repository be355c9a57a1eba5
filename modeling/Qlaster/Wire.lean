import Qlaster.Linking

/-!
Triples for the pieces that handlers and consumers are made of: calls of the sender, single
operations on a socket, and `read_framed` and `write_framed` of `wire.rs`.
-/

namespace Qlaster

open Interleaving Interleaving.Discipline LittleEndian PrefixCode

section
variable {control : Control} {outsiders : Bool} {task : ControlTask} {connection : Nat}

/-! Calls of the sender. -/

theorem sender_component (actor : SenderTask) {frame : ControlState → Prop}
    (stable : (controlling control outsiders).Stable (.sender actor) frame)
    (kept : ∀ state sender, Grows state.sender sender → frame state →
      frame { state with sender := sender }) :
    Component (sending control.sender) (controlling control outsiders) actor (.sender actor)
      (fun state => state.sender) (fun op => .sender op) (fun _ => True) frame where
  inv := fun inv _ => inv.sender
  stable := stable
  later := by
    rintro before after _ ⟨inv, other, choice, β, op, reply, different, guarded, executed⟩
    exact (leaves_exec different inv guarded executed).sender actor rfl
  guard := fun _ _ _ guarded => ⟨actor, rfl, guarded⟩
  exec := by
    intro choice β op state reply after _ inv holds _ executed
    obtain ⟨sender, done, rfl⟩ := exec_sender executed
    exact ⟨kept state sender (Grows.exec inv.sender done) holds, choice.toSenderChoice, done⟩

theorem onSender_triple {α : Type} {actor : SenderTask} {frame : ControlState → Prop}
    {pre : SenderState → Prop} {post : α → SenderState → Prop} {program : Program SenderOp α}
    (stable : (controlling control outsiders).Stable (.sender actor) frame)
    (kept : ∀ state sender, Grows state.sender sender → frame state →
      frame { state with sender := sender })
    (triple : (sending control.sender).Triple actor pre program post) :
    (controlling control outsiders).Triple (.sender actor)
    (fun state => frame state ∧ pre state.sender)
      (onSender program) fun value state => frame state ∧ post value state.sender :=
  Triple.lift (sender_component actor stable kept) program.only_true triple

/-! Operations on a socket. -/

def ControlState.setLink (state : ControlState) (connection : Nat) (link : Link) : ControlState :=
  { state with links := Function.update state.links connection link }

@[simp] theorem ControlState.setLink_links (state : ControlState) (connection : Nat) (link : Link) :
    (state.setLink connection link).links connection = link := by
  simp [setLink]

@[simp] theorem ControlState.setLink_sender (state : ControlState) (connection : Nat)
    (link : Link) : (state.setLink connection link).sender = state.sender := rfl

theorem link_triple {β : Type} {op : LinkOp β} {pre : ControlState → Prop}
    {post : β → ControlState → Prop}
    (owner : op.ownedBy task connection) (stable : (controlling control outsiders).Stable task pre)
    (postStable : ∀ reply, (controlling control outsiders).Stable task (post reply))
    (guarded : ∀ state, ControlInv control state → pre state →
      linkGuard control state.sender state.adopted (state.links connection) op)
    (effect : ∀ choice state reply link, ControlInv control state → pre state →
      (state.links connection).exec choice state.sender.files op = some (reply, link) →
      post reply { state.setLink connection link with adopted := state.adopts op reply }) :
    (controlling control outsiders).Triple task pre (onLink connection (.perform op)) post := by
  refine triple_perform stable postStable (fun state inv holds => ⟨owner, guarded state inv holds⟩)
    ?_
  intro choice state reply after inv holds executed
  have executed : state.exec choice task (.link connection op) = some (reply, after) := executed
  obtain ⟨link, done, rfl⟩ := exec_link executed
  exact effect choice state reply link inv holds done

/-- What is known after a fallible call. -/
def Settled {α : Type} (good : α → ControlState → Prop) (bad : ControlState → Prop) :
    Except QlasterError α → ControlState → Prop
  | .ok value => good value
  | .error _ => bad

theorem settled_stable {α : Type} {good : α → ControlState → Prop} {bad : ControlState → Prop}
    (goodStable : ∀ value, (controlling control outsiders).Stable task (good value))
    (badStable : (controlling control outsiders).Stable task bad) (result : Except QlasterError α) :
    (controlling control outsiders).Stable task (Settled good bad result) := by
  cases result with
  | ok value => exact goodStable value
  | error error => exact badStable

theorem onLink_bind {α β : Type} (program : Program LinkOp α) (rest : α → Program LinkOp β) :
    onLink connection (program.bind rest) =
      (onLink connection program).bind fun value => onLink connection (rest value) :=
  Program.lift_bind _ program rest

theorem onLink_along {α : Type} {program : Program LinkOp α} {pre : ControlState → Prop}
    {post : α → ControlState → Prop} {known : SenderState → Prop}
    (triple : (controlling control outsiders).Triple task pre (onLink connection program) post)
    (stable : (controlling control outsiders).Stable task fun state => known state.sender) :
    (controlling control outsiders).Triple task (fun state => pre state ∧ known state.sender)
      (onLink connection program) fun value state => post value state ∧ known state.sender := by
  have only : (onLink connection program).Only fun op => ∃ inner, op = .link connection inner :=
    Program.lift_only (fun op => ⟨op, rfl⟩) program
  refine triple.along only stable ?_
  rintro choice β _ state reply after ⟨op, rfl⟩ inv guarded executed holds
  have executed : state.exec choice task (.link connection op) = some (reply, after) := executed
  obtain ⟨link, -, rfl⟩ := exec_link executed
  exact holds

theorem attempt_triple {α β : Type} {pre bad : ControlState → Prop} {mid : α → ControlState → Prop}
    {post : Except QlasterError β → ControlState → Prop}
    {first : Program LinkOp (Except QlasterError α)}
    {rest : α → Program LinkOp (Except QlasterError β)}
    (stable : ∀ error, (controlling control outsiders).Stable task (post (.error error)))
    (begins : (controlling control outsiders).Triple task pre (onLink connection first)
      (Settled mid bad))
    (failed : ∀ error state, ControlInv control state → bad state → post (.error error) state)
    (continues : ∀ value, (controlling control outsiders).Triple task (mid value)
      (onLink connection (rest value)) post) :
    (controlling control outsiders).Triple task pre (onLink connection (attempt first rest))
      post := by
  rw [attempt, onLink_bind]
  refine triple_bind begins fun result => ?_
  cases result with
  | ok value => exact continues value
  | error error => exact triple_done (stable error) (failed error)

theorem call_triple {ε α : Type} {op : LinkOp (Except ε α)} {convert : ε → QlasterError}
    {pre bad : ControlState → Prop} {good : α → ControlState → Prop}
    (owner : op.ownedBy task connection) (stable : (controlling control outsiders).Stable task pre)
    (goodStable : ∀ value, (controlling control outsiders).Stable task (good value))
    (badStable : (controlling control outsiders).Stable task bad)
    (guarded : ∀ state, ControlInv control state → pre state →
      linkGuard control state.sender state.adopted (state.links connection) op)
    (succeeds : ∀ choice state value link, ControlInv control state → pre state →
      (state.links connection).exec choice state.sender.files op = some (.ok value, link) →
      good value { state.setLink connection link with adopted := state.adopts op (.ok value) })
    (fails : ∀ choice state error link, ControlInv control state → pre state →
      (state.links connection).exec choice state.sender.files op = some (.error error, link) →
      bad { state.setLink connection link with adopted := state.adopts op (.error error) }) :
    (controlling control outsiders).Triple task pre (onLink connection (call op convert))
    (Settled good bad) := by
  have performed : (controlling control outsiders).Triple task pre (onLink connection (.perform op))
      fun reply => Settled good bad (reply.mapError convert) := by
    refine link_triple owner stable (fun reply => settled_stable goodStable badStable _) guarded ?_
    intro choice state reply link inv holds executed
    cases reply with
    | ok value => exact succeeds choice state value link inv holds executed
    | error error => exact fails choice state error link inv holds executed
  rw [call, onLink_bind]
  exact triple_bind performed fun reply => triple_done (settled_stable goodStable badStable _)
    fun _ _ holds => holds

theorem settle_triple {α : Type} (outcome : Outcome α) {pre : ControlState → Prop}
    (stable : (controlling control outsiders).Stable task pre) :
    (controlling control outsiders).Triple task pre (onLink connection (settle outcome))
      (Settled (fun value state => pre state ∧ outcome = .ok value)
        fun state => pre state ∧ ∃ error, outcome = .error (.error error)) := by
  match outcome with
  | .ok value => exact triple_done (stable.and (Stable.const _)) fun _ _ holds => ⟨holds, rfl⟩
  | .error (.error error) =>
      exact triple_done (stable.and (Stable.const _)) fun _ _ holds => ⟨holds, error, rfl⟩
  | .error .panic =>
      have stuck :
        (controlling control outsiders).Triple task pre (onLink connection (.perform .panicked))
          fun _ _ => True := by
        refine link_triple trivial stable (fun _ => Stable.const _) (fun _ _ _ => trivial) ?_
        intro choice state reply link inv holds executed
        trivial
      rw [settle, onLink_bind]
      exact triple_bind stuck fun reply => reply.elim

/-! `read_framed`. -/

def Side.actor (connection : Nat) : Side → ControlTask
  | .client => .consumer connection
  | .server => .sender (.handler connection)

/-- Between two frames. -/
structure AtFrame (side : Side) (seen : List Bytes) (link : Link) : Prop where
  begun : seen <+: link.frames side
  taken : (link.incoming side).taken = (framesBytes seen).length

structure AtPayload (side : Side) (seen : List Bytes) (payload : Bytes) (link : Link) : Prop where
  begun : seen ++ [payload] <+: link.frames side
  taken : (link.incoming side).taken = (framesBytes seen).length + 4

def Broken (side : Side) (link : Link) : Prop :=
  (link.incoming side).closed = true ∨ link.health side ≠ .sound ∨
    ∃ payload ∈ link.frames side, maxFrameSize < payload.length

theorem LinkInv.carries {state : SenderState} {link : Link} (inv : LinkInv control state link)
    (side : Side) : Carries (link.incoming side) (link.frames side) := by
  cases side with
  | client => exact inv.replies
  | server => exact inv.requests

theorem LinkInv.small {state : SenderState} {link : Link} (inv : LinkInv control state link)
    {side : Side}
    {payload : Bytes} (member : payload ∈ link.frames side) : payload.length < 2 ^ 32 := by
  cases side with
  | server => exact inv.sized payload member
  | client =>
      obtain ⟨answer, answered, rfl⟩ := List.mem_map.mp member
      have fits := (inv.answered answer answered).fits
      simp only [maxFrameSize] at fits
      omega

theorem Leaves.incoming {side : Side} {before after : ControlState}
    (leaves : Leaves control (side.actor connection) before after) :
    ((after.links connection).incoming side).taken =
      ((before.links connection).incoming side).taken ∧
      (before.links connection).frames side <+: (after.links connection).frames side := by
  cases side with
  | client =>
      have keeps := leaves.client connection rfl
      exact ⟨keeps.taken, keeps.answers.map _⟩
  | server =>
      have keeps := leaves.server connection rfl
      exact ⟨keeps.taken, keeps.sent⟩

theorem atFrame_stable (side : Side) (seen : List Bytes) :
    (controlling control outsiders).Stable (side.actor connection)
      fun state => AtFrame side seen (state.links connection) := by
  refine controlling_stable fun before after leaves holds => ?_
  exact ⟨holds.begun.trans leaves.incoming.2, leaves.incoming.1.trans holds.taken⟩

theorem atPayload_stable (side : Side) (seen : List Bytes) (payload : Bytes) :
    (controlling control outsiders).Stable (side.actor connection)
      fun state => AtPayload side seen payload (state.links connection) := by
  refine controlling_stable fun before after leaves holds => ?_
  exact ⟨holds.begun.trans leaves.incoming.2, leaves.incoming.1.trans holds.taken⟩

theorem broken_stable (side : Side) :
    (controlling control outsiders).Stable (side.actor connection)
      fun state => Broken side (state.links connection) := by
  refine controlling_stable fun before after leaves holds => ?_
  rcases holds with closed | ill | ⟨payload, member, large⟩
  · refine .inl ?_
    cases side with
    | client => exact ((leaves.client connection rfl).hungUp closed).1
    | server => exact (leaves.server connection rfl).dropped closed
  · refine .inr (.inl ?_)
    cases side with
    | client => exact (leaves.client connection rfl).ill _ ill
    | server => exact (leaves.server connection rfl).ill ill
  · exact .inr (.inr ⟨payload, leaves.incoming.2.subset member, large⟩)

theorem Link.exec_readExact {link after : Link} {side : Side} {count : Nat} {choice : ControlChoice}
    {files : List Path} {reply : Except IoErrorKind Bytes}
    (executed : link.exec choice files (.readExact side count) = some (reply, after)) :
    (reply = .ok ((link.incoming side).unread.take count) ∧
      count ≤ (link.incoming side).unread.length ∧
        after = link.take side count) ∨
      ((∃ kind, reply = .error kind) ∧
        ((link.incoming side).closed = true ∨ link.health side ≠ .sound) ∧ after = link) := by
  simp only [Link.exec] at executed
  repeat' split at executed
  all_goals simp only [reduceCtorEq, Option.some.injEq, Prod.mk.injEq] at executed
  all_goals obtain ⟨rfl, rfl⟩ := executed
  · rename_i ill
    exact .inr ⟨⟨_, rfl⟩, .inr ill, rfl⟩
  · rename_i enough
    exact .inl ⟨rfl, enough, rfl⟩
  · rename_i closed
    exact .inr ⟨⟨_, rfl⟩, .inl closed, rfl⟩

theorem take_frames (link : Link) (side : Side) (count : Nat) :
    (link.take side count).frames side = link.frames side ∧
      ((link.take side count).incoming side).taken = (link.incoming side).taken + count := by
  cases side <;> exact ⟨rfl, rfl⟩

theorem readExact_triple (side : Side) (count : Nat) {pre kept : ControlState → Prop}
    {good : Bytes → ControlState → Prop}
    (stable : (controlling control outsiders).Stable (side.actor connection) pre)
    (goodStable : ∀ bytes, (controlling control outsiders).Stable (side.actor connection)
      (good bytes))
    (keptStable : (controlling control outsiders).Stable (side.actor connection) kept)
    (knows : ∀ state, pre state → kept state)
    (reads : ∀ state, ControlInv control state → pre state →
      count ≤ ((state.links connection).incoming side).unread.length →
      good (((state.links connection).incoming side).unread.take count)
        (state.setLink connection ((state.links connection).take side count))) :
    (controlling control outsiders).Triple (side.actor connection) pre
      (onLink connection (call (.readExact side count) .io))
      (Settled good fun state => Broken side (state.links connection) ∧ kept state) := by
  have owned : (LinkOp.readExact side count).ownedBy (side.actor connection) connection := by
    cases side <;> rfl
  refine call_triple owned stable goodStable ((broken_stable side).and keptStable)
    (fun _ _ _ => trivial) ?_ ?_
  · intro choice state bytes link inv holds executed
    rcases Link.exec_readExact executed with ⟨same, enough, rfl⟩ | ⟨⟨kind, impossible⟩, -, -⟩
    · obtain rfl := Except.ok.inj same
      exact reads state inv holds enough
    · simp at impossible
  · intro choice state error link inv holds executed
    rcases Link.exec_readExact executed with ⟨impossible, -, -⟩ | ⟨-, why, rfl⟩
    · simp at impossible
    · refine ⟨?_, ?_⟩
      · simp only [ControlState.setLink_links]
        exact why.elim .inl fun ill => .inr (.inl ill)
      · simpa [ControlState.setLink, ControlState.adopts] using knows state holds

theorem readFramed_triple (side : Side) (seen : List Bytes) {kept : ControlState → Prop}
    (stable : (controlling control outsiders).Stable (side.actor connection) kept)
    (takes : ∀ state count, kept state →
      kept (state.setLink connection ((state.links connection).take side count))) :
    (controlling control outsiders).Triple (side.actor connection)
      (fun state => AtFrame side seen (state.links connection) ∧ kept state)
      (onLink connection (readFramed side))
      (Settled (fun payload state => (AtFrame side (seen ++ [payload]) (state.links connection) ∧
          payload.length ≤ maxFrameSize) ∧ kept state)
        fun state => Broken side (state.links connection) ∧ kept state) := by
  have header : (controlling control outsiders).Triple (side.actor connection)
      (fun state => AtFrame side seen (state.links connection) ∧ kept state)
      (onLink connection (call (.readExact side 4) .io))
      (Settled (fun len state => ∃ payload,
        (AtPayload side seen payload (state.links connection) ∧ kept state) ∧
          len = frameHeader payload ∧ payload.length < 2 ^ 32)
        fun state => Broken side (state.links connection) ∧ kept state) := by
    refine readExact_triple side 4 ((atFrame_stable side seen).and stable)
      (fun len => Stable.exists fun payload =>
      ((atPayload_stable side seen payload).and stable).and (Stable.const _)) stable
        (fun _ holds => holds.2) ?_
    rintro state inv ⟨here, holds⟩ enough
    rw [Pipe.unread, here.taken] at enough ⊢
    obtain ⟨payload, begun, read⟩ := header_read ((inv.links connection).carries side).framed
      here.begun enough
    obtain ⟨frames, taken⟩ := take_frames (state.links connection) side 4
    refine ⟨payload, ⟨⟨?_, ?_⟩, takes state 4 holds⟩, read, ?_⟩
    · simpa [frames] using begun
    · simp [taken, here.taken]
    · exact (inv.links connection).small (begun.subset (by simp))
  have broken : (controlling control outsiders).Stable (side.actor connection)
      fun state => Broken side (state.links connection) ∧ kept state :=
        (broken_stable side).and stable
  refine attempt_triple (fun _ => broken) header (fun _ _ _ holds => holds) fun len => ?_
  refine triple_exists fun payload => triple_fact fun same => ?_
  obtain ⟨rfl, small⟩ := same
  simp only [frameHeader_size small]
  split
  · rename_i large
    refine triple_done broken ?_
    rintro state inv ⟨here, holds⟩
    exact ⟨.inr (.inr ⟨payload, here.begun.subset (by simp), large⟩), holds⟩
  · rename_i fits
    refine readExact_triple side payload.length ((atPayload_stable side seen payload).and stable)
      (fun read => ((atFrame_stable side _).and (Stable.const _)).and stable) stable
        (fun _ holds => holds.2) ?_
    rintro state inv ⟨here, holds⟩ enough
    rw [Pipe.unread, here.taken] at enough ⊢
    rw [payload_read ((inv.links connection).carries side).framed here.begun enough]
    obtain ⟨frames, taken⟩ := take_frames (state.links connection) side payload.length
    refine ⟨⟨⟨?_, ?_⟩, by omega⟩, takes state payload.length holds⟩
    · simpa [frames] using here.begun
    · simp [taken, here.taken]
      omega

/-! Writing. -/

theorem Link.exec_writeAll {link after : Link} {side : Side} {bytes : Bytes}
    {choice : ControlChoice} {files : List Path} {reply : Except IoErrorKind Unit}
    (executed : link.exec choice files (.writeAll side bytes) = some (reply, after)) :
    (reply = .ok () ∧ link.health side = .sound ∧ (link.incoming side).closed = false ∧
      after = link.put side bytes) ∨ ((∃ kind, reply = .error kind) ∧
        ((link.incoming side).closed = true ∧ after = link ∨
          link.health side ≠ .sound ∧ after = link.spoil side bytes choice.written)) := by
  simp only [Link.exec] at executed
  repeat' split at executed
  all_goals
    simp only [Option.some.injEq, Prod.mk.injEq] at executed
    obtain ⟨rfl, rfl⟩ := executed
  · rename_i closed
    exact .inr ⟨⟨_, rfl⟩, .inl ⟨closed, rfl⟩⟩
  · rename_i ill
    exact .inr ⟨⟨_, rfl⟩, .inr ⟨ill, rfl⟩⟩
  · rename_i opened sound
    exact .inl ⟨rfl, by simpa using sound, by simpa using opened, rfl⟩

theorem writeAll_triple (side : Side) {bytes : Bytes} {pre good bad : ControlState → Prop}
    (stable : (controlling control outsiders).Stable (side.actor connection) pre)
    (goodStable : (controlling control outsiders).Stable (side.actor connection) good)
    (badStable : (controlling control outsiders).Stable (side.actor connection) bad)
    (next : ∀ state, ControlInv control state → pre state →
      linkGuard control state.sender state.adopted (state.links connection) (.writeAll side bytes))
    (wrote : ∀ state, ControlInv control state → pre state →
      (state.links connection).health side = .sound →
      ((state.links connection).incoming side).closed = false →
      good (state.setLink connection ((state.links connection).put side bytes)))
    (hung : ∀ state, ControlInv control state → pre state →
      ((state.links connection).incoming side).closed = true → bad state)
    (ails : ∀ state count, ControlInv control state → pre state →
      (state.links connection).health side ≠ .sound →
      bad (state.setLink connection ((state.links connection).spoil side bytes count))) :
    (controlling control outsiders).Triple (side.actor connection) pre
      (onLink connection (call (.writeAll side bytes) .io)) (Settled (fun _ => good) bad) := by
  have owned : (LinkOp.writeAll side bytes).ownedBy (side.actor connection) connection := by
    cases side <;> rfl
  refine call_triple owned stable (fun _ => goodStable) badStable next ?_ ?_
  · intro choice state _ link inv holds executed
    rcases Link.exec_writeAll executed with ⟨-, sound, opened, rfl⟩ | ⟨⟨kind, impossible⟩, -⟩
    · exact wrote state inv holds sound opened
    · simp at impossible
  · intro choice state error link inv holds executed
    rcases Link.exec_writeAll executed with ⟨impossible, -⟩ | ⟨-, ⟨closed, rfl⟩ | ⟨ill, rfl⟩⟩
    · simp at impossible
    · have hung := hung state inv holds closed
      simpa [ControlState.setLink, ControlState.adopts] using hung
    · exact ails state choice.written inv holds ill

@[simp] theorem Link.spoil_accepted (link : Link) (side : Side) (bytes : Bytes) (count : Nat) :
    (link.spoil side bytes count).accepted = link.accepted := by
  unfold Link.spoil
  split
  · cases side <;> rfl
  · rfl

@[simp] theorem Link.spoil_connected (link : Link) (side : Side) (bytes : Bytes) (count : Nat) :
    (link.spoil side bytes count).connected = link.connected := by
  unfold Link.spoil
  split
  · cases side <;> rfl
  · rfl

@[simp] theorem Link.spoil_consumer (link : Link) (side : Side) (bytes : Bytes) (count : Nat) :
    (link.spoil side bytes count).consumer = link.consumer := by
  unfold Link.spoil
  split
  · cases side <;> rfl
  · rfl

theorem spoil_failed {link : Link} {side : Side} {bytes : Bytes} {count : Nat}
    (ill : link.health side ≠ .sound) : (link.spoil side bytes count).health side = .failed := by
  unfold Link.spoil
  split
  · simp [Link.ail]
  · rename_i other
    cases health : link.health side with
    | sound => exact absurd health ill
    | failing => exact absurd health other
    | failed => rfl

end

end Qlaster
