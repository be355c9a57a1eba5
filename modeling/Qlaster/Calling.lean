import Qlaster.Dispatching
import Qlaster.Upserting

/-!
Every call of the sender and of its consumers keeps to the discipline, so what the
guards say holds in every run.
-/

namespace Qlaster

open Interleaving Interleaving.Discipline

/-! The reader of a ring. -/

def Consumes : {β : Type} → ChannelOp β → Prop
  | _, .tryWriteSlice _ => False
  | _, .writeEventfd => False
  | _, .unlink => False
  | _, _ => True

theorem Pops.consumes {β : Type} (op : ChannelOp β) (pops : Pops op) : Consumes op := by
  cases op <;> first | exact pops.elim | trivial

theorem drainRing_consumes (codecs : Codecs) : (drainRing codecs).Only Consumes := by
  have handle : ∀ bytes, (handleFrame codecs bytes).Only Consumes := by
    intro bytes
    unfold handleFrame
    split <;> exact Program.Only.perform (by trivial)
  refine Program.Only.iterate fun _ => (tryPop_pops.mono Pops.consumes).bind fun popped => ?_
  cases popped with
  | none => trivial
  | some bytes => exact (handle bytes).bind fun _ => trivial

theorem isClosed_consumes : isClosed.Only Consumes := by
  refine (Program.Only.perform (by trivial)).bind fun closed => ?_
  cases closed with
  | true => trivial
  | false => exact (Program.Only.perform (by trivial)).bind fun _ => trivial

theorem wait_consumes : wait.Only Consumes := by
  have drains : drain.Only Consumes := by
    refine Program.Only.iterate fun _ => (Program.Only.perform (by trivial)).bind fun reply => ?_
    cases reply <;> trivial
  have clear : ∀ tick, ((Program.perform (ChannelOp.clearReady tick)).bind fun _ =>
      Program.done (Sum.inl () : Sum Unit (Except IoErrorKind Nat))).Only Consumes :=
    fun tick => (Program.Only.perform (by trivial)).bind fun _ => trivial
  refine Program.Only.iterate fun _ => (Program.Only.perform (by trivial)).bind fun ready => ?_
  cases ready with
  | error kind => trivial
  | ok tick =>
      refine drains.bind fun drained => ?_
      split
      · exact clear tick
      · trivial
      · exact clear tick
      · trivial

theorem runReader_consumes (codecs : Codecs) : (runReader codecs).Only Consumes := by
  refine (Program.Only.perform (by trivial)).bind fun registered => ?_
  cases registered with
  | error kind =>
      exact (Program.Only.perform (by trivial)).bind fun _ => Program.Only.perform (by trivial)
  | ok _ =>
      refine Program.Only.iterate fun _ => (drainRing_consumes codecs).bind fun _ =>
        isClosed_consumes.bind fun closed => ?_
      cases closed with
      | true => exact (Program.Only.perform (by trivial)).bind fun _ => trivial
      | false =>
          refine wait_consumes.bind fun waited => ?_
          cases waited with
          | ok count => trivial
          | error kind =>
              exact (Program.Only.perform (by trivial)).bind fun _ =>
                (Program.Only.perform (by trivial)).bind fun _ => trivial

section
variable {sender : Sender} {task : SenderTask}

theorem Owns.rest {fresh : Option Nat} {current : Option (Update × List Nat)} {state : SenderState}
    (owns : Owns task ⟨none, fresh, [], current⟩ {} state)
    (reads : ∀ address, task = .reader address →
      Between (decodeUpdate sender.codecs) (state.channels address)) :
    (sending sender).rest task state :=
  ⟨⟨fresh, current, owns⟩, fun address => ⟨reads address, owns.paid address (by simp)⟩⟩

theorem openRing_triple (ring : Nat) :
    (sending sender).Triple (.reader ring) ((sending sender).rest (.reader ring))
    (ask (.openRing ring))
      fun opened state => (sending sender).rest (.reader ring) state ∧
        (opened = true → ring ∈ state.opened) := by
  refine ask_triple stable_rest (fun opened => ?_) (fun _ _ _ => rfl) ?_
  · exact Stable.and stable_rest
      (sending_stable fun _ _ _ grows member yes => grows.opened (member yes))
  · rintro choice state opened after - ⟨⟨fresh, current, owns⟩, rings⟩ executed
    have reads : ∀ address, SenderTask.reader ring = .reader address →
        Between (decodeUpdate sender.codecs) (state.channels address) := fun address =>
          (rings address).1
    simp only [SenderState.execManager] at executed
    repeat' split at executed
    all_goals simp only [reduceCtorEq, Option.some.injEq, Prod.mk.injEq] at executed
    all_goals obtain ⟨rfl, rfl⟩ := executed
    · have owns' : Owns (.reader ring) ⟨none, fresh, [], current⟩ {}
          { state with opened := ring :: state.opened } :=
        ⟨owns.claim, owns.fresh, owns.held, owns.current, owns.creating, owns.dying, owns.paid⟩
      exact ⟨owns'.rest reads, fun _ => List.mem_cons_self ..⟩
    · exact ⟨owns.rest reads, by simp⟩

theorem read_triple (own : Belongings) (ring : Nat) :
    (sending sender).Triple (.reader ring)
      (fun state => (Owns (.reader ring) own {} state ∧ ring ∈ state.opened) ∧
        Between (decodeUpdate sender.codecs) (state.channels ring) ∧
        SenderTask.reader ring ∉ (state.channels ring).owing)
      (onRing ring (runReader sender.codecs)) fun _ state =>
        (Owns (.reader ring) own {} state ∧ ring ∈ state.opened) ∧
        Between (decodeUpdate sender.codecs) (state.channels ring) ∧
        SenderTask.reader ring ∉ (state.channels ring).owing := by
  have component : Component (ringDiscipline sender.codecs ring) (sending sender) (.reader ring)
    (.reader ring)
      (fun state => state.channels ring) (fun op => .channel ring op) Consumes
      (fun state => Owns (.reader ring) own {} state ∧ ring ∈ state.opened) := by
    refine ring_component own {} ring And.left ?_ ?_ ?_ ?_ ?_
    · exact Stable.and (owns_stable own {})
        (sending_stable fun _ _ _ grows member => grows.opened member)
    · intro state inv holds
      obtain ⟨entry, member, rfl⟩ := inv.described.handed ring (inv.described.consumed ring holds.2)
      exact inv.owned.numbered entry member
    · intro β op state consumes holds
      cases op <;> first | exact consumes.elim | exact holds.2 | trivial
    · intro choice β op before reply after _ inv holds owns executed
      obtain ⟨-, choice', channel, -, rfl⟩ := SenderState.execChannel_exec inv executed
      exact ⟨owns, holds.2⟩
    · intro β op consumes isWrite
      cases op <;> first | exact consumes.elim | exact isWrite.elim
  have reads :
      (ringDiscipline sender.codecs ring).Triple (.reader ring) _ (runReader sender.codecs) _ :=
    runReader_triple.both (runReader_wakes sender.codecs)
  exact Triple.lift component (runReader_consumes sender.codecs) reads

theorem consume_triple (ring : Nat) :
    (sending sender).Triple (.reader ring) ((sending sender).rest (.reader ring))
      (senderProgram sender (.consume ring)) fun _ => (sending sender).rest (.reader ring) := by
  refine triple_bind (openRing_triple ring) fun opened => ?_
  cases opened with
  | false => exact triple_done stable_rest fun _ _ holds => holds.1
  | true =>
      refine triple_weaken (triple_exists fun fresh => triple_exists fun current =>
        triple_weaken (read_triple ⟨none, fresh, [], current⟩ ring) (fun _ _ holds => holds)
        fun _ state _ holds => ?_) ?_ fun _ _ _ holds => holds
      · refine holds.1.1.rest fun address same => ?_
        obtain rfl := SenderTask.reader.inj same
        exact holds.2.1
      · rintro state - ⟨⟨⟨fresh, current, owns⟩, rings⟩, opened⟩
        exact ⟨fresh, current, ⟨owns, opened rfl⟩, (rings ring).1 rfl, (rings ring).2⟩

theorem observe_triple {β : Type} (op : ChannelOp β) (ring : Nat)
    (notReader : ∀ address, task ≠ .reader address)
    (framed : ∀ channel, framingGuard (.reader ring) ringAllows
      (decodeUpdate sender.codecs) .reading task op channel)
    (waits : ∀ channel, waitGuard (.reader ring) task op channel)
    (produces : ∀ state, producerGuard sender task ring op state) (notWrite : ¬ IsWrite op) :
    (sending sender).Triple task ((sending sender).rest task) (.perform (.channel ring op))
      fun _ => (sending sender).rest task := by
  refine triple_weaken (triple_exists fun fresh => triple_exists fun current => triple_weaken
    (ringStep_triple sender task ⟨none, fresh, [], current⟩ ring op framed waits produces notWrite)
    (fun _ _ holds => holds) ?_) (fun _ _ rest => rest.1) fun _ _ _ rest => rest
  exact fun _ _ _ owns => owns.rest fun address same => absurd same (notReader address)

theorem ping_triple {connection : Nat} (own : Belongings) (ping : PingRequest) :
    (sending sender).Triple (.handler connection) (Owns (.handler connection) own {})
      (senderProgram sender (.ping ping)) fun _ => Owns (.handler connection) own {} :=
  triple_bind (touchPing_triple (handler_sends connection) own ping) fun _ =>
    triple_done (owns_stable own {}) fun _ _ owns => owns

theorem senderCall_triple (task : SenderTask)
    (call : SenderCall) (may : senderMayStart task call = true) :
    (sending sender).Triple task ((sending sender).rest task) (senderProgram sender call)
      fun _ => (sending sender).rest task := by
  match task, call, may with
  | .dispatcher kind, .dispatch update, may =>
      obtain rfl : update.kind = kind := of_decide_eq_true may
      refine triple_weaken (triple_exists fun fresh => triple_exists fun current =>
        triple_weaken (dispatch_triple update ⟨none, fresh, [], current⟩)
        (fun _ _ holds => holds) ?_) (fun _ _ rest => rest.1) fun _ _ _ rest => rest
      rintro _ state - ⟨pushed, owns⟩
      exact Owns.rest owns (by simp)
  | .handler connection, .subscribe request, _ =>
      refine triple_weaken (triple_exists fun fresh => triple_exists fun current =>
        triple_weaken (subscribe_triple rfl request) (fun _ _ holds => holds) ?_)
        (fun _ _ rest => rest.1) fun _ _ _ rest => rest
      rintro _ state - ⟨fresh', owns⟩
      exact Owns.rest owns (by simp)
  | .handler connection, .ping ping, _ =>
      refine triple_weaken (triple_exists fun fresh => triple_exists fun current =>
        triple_weaken (ping_triple ⟨none, fresh, [], current⟩ ping) (fun _ _ holds => holds) ?_)
        (fun _ _ rest => rest.1) fun _ _ _ rest => rest
      exact fun _ _ _ owns => owns.rest (by simp)
  | .reader ring, .consume ring', may =>
      obtain rfl : ring = ring' := of_decide_eq_true may
      exact consume_triple ring
  | .client ring, .tryNext ring' kind, _ =>
      refine triple_bind (observe_triple (.pop kind) ring' (by simp) (fun _ => trivial)
        (fun _ => trivial) (fun _ => trivial) id) fun _ => ?_
      exact triple_done stable_rest fun _ _ rest => rest
  | .runtime ring, .poll ring', _ =>
      exact observe_triple .pollEvents ring' (by simp) (fun _ => trivial) (fun _ => trivial)
        (fun _ => trivial) id

theorem senderInv_created (sender : Sender) (files : List Path) :
    SenderInv sender (SenderState.created files) := by
  refine ⟨⟨?_, ?_, ?_, ?_, ?_⟩, ⟨?_, ?_, ?_, ?_, ?_, ?_, ?_⟩, ⟨?_, ?_, ?_, ?_⟩,
    ⟨?_, ?_, ?_, ?_, ?_⟩, ⟨fun address => ringDiscipline_created sender.codecs address 0, ?_⟩⟩ <;>
    simp [SenderState.created, Channel.created, Exclusive]

theorem sender_sound (sender : Sender) (files : List Path) :
    Sound (sending sender) (senderStart files) := by
  refine Sound.ofIdle (senderInv_created sender files) (fun _ => rfl) fun task => ?_
  have owns : Owns task ⟨none, none, [], none⟩ {} (SenderState.created files) := by
    refine ⟨rfl, rfl, rfl, ?_, rfl, rfl, ?_⟩
    · cases task <;> rfl
    · simp [SenderState.created, Channel.created]
  exact owns.rest fun address same =>
    (ringDiscipline_rest_created sender.codecs address 0 task).1 same

end

end Qlaster
