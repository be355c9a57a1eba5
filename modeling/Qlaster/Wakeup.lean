import Qlaster.Framing
import Qlaster.RoundTrip

/-!
Writers write and then notify; the reader finds the ring empty and then waits on
the counter. A reader that has found the ring empty is never left with an unread
item and nothing to wake it.
-/

namespace Qlaster

open Interleaving Interleaving.Discipline

section
variable {Task : Type}

/-- The reader's last pop found the ring empty, and no count was taken since. -/
def Channel.FoundEmpty (channel : Channel Task) : Prop :=
  channel.phase = .checking ∨ channel.phase = .waiting

structure Wakeful (channel : Channel Task) : Prop where
  wakes : channel.FoundEmpty → channel.queue ≠ [] → channel.counter ≠ 0 ∨ channel.owing ≠ []
  reported : channel.counter ≠ 0 → channel.ready = true ∨ channel.edge = true

def IsNotify : {β : Type} → ChannelOp β → Prop
  | _, .writeEventfd => True
  | _, _ => False

def IsWrite : {β : Type} → ChannelOp β → Prop
  | _, .tryWriteSlice _ => True
  | _, _ => False

/-- A guard obtained at `tick` may be cleared: whatever arrived since is still to be reported. -/
def Clearable (tick : Nat) (channel : Channel Task) : Prop :=
  tick ≤ channel.tick ∧ (tick = channel.tick → channel.counter ≠ 0 → channel.edge = true)

def waitGuard (reader task : Task) : {β : Type} → ChannelOp β → Channel Task → Prop
  | _, .clearReady tick, channel => task = reader ∧ Clearable tick channel
  | _, .registerEventfd, _ => task = reader
  | _, .readEventfd, _ => task = reader
  | _, _, _ => True

def wakeupGuard (reader task : Task) {β : Type} (op : ChannelOp β) (channel : Channel Task) :
    Prop :=
  (task ∈ channel.owing → IsNotify op) ∧ waitGuard reader task op channel

end

section
variable {Task : Type} [DecidableEq Task]

theorem Wakeful.exec {reader : Task} {choice : ChannelChoice} {task : Task} {β : Type}
    {op : ChannelOp β} {before after : Channel Task} {reply : β} (wakeful : Wakeful before)
    (guarded : wakeupGuard reader task op before)
    (executed : before.exec choice task op = some (reply, after)) : Wakeful after := by
  cases op with
  | tryWriteSlice bytes =>
      simp only [Channel.exec] at executed
      split at executed <;> simp only [Option.some.injEq, Prod.mk.injEq] at executed <;>
        obtain ⟨-, rfl⟩ := executed
      · unfold Channel.markClose
        split
        all_goals exact ⟨fun _ _ => .inr (by simp [Channel.append]), wakeful.reported⟩
      · unfold Channel.markClose
        split
        all_goals exact ⟨wakeful.wakes, wakeful.reported⟩
  | reserveReadBatch len =>
      simp only [Channel.exec] at executed
      split at executed <;> simp only [Option.some.injEq, Prod.mk.injEq] at executed <;>
        obtain ⟨-, rfl⟩ := executed
      · rename_i empty
        exact ⟨fun _ nonempty => absurd empty nonempty, wakeful.reported⟩
      · exact ⟨by simp [Channel.FoundEmpty], wakeful.reported⟩
  | pathExists =>
      simp only [Channel.exec] at executed
      split at executed
      · simp only [Option.some.injEq, Prod.mk.injEq] at executed
        obtain ⟨-, rfl⟩ := executed
        refine ⟨fun found nonempty => wakeful.wakes ?_ nonempty, wakeful.reported⟩
        unfold Channel.FoundEmpty at found ⊢
        by_cases checking : before.phase = .checking
        · exact .inl checking
        · simpa [Channel.sawPath, checking] using found
      · split at executed
        · simp at executed
        · simp only [Option.some.injEq, Prod.mk.injEq] at executed
          obtain ⟨-, rfl⟩ := executed
          exact wakeful
  | writeEventfd =>
      simp only [Channel.exec] at executed
      split at executed
      · simp only [Option.some.injEq, Prod.mk.injEq] at executed
        obtain ⟨-, rfl⟩ := executed
        exact wakeful
      · split at executed <;> simp only [Option.some.injEq, Prod.mk.injEq] at executed <;>
          obtain ⟨-, rfl⟩ := executed
        · rename_i saturated
          -- A saturated counter is not zero, so the reader has its wakeup already.
          have nonzero : before.counter ≠ 0 := by
            unfold eventfdMax at saturated
            omega
          exact ⟨fun _ _ => .inl nonzero, wakeful.reported⟩
        · exact ⟨fun _ _ => .inl (by simp), fun _ => .inr rfl⟩
  | readEventfd =>
      simp only [Channel.exec] at executed
      repeat' split at executed
      all_goals simp only [Option.some.injEq, Prod.mk.injEq] at executed
      all_goals obtain ⟨-, rfl⟩ := executed
      · exact wakeful
      · exact wakeful
      · exact ⟨by simp [Channel.FoundEmpty], by simp⟩
  | registerEventfd =>
      simp only [Channel.exec] at executed
      split at executed <;> simp only [Option.some.injEq, Prod.mk.injEq] at executed <;>
        obtain ⟨-, rfl⟩ := executed
      · exact wakeful
      · exact ⟨wakeful.wakes, fun nonzero => .inr (by simpa using nonzero)⟩
  | clearReady tick =>
      obtain ⟨-, -, clearable⟩ := guarded
      simp only [Channel.exec] at executed
      split at executed <;> simp only [Option.some.injEq, Prod.mk.injEq] at executed <;>
        obtain ⟨-, rfl⟩ := executed
      · rename_i same
        exact ⟨wakeful.wakes, fun nonzero => .inr (clearable.2 same nonzero)⟩
      · exact wakeful
  | pollEvents =>
      simp only [Channel.exec] at executed
      split at executed <;> simp only [Option.some.injEq, Prod.mk.injEq] at executed <;>
        obtain ⟨-, rfl⟩ := executed
      · exact ⟨wakeful.wakes, fun _ => .inl rfl⟩
      · exact wakeful
  | note note =>
      simp only [Channel.exec, Option.some.injEq, Prod.mk.injEq] at executed
      obtain ⟨-, rfl⟩ := executed
      cases note with
      | pushReturned parts result =>
          simp only [Channel.record]
          split
          all_goals exact ⟨wakeful.wakes, wakeful.reported⟩
      | closeReturned => exact ⟨wakeful.wakes, wakeful.reported⟩
      | popReturned result => cases result <;> exact ⟨wakeful.wakes, wakeful.reported⟩
      | readerReturned closed =>
          exact ⟨by simp [Channel.FoundEmpty, Channel.record], wakeful.reported⟩
  | _ =>
      simp only [Channel.exec] at executed
      repeat' split at executed
      all_goals simp only [reduceCtorEq, Option.some.injEq, Prod.mk.injEq] at executed
      all_goals obtain ⟨-, rfl⟩ := executed
      all_goals exact ⟨wakeful.wakes, wakeful.reported⟩

theorem Channel.exec_owing {choice : ChannelChoice} {task owner : Task} {β : Type}
    {op : ChannelOp β} {before after : Channel Task} {reply : β}
    (executed : before.exec choice task op = some (reply, after)) (owes : owner ∈ after.owing) :
    owner ∈ before.owing ∨ owner = task ∧ IsWrite op := by
  -- Only a task's own write puts it in debt.
  cases op with
  | tryWriteSlice bytes =>
      have marked : (before.markClose bytes).owing = before.owing := by
        unfold Channel.markClose
        split <;> rfl
      simp only [Channel.exec] at executed
      split at executed <;> simp only [Option.some.injEq, Prod.mk.injEq] at executed <;>
        obtain ⟨-, rfl⟩ := executed
      · rcases List.mem_cons.mp owes with same | older
        · exact .inr ⟨same, trivial⟩
        · exact .inl (marked ▸ older)
      · exact .inl (marked ▸ owes)
  | note note =>
      simp only [Channel.exec, Option.some.injEq, Prod.mk.injEq] at executed
      obtain ⟨-, rfl⟩ := executed
      cases note with
      | pushReturned parts result =>
          simp only [Channel.record] at owes
          split at owes <;> exact .inl owes
      | popReturned result => cases result <;> exact .inl owes
      | _ => exact .inl owes
  | _ =>
      simp only [Channel.exec] at executed
      repeat' split at executed
      all_goals simp only [reduceCtorEq, Option.some.injEq, Prod.mk.injEq] at executed
      all_goals obtain ⟨-, rfl⟩ := executed
      all_goals first | exact .inl owes | exact .inl (List.mem_of_mem_filter owes)

section
variable {Call : Type} (program : Call → Program ChannelOp Unit) (mayStart : Task → Call → Bool)
  (reader : Task)

/-- A task that has written notifies before it does anything else. -/
def waking : Discipline (channelSystem program mayStart) where
  inv := Wakeful
  guard task _ op channel := wakeupGuard reader task op channel
  rest task channel := task ∉ channel.owing
  preserved := fun wakeful guarded executed => wakeful.exec guarded executed
  rest_stable := fun different _ _ executed rest owes =>
    (Channel.exec_owing executed owes).elim rest fun own => different own.1.symm

variable {program mayStart reader}

theorem owes_nothing_stable (task : Task) :
    (waking program mayStart reader).Stable task fun channel => task ∉ channel.owing :=
  stable_rest

theorem notify_wakes (task : Task) :
    (waking program mayStart reader).Triple task (fun _ => True) notify
      fun _ channel => task ∉ channel.owing := by
  have write : (waking program mayStart reader).Triple task (fun _ => True)
      (.perform .writeEventfd) fun reply channel =>
        match reply with
        | .interrupted => True
        | .failed _ => False
        | _ => task ∉ channel.owing := by
    refine triple_perform (Stable.const True) (fun reply => ?_) ?_ ?_
    · cases reply with
      | interrupted => exact Stable.const True
      | failed kind => exact Stable.const False
      | done value => exact owes_nothing_stable task
      | wouldBlock => exact owes_nothing_stable task
    · exact fun _ _ _ => ⟨fun _ => trivial, trivial⟩
    · intro choice channel reply after _ _ executed
      simp only [channelSystem, Channel.exec] at executed
      repeat' split at executed
      all_goals simp only [Option.some.injEq, Prod.mk.injEq] at executed
      all_goals obtain ⟨rfl, rfl⟩ := executed
      · trivial
      · simp
      · simp
  refine triple_loop (fun _ => owes_nothing_stable task) (triple_bind write fun reply => ?_)
  cases reply with
  | done value => exact triple_done (owes_nothing_stable task) fun _ _ paid => paid
  | wouldBlock => exact triple_done (owes_nothing_stable task) fun _ _ paid => paid
  | interrupted => exact triple_done (Stable.const True) fun _ _ _ => trivial
  | failed kind => exact triple_absurd fun _ _ never => never

def Neutral : {β : Type} → ChannelOp β → Prop
  | _, .tryWriteSlice _ => False
  | _, .clearReady _ => False
  | _, .registerEventfd => False
  | _, .readEventfd => False
  | _, _ => True

theorem Pops.neutral {β : Type} (op : ChannelOp β) (pops : Pops op) : Neutral op := by
  cases op with
  | reserveReadBatch len => trivial
  | storeClosed => trivial
  | trace event => trivial
  | _ => exact pops.elim

theorem neutral_wakes {task : Task} {α : Type} {body : Program ChannelOp α}
    (neutral : body.Only Neutral) :
    (waking program mayStart reader).Triple task (fun channel => task ∉ channel.owing) body
      fun _ channel => task ∉ channel.owing := by
  refine triple_only neutral (owes_nothing_stable task) ?_ ?_
  · intro β op channel permitted _ paid
    refine ⟨fun owes => absurd owes paid, ?_⟩
    cases op <;> first | exact permitted.elim | trivial
  · intro choice β op channel reply after permitted _ paid executed owes
    rcases Channel.exec_owing executed owes with before | ⟨-, isWrite⟩
    · exact paid before
    · cases op <;> first | exact permitted.elim | exact isWrite.elim

theorem reader_perform {β : Type} {op : ChannelOp β} {pre : Channel Task → Prop}
    {post : β → Channel Task → Prop} (notWrite : ¬ IsWrite op)
    (stable : (waking program mayStart reader).Stable reader pre)
    (postStable : ∀ reply, (waking program mayStart reader).Stable reader (post reply))
    (guarded : ∀ channel, pre channel → waitGuard reader reader op channel)
    (effect : ∀ choice channel reply after, pre channel →
      Channel.exec choice reader op channel = some (reply, after) → post reply after) :
    (waking program mayStart reader).Triple reader
      (fun channel => reader ∉ channel.owing ∧ pre channel) (.perform op)
      fun reply channel => reader ∉ channel.owing ∧ post reply channel := by
  refine triple_perform (Stable.and (owes_nothing_stable reader) stable)
    (fun reply => Stable.and (owes_nothing_stable reader) (postStable reply)) ?_ ?_
  · exact fun channel _ holds => ⟨fun owes => absurd owes holds.1, guarded channel holds.2⟩
  · intro choice channel reply after _ holds executed
    refine ⟨fun owes => ?_, effect choice channel reply after holds.2 executed⟩
    rcases Channel.exec_owing executed owes with before | ⟨-, isWrite⟩
    · exact holds.1 before
    · exact notWrite isWrite

theorem Channel.exec_reported {choice : ChannelChoice} {task : Task} {β : Type} {op : ChannelOp β}
    {before after : Channel Task} {reply : β} (different : task ≠ reader)
    (guarded : waitGuard reader task op before)
    (executed : before.exec choice task op = some (reply, after)) :
    before.tick < after.tick ∨ before.tick = after.tick ∧
      ((after.counter = before.counter ∧ after.edge = before.edge) ∨ after.edge = true) := by
  -- Other tasks only add to the counter, and what they add is still to be reported.
  cases op with
  | tryWriteSlice bytes =>
      simp only [Channel.exec] at executed
      split at executed <;> simp only [Option.some.injEq, Prod.mk.injEq] at executed <;>
        obtain ⟨-, rfl⟩ := executed
      all_goals
        unfold Channel.markClose
        split <;> exact .inr ⟨rfl, .inl ⟨rfl, rfl⟩⟩
  | clearReady tick => exact absurd guarded.1 different
  | registerEventfd => exact absurd guarded different
  | readEventfd => exact absurd guarded different
  | writeEventfd =>
      simp only [Channel.exec] at executed
      repeat' split at executed
      all_goals simp only [Option.some.injEq, Prod.mk.injEq] at executed
      all_goals obtain ⟨-, rfl⟩ := executed
      · exact .inr ⟨rfl, .inl ⟨rfl, rfl⟩⟩
      · exact .inr ⟨rfl, .inl ⟨rfl, rfl⟩⟩
      · exact .inr ⟨rfl, .inr rfl⟩
  | pollEvents =>
      simp only [Channel.exec] at executed
      split at executed <;> simp only [Option.some.injEq, Prod.mk.injEq] at executed <;>
        obtain ⟨-, rfl⟩ := executed
      · exact .inl (Nat.lt_succ_self _)
      · exact .inr ⟨rfl, .inl ⟨rfl, rfl⟩⟩
  | note note =>
      simp only [Channel.exec, Option.some.injEq, Prod.mk.injEq] at executed
      obtain ⟨-, rfl⟩ := executed
      cases note with
      | pushReturned parts result =>
          simp only [Channel.record]
          split
          all_goals exact .inr ⟨rfl, .inl ⟨rfl, rfl⟩⟩
      | popReturned result => cases result <;> exact .inr ⟨rfl, .inl ⟨rfl, rfl⟩⟩
      | _ => exact .inr ⟨rfl, .inl ⟨rfl, rfl⟩⟩
  | _ =>
      simp only [Channel.exec] at executed
      repeat' split at executed
      all_goals simp only [reduceCtorEq, Option.some.injEq, Prod.mk.injEq] at executed
      all_goals obtain ⟨-, rfl⟩ := executed
      all_goals exact .inr ⟨rfl, .inl ⟨rfl, rfl⟩⟩

theorem tick_stable (tick : Nat) :
    (waking program mayStart reader).Stable reader fun channel => tick ≤ channel.tick := by
  rintro before after ⟨-, other, choice, β, op, reply, different, guarded, executed⟩ reached
  rcases Channel.exec_reported different guarded.2 executed with later | ⟨same, -⟩ <;> omega

theorem clearable_stable (tick : Nat) :
    (waking program mayStart reader).Stable reader (Clearable tick) := by
  rintro before after ⟨-, other, choice, β, op, reply, different, guarded, executed⟩
    ⟨reached, clear⟩
  rcases Channel.exec_reported different guarded.2 executed with later | ⟨same, effect⟩
  · exact ⟨by omega, fun current => by omega⟩
  · refine ⟨by omega, fun current nonzero => ?_⟩
    rcases effect with ⟨counter, edge⟩ | edge
    · rw [edge]
      exact clear (by omega) (by rwa [counter] at nonzero)
    · exact edge

def DrainRead (tick : Nat) (reply : SyscallReply Nat) (channel : Channel Task) : Prop :=
  match reply with
  | .done count => count ≠ 0
  | .wouldBlock => Clearable tick channel
  | .interrupted => tick ≤ channel.tick
  | .failed _ => False

theorem drain_wakes (tick : Nat) :
    (waking program mayStart reader).Triple reader
      (fun channel => reader ∉ channel.owing ∧ tick ≤ channel.tick) drain
      fun drained channel => reader ∉ channel.owing ∧
        match drained with
        | .ok 0 => Clearable tick channel
        | .ok (_ + 1) => True
        | .error _ => False := by
  -- Draining leaves the guard clearable when it finds the counter empty.
  have postStable : ∀ drained : Except IoErrorKind Nat, (waking program mayStart reader).Stable
      reader fun channel => reader ∉ channel.owing ∧
        match drained with
        | .ok 0 => Clearable tick channel
        | .ok (_ + 1) => True
        | .error _ => False := by
    intro drained
    refine Stable.and (owes_nothing_stable reader) ?_
    match drained with
    | .ok 0 => exact clearable_stable tick
    | .ok (_ + 1) => exact Stable.const True
    | .error _ => exact Stable.const False
  have read : (waking program mayStart reader).Triple reader
      (fun channel => reader ∉ channel.owing ∧ tick ≤ channel.tick) (.perform .readEventfd)
      fun reply channel => reader ∉ channel.owing ∧ DrainRead tick reply channel := by
    refine reader_perform (by exact id) (tick_stable tick) ?_ (fun _ _ => rfl) ?_
    · intro reply
      cases reply with
      | done count => exact Stable.const _
      | wouldBlock => exact clearable_stable tick
      | interrupted => exact tick_stable tick
      | failed kind => exact Stable.const False
    · intro choice channel reply after reached executed
      simp only [Channel.exec] at executed
      repeat' split at executed
      all_goals simp only [Option.some.injEq, Prod.mk.injEq] at executed
      all_goals obtain ⟨rfl, rfl⟩ := executed
      · exact reached
      · rename_i zero
        exact ⟨reached, fun _ nonzero => absurd zero nonzero⟩
      · assumption
  refine triple_loop postStable (triple_bind read fun reply => ?_)
  cases reply with
  | done count =>
      cases count with
      | zero => exact triple_absurd fun _ _ holds => holds.2 rfl
      | succ count =>
        exact triple_done (postStable (.ok (count + 1))) fun _ _ holds => ⟨holds.1, trivial⟩
  | wouldBlock => exact triple_done (postStable (.ok 0)) fun _ _ holds => holds
  | interrupted =>
      exact triple_done (Stable.and (owes_nothing_stable reader) (tick_stable tick))
        fun _ _ holds => holds
  | failed kind => exact triple_absurd fun _ _ holds => holds.2

theorem wait_wakes :
    (waking program mayStart reader).Triple reader (fun channel => reader ∉ channel.owing) wait
      fun _ channel => reader ∉ channel.owing := by
  have ready : (waking program mayStart reader).Triple reader
      (fun channel => reader ∉ channel.owing ∧ True) (.perform .readable)
      fun reply channel => reader ∉ channel.owing ∧
        match reply with
        | .ok tick => tick ≤ channel.tick
        | .error _ => True := by
    refine reader_perform (by exact id) (Stable.const True) ?_ (fun _ _ => trivial) ?_
    · intro reply
      cases reply with
      | ok tick => exact tick_stable tick
      | error kind => exact Stable.const True
    · intro choice channel reply after _ executed
      simp only [Channel.exec] at executed
      repeat' split at executed
      all_goals simp only [reduceCtorEq, Option.some.injEq, Prod.mk.injEq] at executed
      all_goals obtain ⟨rfl, rfl⟩ := executed
      all_goals simp
  have clear : ∀ tick, (waking program mayStart reader).Triple reader
      (fun channel => reader ∉ channel.owing ∧ Clearable tick channel)
      (.perform (.clearReady tick)) fun _ channel => reader ∉ channel.owing ∧ True := by
    intro tick
    exact reader_perform (by exact id) (clearable_stable tick) (fun _ => Stable.const True)
      (fun _ clearable => ⟨rfl, clearable⟩) fun _ _ _ _ _ _ => trivial
  refine triple_loop (fun _ => owes_nothing_stable reader) ?_
  refine triple_bind
    (triple_weaken ready (fun _ _ paid => ⟨paid, trivial⟩) fun _ _ _ holds => holds) fun reply => ?_
  cases reply with
  | error kind => exact triple_done (owes_nothing_stable reader) fun _ _ holds => holds.1
  | ok tick =>
      refine triple_bind (drain_wakes tick) fun drained => ?_
      rcases drained with kind | ⟨_ | count⟩
      · exact triple_absurd fun _ _ holds => holds.2
      · refine triple_bind (clear tick) fun _ => ?_
        exact triple_done (owes_nothing_stable reader) fun _ _ holds => holds.1
      · exact triple_done (owes_nothing_stable reader) fun _ _ holds => holds.1

theorem ringTryPush_wakes (task : Task) (capacity : Nat) (parts : List Bytes) :
    (waking program mayStart reader).Triple task (fun channel => task ∉ channel.owing)
      (ringTryPush capacity parts)
      fun result channel => (∀ error, result = .error error → task ∉ channel.owing) := by
  -- A write followed by a notify; a refused write owes nothing.
  have stable : ∀ result : Except QlasterError Unit, (waking program mayStart reader).Stable task
      fun channel => ∀ error, result = .error error → task ∉ channel.owing :=
    fun result before after step holds error failed =>
      owes_nothing_stable task before after step (holds error failed)
  unfold ringTryPush
  simp only
  split
  · exact triple_done (stable _) fun _ _ paid _ _ => paid
  · split
    · exact triple_done (stable _) fun _ _ paid _ _ => paid
    · have write : ∀ bytes, (waking program mayStart reader).Triple task
          (fun channel => task ∉ channel.owing) (.perform (.tryWriteSlice bytes))
          fun accepted channel => accepted = false → task ∉ channel.owing := by
        intro bytes
        refine triple_perform (owes_nothing_stable task) ?_ ?_ ?_
        · exact fun accepted before after step holds refused =>
            owes_nothing_stable task before after step (holds refused)
        · exact fun channel _ paid => ⟨fun owes => absurd owes paid, trivial⟩
        · intro choice channel reply after _ paid executed refused
          simp only [channelSystem, Channel.exec] at executed
          split at executed <;> simp only [Option.some.injEq, Prod.mk.injEq] at executed <;>
            obtain ⟨rfl, rfl⟩ := executed
          · contradiction
          · unfold Channel.markClose
            split <;> exact paid
      refine triple_bind (write _) fun accepted => ?_
      cases accepted with
      | true => exact triple_done (stable _) fun _ _ _ => by simp
      | false =>
          have count : (Program.perform ChannelOp.fetchAddDropped).Only Neutral :=
            Program.Only.perform trivial
          refine triple_bind (triple_weaken (neutral_wakes count) (fun _ _ paid => paid rfl)
            fun _ _ _ paid => paid) fun _ => ?_
          exact triple_done (stable _) fun _ _ paid _ _ => paid

theorem sinkTryPush_wakes (task : Task) (capacity : Nat) (frame : OutboundFrame) :
    (waking program mayStart reader).Triple task (fun channel => task ∉ channel.owing)
      (sinkTryPush capacity frame) fun _ channel => task ∉ channel.owing := by
  refine triple_bind (ringTryPush_wakes task capacity _) fun pushed => ?_
  cases pushed with
  | error error => exact triple_done (owes_nothing_stable task) fun _ _ paid => paid error rfl
  | ok _ =>
      refine triple_bind (triple_weaken (notify_wakes task) (fun _ _ _ => trivial)
        fun _ _ _ paid => paid) fun notified => ?_
      cases notified with
      | ok _ => exact triple_done (owes_nothing_stable task) fun _ _ paid => paid
      | error kind =>
          exact neutral_wakes ((Program.Only.perform (by trivial)).bind fun _ => trivial)

theorem sinkClose_wakes (task : Task) :
    (waking program mayStart reader).Triple task (fun channel => task ∉ channel.owing) sinkClose
      fun _ channel => task ∉ channel.owing := by
  have close : (waking program mayStart reader).Triple task (fun channel => task ∉ channel.owing)
      ringClose fun _ _ => True := by
    have write : (waking program mayStart reader).Triple task (fun channel => task ∉ channel.owing)
        (.perform (.tryWriteSlice sentinelBytes)) fun _ _ => True := by
      refine triple_perform (owes_nothing_stable task) (fun _ => Stable.const True) ?_ ?_
      · exact fun channel _ paid => ⟨fun owes => absurd owes paid, trivial⟩
      · exact fun _ _ _ _ _ _ _ => trivial
    exact triple_bind write fun _ => triple_done (Stable.const True) fun _ _ _ => trivial
  refine triple_bind close fun _ => triple_bind (notify_wakes task) fun _ => ?_
  exact triple_done (owes_nothing_stable task) fun _ _ paid => paid

theorem drainRing_wakes (codecs : Codecs) :
    (waking program mayStart reader).Triple reader (fun channel => reader ∉ channel.owing)
      (drainRing codecs) fun _ channel => reader ∉ channel.owing := by
  have handle : ∀ bytes, (handleFrame codecs bytes).Only Neutral := by
    intro bytes
    unfold handleFrame
    split <;> exact Program.Only.perform (by trivial)
  refine neutral_wakes (Program.Only.iterate fun _ => ?_)
  refine (tryPop_pops.mono Pops.neutral).bind fun popped => ?_
  cases popped with
  | none => trivial
  | some bytes => exact (handle bytes).bind fun _ => trivial

theorem isClosed_wakes :
    (waking program mayStart reader).Triple reader (fun channel => reader ∉ channel.owing)
      isClosed fun _ channel => reader ∉ channel.owing := by
  refine neutral_wakes ((Program.Only.perform (by trivial)).bind fun closed => ?_)
  cases closed with
  | true => trivial
  | false => exact (Program.Only.perform (by trivial)).bind fun _ => trivial

theorem readTurn_wakes (codecs : Codecs) :
    (waking program mayStart reader).Triple reader (fun channel => reader ∉ channel.owing)
      (readTurn codecs) fun _ channel => reader ∉ channel.owing := by
  refine triple_bind (drainRing_wakes codecs) fun _ => triple_bind isClosed_wakes fun closed => ?_
  cases closed with
  | true => exact neutral_wakes ((Program.Only.perform (by trivial)).bind fun _ => trivial)
  | false =>
      refine triple_bind wait_wakes fun waited => ?_
      cases waited with
      | ok count => exact triple_done (owes_nothing_stable reader) fun _ _ paid => paid
      | error kind =>
          exact neutral_wakes ((Program.Only.perform (by trivial)).bind fun _ =>
            (Program.Only.perform (by trivial)).bind fun _ => trivial)

theorem runReader_wakes (codecs : Codecs) :
    (waking program mayStart reader).Triple reader (fun channel => reader ∉ channel.owing)
      (runReader codecs) fun _ channel => reader ∉ channel.owing := by
  have register : (waking program mayStart reader).Triple reader
      (fun channel => reader ∉ channel.owing ∧ True) (.perform .registerEventfd)
      fun _ channel => reader ∉ channel.owing ∧ True :=
    reader_perform (by exact id) (Stable.const True) (fun _ => Stable.const True) (fun _ _ => rfl)
      fun _ _ _ _ _ _ => trivial
  refine triple_bind (triple_weaken register (fun _ _ paid => ⟨paid, trivial⟩)
    fun _ _ _ holds => holds.1) fun registered => ?_
  cases registered with
  | error kind =>
      exact neutral_wakes ((Program.Only.perform (by trivial)).bind fun _ =>
        Program.Only.perform (by trivial))
  | ok _ =>
      refine triple_loop (fun _ => owes_nothing_stable reader) ?_
      refine triple_weaken (readTurn_wakes codecs) (fun _ _ paid => paid) fun turn _ _ paid => ?_
      cases turn <;> exact paid

end

/-! The reader and any number of writers, with the runtime and the file's removal. -/

inductive SinkCall
  | push (frame : OutboundFrame)
  | close
  | read
  | poll
  | unlink

def sinkProgram (capacity : Nat) (codecs : Codecs) : SinkCall → Program ChannelOp Unit
  | .push frame => do
      let _ ← sinkTryPush capacity frame
  | .close => sinkClose
  | .read => runReader codecs
  | .poll => .perform .pollEvents
  | .unlink => .perform .unlink

def sinkMayStart (reader task : Task) : SinkCall → Bool
  | .read => decide (task = reader)
  | _ => decide (task ≠ reader)

def sinkSystem (capacity : Nat) (codecs : Codecs) (reader : Task) :
    System ChannelOp Task (Channel Task) ChannelChoice SinkCall :=
  channelSystem (sinkProgram capacity codecs) (sinkMayStart reader)

def sinkStart (Task : Type) (capacity : Nat) : Config ChannelOp Task (Channel Task) where
  shared := Channel.created Task capacity
  pool := fun _ => .done ()

theorem sinkCall_wakes (capacity : Nat) (codecs : Codecs) (reader task : Task) (call : SinkCall)
    (may : sinkMayStart reader task call = true) :
    (waking (sinkProgram capacity codecs) (sinkMayStart reader) reader).Triple task
      (fun channel => task ∉ channel.owing) (sinkProgram capacity codecs call)
      fun _ channel => task ∉ channel.owing := by
  cases call with
  | push frame =>
      refine triple_bind (sinkTryPush_wakes task capacity frame) fun _ => ?_
      exact triple_done (owes_nothing_stable task) fun _ _ paid => paid
  | close => exact sinkClose_wakes task
  | read =>
      obtain rfl : task = reader := by simpa [sinkMayStart] using may
      exact runReader_wakes codecs
  | poll => exact neutral_wakes (Program.Only.perform (by trivial))
  | unlink => exact neutral_wakes (Program.Only.perform (by trivial))

/--
No wakeup is lost: while the reader's last pop has found the ring empty and it has
taken no count since, an unread item means a non-zero counter or a writer whose
next operation is the write of its notify. A non-zero counter always has its
readiness event delivered or pending.
-/
theorem no_lost_wakeup (capacity : Nat) (codecs : Codecs) (reader : Task)
    (config : Config ChannelOp Task (Channel Task))
    (run : (sinkSystem capacity codecs reader).Reachable (sinkStart Task capacity) config) :
    (config.shared.FoundEmpty → config.shared.queue ≠ [] →
      config.shared.counter ≠ 0 ∨
      ∃ task ∈ config.shared.owing, config.pool task ≠ .done () ∧
        ∀ (β : Type) (op : ChannelOp β) next, config.pool task = .request op next → IsNotify op) ∧
    (config.shared.counter ≠ 0 → config.shared.ready = true ∨ config.shared.edge = true) := by
  have sound :
      Sound (waking (sinkProgram capacity codecs) (sinkMayStart reader) reader) config := by
    refine Sound.reachable (sinkCall_wakes capacity codecs reader) (Sound.ofIdle ?_ ?_ ?_) run
    · exact ⟨fun _ nonempty => absurd rfl nonempty, fun nonzero => absurd rfl nonzero⟩
    · exact fun _ => rfl
    · exact fun _ => List.not_mem_nil
  refine ⟨fun found nonempty => ?_, sound.inv.reported⟩
  rcases sound.inv.wakes found nonempty with nonzero | someone
  · exact .inl nonzero
  · obtain ⟨task, owes⟩ := List.exists_mem_of_ne_nil _ someone
    refine .inr ⟨task, owes, fun idle => sound.rest idle owes, ?_⟩
    exact fun β op next running => (sound.guard running).1 owes

end

-- The reader has found the ring empty, a writer has written, and its notify is still to come.
theorem no_lost_wakeup_owed :
    ∃ config, (sinkSystem 64 sampleCodecs (0 : Nat)).Reachable (sinkStart Nat 64) config ∧
      config.shared.FoundEmpty ∧ config.shared.queue ≠ [] ∧ config.shared.counter = 0 ∧
      ∃ task ∈ config.shared.owing, config.pool task ≠ .done () := by
  have ran : ((sinkSystem 64 sampleCodecs (0 : Nat)).schedule (sinkStart Nat 64)
      [.start 0 .read, .step 0 {}, .step 0 {}, .step 0 {}, .step 0 {}, .start 1 (.push ⟨[7], [8]⟩),
        .step 1 {}]).any
      (fun config => config.shared.phase = .checking ∧ config.shared.queue = [2, 0, 0, 0, 7, 8] ∧
        config.shared.counter = 0) = true := by
    decide +kernel
  obtain ⟨config, run, checked⟩ := System.schedule_finds ran
  obtain ⟨checking, queue, zero⟩ := of_decide_eq_true checked
  have nonempty : config.shared.queue ≠ [] := by simp [queue]
  refine ⟨config, run, .inl checking, nonempty, zero, ?_⟩
  rcases (no_lost_wakeup 64 sampleCodecs 0 config run).1 (.inl checking) nonempty with
    nonzero | ⟨task, owes, running, -⟩
  · exact absurd zero nonzero
  · exact ⟨task, owes, running⟩

end Qlaster
