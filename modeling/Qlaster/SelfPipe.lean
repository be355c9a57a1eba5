import Mathlib.Data.Nat.Find
import Qlaster.RelyGuarantee
import Qlaster.SelfPipeCore
import Qlaster.Sequential
import Qlaster.Simulation

/-!
The self-pipe against the eventfd. A drain of the pipe is many reads and one of the eventfd a
single one; the single one is placed at the last of the many, where the pipe is empty.
-/

namespace Qlaster

open Interleaving Interleaving.Discipline

/-! The eventfd of a ring is this one, with the kernel's limit. -/

def FdOp.channel : {β : Type} → FdOp β → ChannelOp β
  | _, .write => .writeEventfd
  | _, .read _ => .readEventfd

theorem notify_onChannel : EventFd.notify.lift FdOp.channel = notify := by
  simp only [EventFd.notify, writeLoop, notify, Program.iterate, Program.lift]
  congr 1
  funext turn
  simp only [Program.bind_eq, Program.pure_eq, Program.perform, Program.bind, Program.lift,
    FdOp.channel]
  congr 1
  funext reply
  cases reply <;> rfl

theorem drain_onChannel : EventFd.drain.lift FdOp.channel = drain := by
  simp only [EventFd.drain, drain, Program.iterate, Program.lift]
  congr 1
  funext turn
  simp only [Program.bind_eq, Program.pure_eq, Program.perform, Program.bind, Program.lift,
    FdOp.channel]
  congr 1
  funext reply
  cases reply <;> rfl

theorem channel_writeEventfd {Task : Type} [DecidableEq Task] (channel : Channel Task)
    (choice : ChannelChoice)
    (task : Task) (state : WakeState) (same : state.pending = channel.counter) (waker : WakeTask) :
    ∃ after, channel.exec choice task .writeEventfd =
        some ((state.exec .eventfd eventfdMax (fun _ => choice.interrupted) waker .write).1,
          after) ∧
      after.counter =
        (state.exec .eventfd eventfdMax (fun _ => choice.interrupted) waker .write).2.pending := by
  simp only [Channel.exec, WakeState.exec, WakeState.wrote, WakeState.tried, same]
  repeat' split
  all_goals exact ⟨_, rfl, by simp_all⟩

theorem channel_readEventfd {Task : Type} [DecidableEq Task] (channel : Channel Task)
    (choice : ChannelChoice)
    (task : Task) (state : WakeState) (same : state.pending = channel.counter) (waker : WakeTask)
    (limit len : Nat) : ∃ after, channel.exec choice task .readEventfd =
        some ((state.exec .eventfd limit (fun _ => choice.interrupted) waker (.read len)).1,
          after) ∧
      after.counter =
        (state.exec .eventfd limit (fun _ => choice.interrupted) waker (.read len)).2.pending := by
  simp only [Channel.exec, WakeState.exec, WakeState.tried, Backend.takes, same]
  repeat' split
  all_goals exact ⟨_, rfl, by simp_all⟩

/-! What a call comes to when nobody else steps. -/

variable {backend : Backend} {limit : Nat} {interrupts : Nat → Bool}

/-- How many system calls from this one on are interrupted in a row. -/
def pause (finitely : Finitely interrupts) (attempt : Nat) :
    Nat := Nat.find (finitely attempt) - attempt

theorem pause_succ_lt (finitely : Finitely interrupts) {attempt : Nat}
    (interrupted : interrupts attempt = true) :
    pause finitely (attempt + 1) < pause finitely attempt := by
  obtain ⟨reached, clear⟩ := Nat.find_spec (finitely attempt)
  have later : attempt ≠ Nat.find (finitely attempt) := by
    intro same
    rw [← same, interrupted] at clear
    simp at clear
  have bound : Nat.find (finitely (attempt + 1)) ≤ Nat.find (finitely attempt) :=
    Nat.find_min' _ ⟨by omega, clear⟩
  unfold pause
  omega

namespace WakeState

def forget (state : WakeState) : WakeState := { state with attempts := 0 }

def emptied (state : WakeState) : WakeState :=
  { state with
    pending := 0
    taken := state.taken + state.pending }

theorem forget_wrote (state : WakeState) (limit : Nat) (task : WakeTask) :
    (state.wrote limit task).forget = (state.forget.wrote limit task).forget := by
  by_cases full : limit ≤ state.pending
  · have full' : limit ≤ state.forget.pending := full
    rw [wrote, wrote, if_pos full, if_pos full']
    rfl
  · have full' : ¬ limit ≤ state.forget.pending := full
    rw [wrote, wrote, if_neg full, if_neg full']
    rfl

end WakeState

theorem writeLoop_alone (finitely : Finitely interrupts) (task : WakeTask) (choices : Nat → Unit)
    (tick : Nat) (state : WakeState) :
    (wakeSystem backend limit interrupts).Alone task choices (onFd writeLoop) tick state
      fun result _ after => result = .ok () ∧ after.forget = (state.wrote limit task).forget := by
  refine System.Alone.iterateRanked Nat.lt_wfRel.wf (fun _ _ now => pause finitely now.attempts)
    (fun _ now => now.forget = state.forget) ?_ rfl
  intro _ tick now same
  have wrote : (now.wrote limit task).forget = (state.wrote limit task).forget := by
    rw [now.forget_wrote, same, ← state.forget_wrote]
  by_cases interrupted : interrupts now.attempts = true
  · have executed : now.exec backend limit interrupts task .write = (.interrupted, now.tried) :=
      if_pos interrupted
    exact .request (congrArg some executed) (.done ⟨same, pause_succ_lt finitely interrupted⟩)
  · by_cases full : limit ≤ now.pending
    · have executed :
        now.exec backend limit interrupts task .write = (.wouldBlock, now.wrote limit task) := by
        simp only [WakeState.exec, interrupted, full, if_true, if_false, Bool.false_eq_true]
      exact .request (congrArg some executed) (.done ⟨rfl, wrote⟩)
    · have executed :
        now.exec backend limit interrupts task .write = (.done (), now.wrote limit task) := by
        simp only [WakeState.exec, interrupted, full, if_false, Bool.false_eq_true]
      exact .request (congrArg some executed) (.done ⟨rfl, wrote⟩)

theorem eventfdDrain_alone (finitely : Finitely interrupts) (task : WakeTask) (choices : Nat → Unit)
    (tick : Nat) (state : WakeState) :
    (wakeSystem .eventfd limit interrupts).Alone task choices (onFd EventFd.drain) tick state
      fun result _ after => result = .ok state.pending ∧ after.forget = state.emptied.forget := by
  refine System.Alone.iterateRanked Nat.lt_wfRel.wf (fun _ _ now => pause finitely now.attempts)
    (fun _ now => now.forget = state.forget) ?_ rfl
  intro _ tick now same
  obtain ⟨pending, attempts, history, taken⟩ := state
  obtain ⟨rfl, _, rfl, rfl⟩ := WakeState.mk.inj same
  by_cases interrupted : interrupts now.attempts = true
  · have executed : now.exec .eventfd limit interrupts task (.read 8) = (.interrupted, now.tried) :=
      if_pos interrupted
    exact .request (congrArg some executed) (.done ⟨rfl, pause_succ_lt finitely interrupted⟩)
  · by_cases empty : now.pending = 0
    · have executed :
        now.exec .eventfd limit interrupts task (.read 8) = (.wouldBlock, now.tried) := by
        simp only [WakeState.exec, interrupted, empty, if_true, if_false, Bool.false_eq_true]
      refine .request (congrArg some executed) (.done ⟨?_, ?_⟩)
      · rw [empty]
      · simp only [WakeState.forget, WakeState.emptied, WakeState.tried, empty, Nat.add_zero]
    · have executed : now.exec .eventfd limit interrupts task (.read 8) =
          (.done now.pending,
            { now.tried with pending := 0, taken := now.taken + now.pending }) := by
        simp only [WakeState.exec, interrupted, empty, if_false, Bool.false_eq_true, Backend.takes,
          Nat.sub_self]
      exact .request (congrArg some executed) (.done ⟨rfl, rfl⟩)

theorem SelfPipe.afterRead_done (total : Nat) {count : Nat} (positive : 0 < count) :
    afterRead total (.done count) =
      if count < drainBuf then .inr (.ok (total + count)) else .inl (total + count) :=
  if_neg (Nat.ne_of_gt positive)

theorem pipeDrain_alone (finitely : Finitely interrupts) (task : WakeTask) (choices : Nat → Unit)
    (tick total : Nat) (state : WakeState) :
    (wakeSystem .pipe limit interrupts).Alone task choices (onFd (SelfPipe.drainFrom total))
      tick state fun result _ after => result = .ok (total + state.pending) ∧
        after.forget = state.emptied.forget := by
  -- A turn that is not the last is interrupted, or takes 64 bytes.
  refine System.Alone.iterateRanked (WellFounded.prod_lex Nat.lt_wfRel.wf Nat.lt_wfRel.wf)
    (fun _ _ now => (now.pending, pause finitely now.attempts))
    (fun sum now => sum + now.pending = total + state.pending ∧
      now.emptied.forget = state.emptied.forget) ?_
    ⟨rfl, rfl⟩
  rintro sum tick now ⟨same, rest⟩
  by_cases interrupted : interrupts now.attempts = true
  · have executed : now.exec .pipe limit interrupts task (.read 64) = (.interrupted, now.tried) :=
      if_pos interrupted
    exact .request (congrArg some executed)
      (.done ⟨⟨same, rest⟩, Prod.Lex.right _ (pause_succ_lt finitely interrupted)⟩)
  · by_cases empty : now.pending = 0
    · have executed :
        now.exec .pipe limit interrupts task (.read 64) = (.wouldBlock, now.tried) := by
        simp only [WakeState.exec, interrupted, empty, if_true, if_false, Bool.false_eq_true]
      refine .request (congrArg some executed) (.done ⟨?_, ?_⟩)
      · rw [← same, empty, Nat.add_zero]
      · rw [← rest]
        simp only [WakeState.forget, WakeState.emptied, WakeState.tried, empty, Nat.add_zero]
    · by_cases short : now.pending < 64
      · have executed : now.exec .pipe limit interrupts task (.read 64) =
            (.done now.pending,
              { now.tried with pending := 0, taken := now.taken + now.pending }) := by
          simp only [WakeState.exec, interrupted, empty, if_false, Bool.false_eq_true,
            Backend.takes, Nat.min_eq_right (Nat.le_of_lt short), Nat.sub_self]
        refine .request (congrArg some executed) ?_
        change System.Alone _ task choices (.done (SelfPipe.afterRead sum (.done now.pending)))
          _ _ _
        rw [SelfPipe.afterRead_done sum (Nat.pos_of_ne_zero empty), SelfPipe.drainBuf, if_pos short]
        exact .done ⟨by rw [same], rest⟩
      · have executed : now.exec .pipe limit interrupts task (.read 64) =
            (.done 64,
              { now.tried with pending := now.pending - 64, taken := now.taken + 64 }) := by
          simp only [WakeState.exec, interrupted, empty, if_false, Bool.false_eq_true,
            Backend.takes, Nat.min_eq_left (Nat.le_of_not_lt short)]
        refine .request (congrArg some executed) (.done ⟨⟨?_, ?_⟩, Prod.Lex.left _ _ ?_⟩)
        · change sum + 64 + (now.pending - 64) = total + state.pending
          omega
        · rw [← rest]
          simp only [WakeState.forget, WakeState.emptied, WakeState.tried]
          congr 1
          omega
        · change now.pending - 64 < now.pending
          omega

theorem drain_alone (finitely : Finitely interrupts) (task : WakeTask) (choices : Nat → Unit)
    (tick : Nat) (state : WakeState) :
    (wakeSystem backend limit interrupts).Alone task choices (onFd backend.drain) tick state
      fun result _ after => result = .ok state.pending ∧ after.forget = state.emptied.forget := by
  cases backend with
  | eventfd => exact eventfdDrain_alone finitely task choices tick state
  | pipe =>
      refine (pipeDrain_alone finitely task choices tick 0 state).mono ?_
      rintro result _ after ⟨rfl, same⟩
      exact ⟨by rw [Nat.zero_add], same⟩

/-! What every run keeps, on either backend. -/

def unanswered : List (WakeTask × WakeEvent) → Bool
  | [] => false
  | (_, .wrote _) :: _ => true
  | (.drainer, .drainReturned (.ok count)) :: earlier => decide (count = 0) && unanswered earlier
  | _ :: earlier => unanswered earlier

def lastEvent (task : WakeTask) (history : List (WakeTask × WakeEvent)) : Option WakeEvent :=
  (history.find? fun entry => entry.1 = task).map Prod.snd

def storedIn : List (WakeTask × WakeEvent) → Nat
  | [] => 0
  | (_, .wrote true) :: earlier => storedIn earlier + 1
  | _ :: earlier => storedIn earlier

def returnedIn : List (WakeTask × WakeEvent) → Nat
  | [] => 0
  | (_, .drainReturned (.ok count)) :: earlier => returnedIn earlier + count
  | _ :: earlier => returnedIn earlier

structure WakeAccount (state : WakeState) : Prop where
  owed : unanswered state.history = true → 0 < state.pending ∨ 0 < state.taken
  settled : ∀ result earlier, state.history = (.drainer, .drainReturned result) :: earlier →
    state.taken = 0
  written : ∀ task result since before, state.history = since ++ (task, .notifyCalled) :: before →
    (task, .notifyReturned result) ∈ since → ∃ stored, (task, .wrote stored) ∈ since
  counted : storedIn state.history = returnedIn state.history + state.taken + state.pending

def WakeOp.InTurn (task : WakeTask) (state : WakeState) : {β : Type} → WakeOp β → Prop
  | _, .write => True
  | _, .read len => task = .drainer ∧ lastEvent .drainer state.history = some .drainCalled ∧ 0 < len
  | _, .note (.notifyReturned _) => ∃ stored, lastEvent task state.history = some (.wrote stored)
  | _, .note (.drainReturned result) => task = .drainer ∧ result = .ok state.taken
  | _, .note (.wrote _) => False
  | _, .note _ => True

theorem lastEvent_cons_self (task : WakeTask) (event : WakeEvent)
    (history : List (WakeTask × WakeEvent)) :
    lastEvent task ((task, event) :: history) = some event := by
  simp [lastEvent]

theorem lastEvent_cons_other {task other : WakeTask} (different : other ≠ task) (event : WakeEvent)
    (history : List (WakeTask × WakeEvent)) :
    lastEvent task ((other, event) :: history) = lastEvent task history := by
  simp [lastEvent, different]

theorem mem_of_lastEvent {task : WakeTask} {event called : WakeEvent}
    {since before : List (WakeTask × WakeEvent)}
    (last : lastEvent task (since ++ (task, called) :: before) = some event)
    (other : event ≠ called) : (task, event) ∈ since := by
  induction since with
  | nil =>
      rw [List.nil_append, lastEvent_cons_self] at last
      exact absurd (Option.some.inj last).symm other
  | cons entry rest ih =>
      obtain ⟨owner, found⟩ := entry
      by_cases own : owner = task
      · subst owner
        rw [List.cons_append, lastEvent_cons_self] at last
        rw [Option.some.inj last]
        exact List.mem_cons_self ..
      · rw [List.cons_append, lastEvent_cons_other own] at last
        exact List.mem_cons_of_mem _ (ih last)

theorem WakeAccount.written_cons {state : WakeState} (accounted : WakeAccount state)
    {owner : WakeTask} {event : WakeEvent} (returned : ∀ result, event = .notifyReturned result →
      ∃ stored, lastEvent owner state.history = some (.wrote stored)) :
    ∀ task result since before, (owner, event) :: state.history = since ++
      (task, .notifyCalled) :: before →
      (task, .notifyReturned result) ∈ since → ∃ stored, (task, .wrote stored) ∈ since := by
  intro task result since before split member
  cases since with
  | nil => simp at member
  | cons entry rest =>
      obtain ⟨rfl, tail⟩ := List.cons.inj split
      rcases List.mem_cons.mp member with last | earlier
      · obtain ⟨rfl, rfl⟩ := Prod.mk.inj last
        obtain ⟨stored, wrote⟩ := returned result rfl
        rw [tail] at wrote
        exact ⟨stored, List.mem_cons_of_mem _ (mem_of_lastEvent wrote (by simp))⟩
      · obtain ⟨stored, wrote⟩ := accounted.written task result rest before tail earlier
        exact ⟨stored, List.mem_cons_of_mem _ wrote⟩

theorem wakeAccount_created : WakeAccount .created where
  owed unanswered := by simp [WakeState.created, Qlaster.unanswered] at unanswered
  settled _ _ head := by simp [WakeState.created] at head
  written _ _ _ _ split _ := by simp [WakeState.created] at split
  counted := rfl

section Steps

variable {state : WakeState} {task : WakeTask}

theorem WakeAccount.tried (accounted : WakeAccount state) : WakeAccount state.tried :=
  ⟨accounted.owed, accounted.settled, accounted.written, accounted.counted⟩

theorem WakeAccount.wrote (accounted : WakeAccount state) (room : 1 ≤ limit) (task : WakeTask) :
    WakeAccount (state.wrote limit task) := by
  unfold WakeState.wrote
  split
  · rename_i full
    refine ⟨fun _ => .inl ?_, ?_, accounted.written_cons (by simp), accounted.counted⟩
    · change 0 < state.pending
      omega
    · intro result earlier head
      simp at head
  · refine ⟨fun _ => .inl (Nat.succ_pos _), ?_, accounted.written_cons (by simp), ?_⟩
    · intro result earlier head
      simp at head
    · have counted := accounted.counted
      simp only [storedIn, returnedIn, WakeState.tried]
      omega

theorem WakeAccount.read (accounted : WakeAccount state) {count : Nat} (positive : 0 < count)
    (within : count ≤ state.pending)
    (reading : lastEvent .drainer state.history = some .drainCalled) :
    WakeAccount
      { state.tried with pending := state.pending - count, taken := state.taken + count } where
  owed _ := .inr (Nat.add_pos_right _ positive)
  settled result earlier head := by
    rw [show state.history = _ from head, lastEvent_cons_self] at reading
    simp at reading
  written := accounted.written
  counted := by
    have counted := accounted.counted
    simp only [WakeState.tried]
    omega

theorem WakeAccount.noted (accounted : WakeAccount state) {event : WakeEvent}
    (turn : (WakeOp.note event).InTurn task state) : WakeAccount (state.noted task event) := by
  cases event with
  | notifyCalled =>
      refine ⟨accounted.owed, ?_, accounted.written_cons (by simp), accounted.counted⟩
      intro result earlier head
      simp [WakeState.noted] at head
  | wrote stored => exact absurd turn id
  | notifyReturned result =>
      refine ⟨accounted.owed, ?_, accounted.written_cons fun _ _ => turn, accounted.counted⟩
      intro result earlier head
      simp [WakeState.noted] at head
  | drainCalled =>
      refine ⟨accounted.owed, ?_, accounted.written_cons (by simp), accounted.counted⟩
      intro result earlier head
      simp [WakeState.noted] at head
  | drainReturned result =>
      obtain ⟨rfl, rfl⟩ := turn
      refine ⟨?_, fun _ _ _ => rfl, accounted.written_cons (by simp), ?_⟩
      · intro owed
        simp only [WakeState.noted, unanswered, Bool.and_eq_true, decide_eq_true_eq] at owed ⊢
        have pending := accounted.owed owed.2
        omega
      · have counted := accounted.counted
        simp only [WakeState.noted, WakeEvent.settles, storedIn, returnedIn, if_true]
        omega

end Steps

theorem Backend.takes_pos (backend : Backend) {len pending : Nat} (room : 0 < len)
    (filled : pending ≠ 0) : 0 < backend.takes len pending := by
  cases backend with
  | eventfd => exact Nat.pos_of_ne_zero filled
  | pipe =>
      simp only [takes]
      omega

theorem Backend.takes_le (backend : Backend) (len pending : Nat) :
    backend.takes len pending ≤ pending := by
  cases backend with
  | eventfd => exact Nat.le_refl _
  | pipe => exact Nat.min_le_right _ _

theorem WakeAccount.step {state : WakeState} {task : WakeTask} {β : Type} {op : WakeOp β}
    (room : 1 ≤ limit) (accounted : WakeAccount state) (turn : op.InTurn task state) :
    WakeAccount (state.exec backend limit interrupts task op).2 := by
  cases op with
  | write =>
      simp only [WakeState.exec]
      repeat' split
      · exact accounted.tried
      · exact accounted.wrote room task
      · exact accounted.wrote room task
  | read len =>
      obtain ⟨_, reading, len⟩ := turn
      simp only [WakeState.exec]
      split
      · exact accounted.tried
      · split
        · exact accounted.tried
        · rename_i filled
          exact accounted.read (backend.takes_pos len filled) (backend.takes_le _ _) reading
  | note event => exact accounted.noted turn

/-! The calls come to their operations in turn. -/

theorem exec_lastEvent {state : WakeState} {task other : WakeTask} (different : other ≠ task)
    {β : Type} (op : WakeOp β) :
    lastEvent task (state.exec backend limit interrupts other op).2.history = lastEvent task
      state.history := by
  cases op with
  | write =>
      simp only [WakeState.exec, WakeState.wrote]
      repeat' split
      all_goals first | rfl | exact lastEvent_cons_other different _ _
  | read len =>
      simp only [WakeState.exec]
      repeat' split
      all_goals rfl
  | note event => exact lastEvent_cons_other different _ _

theorem exec_taken {state : WakeState} {other : WakeTask} (notifier : other ≠ .drainer) {β : Type}
    {op : WakeOp β} (turn : op.InTurn other state) :
    (state.exec backend limit interrupts other op).2.taken = state.taken := by
  cases op with
  | write =>
      simp only [WakeState.exec, WakeState.wrote]
      repeat' split
      all_goals rfl
  | read len => exact absurd turn.1 notifier
  | note event =>
      cases event with
      | drainReturned result => exact absurd turn.1 notifier
      | notifyCalled => rfl
      | wrote stored => rfl
      | notifyReturned result => rfl
      | drainCalled => rfl

theorem wake_after {state after : WakeState} {task : WakeTask} {β : Type} {op : WakeOp β}
    {reply : β} {choice : Unit}
    (executed : (wakeSystem backend limit interrupts).exec choice task op state = some
      (reply, after)) :
    (state.exec backend limit interrupts task op).2 = after :=
  congrArg Prod.snd (Option.some.inj executed)

def wakeDiscipline (backend : Backend) {limit : Nat} (room : 1 ≤ limit) (interrupts : Nat → Bool) :
    Discipline (wakeSystem backend limit interrupts) where
  inv := WakeAccount
  guard task _ op state := op.InTurn task state
  rest task state := task = .drainer → state.taken = 0
  preserved := by
    intro choice task β op state reply after accounted turn executed
    rw [← wake_after executed]
    exact accounted.step room turn
  rest_stable := by
    intro choice task other β op state reply after different accounted turn executed resting drainer
    rw [← wake_after executed, exec_taken (drainer ▸ different) turn]
    exact resting drainer

variable {room : 1 ≤ limit}

theorem lastEvent_stable (task : WakeTask) (assertion : Option WakeEvent → Prop) :
    (wakeDiscipline backend room interrupts).Stable task fun state =>
      assertion (lastEvent task state.history) := by
  rintro before after ⟨_, other, choice, β, op, reply, different, _, executed⟩ holds
  rw [← wake_after executed, exec_lastEvent different]
  exact holds

theorem taken_stable (total : Nat) :
    (wakeDiscipline backend room interrupts).Stable .drainer fun state => state.taken = total := by
  rintro before after ⟨_, other, choice, β, op, reply, different, turn, executed⟩ holds
  rw [← wake_after executed, exec_taken different turn]
  exact holds

def Reading (total : Nat) (state : WakeState) : Prop :=
  lastEvent .drainer state.history = some .drainCalled ∧ state.taken = total

theorem reading_stable (total : Nat) :
    (wakeDiscipline backend room interrupts).Stable .drainer (Reading total) :=
  (lastEvent_stable .drainer (· = some .drainCalled)).and (taken_stable total)

def HasWritten (task : WakeTask) (outcome : Sum Unit (Except IoErrorKind Unit))
    (state : WakeState) : Prop :=
  match outcome with
  | .inl _ => True
  | .inr _ => ∃ stored, lastEvent task state.history = some (.wrote stored)

theorem hasWritten_stable (task : WakeTask) (outcome : Sum Unit (Except IoErrorKind Unit)) :
    (wakeDiscipline backend room interrupts).Stable task (HasWritten task outcome) := by
  cases outcome with
  | inl _ => exact Stable.const True
  | inr result => exact lastEvent_stable task fun event => ∃ stored, event = some (.wrote stored)

theorem writeFd_triple (task : WakeTask) :
    (wakeDiscipline backend room interrupts).Triple task (fun _ => True) (.perform .write)
      fun reply => HasWritten task (afterWrite reply) := by
  apply triple_perform (Stable.const True) (fun _ => hasWritten_stable task _)
  · intro state _ _
    trivial
  · intro choice state reply after _ _ executed
    have replied : (state.exec backend limit interrupts task .write) = (reply, after) :=
      Option.some.inj executed
    simp only [WakeState.exec] at replied
    split at replied
    · obtain ⟨rfl, rfl⟩ := Prod.mk.inj replied
      trivial
    · have wrote : ∃ stored, lastEvent task (state.wrote limit task).history = some
        (.wrote stored) := by
        unfold WakeState.wrote
        split <;> exact ⟨_, lastEvent_cons_self _ _ _⟩
      split at replied
      all_goals
        obtain ⟨rfl, rfl⟩ := Prod.mk.inj replied
        exact wrote

theorem writeLoop_triple (task : WakeTask) :
    (wakeDiscipline backend room interrupts).Triple task (fun _ => True) (onFd writeLoop)
      fun result => HasWritten task (.inr result) := by
  refine triple_loop (fun result => hasWritten_stable task (.inr result)) ?_
  refine triple_bind (writeFd_triple task) fun reply => ?_
  refine triple_weaken
    (triple_done (hasWritten_stable task (afterWrite reply)) fun _ _ holds => holds)
    (fun _ _ holds => holds) ?_
  intro outcome state _ holds
  cases outcome with
  | inl _ => trivial
  | inr result => exact holds

theorem mark_triple {task : WakeTask} {event : WakeEvent} {pre post : WakeState → Prop}
    (stable : (wakeDiscipline backend room interrupts).Stable task pre)
    (postStable : (wakeDiscipline backend room interrupts).Stable task post)
    (turn : ∀ state, pre state → (WakeOp.note event).InTurn task state)
    (effect : ∀ state, pre state → post (state.noted task event)) :
    (wakeDiscipline backend room interrupts).Triple task pre (.perform (.note event)) fun _ =>
      post := by
  refine triple_perform stable (fun _ => postStable) (fun state _ holds => turn state holds) ?_
  intro choice state reply after _ holds executed
  rw [← wake_after executed]
  exact effect state holds

theorem notifyCall_triple (index : Nat) :
    (wakeDiscipline backend room interrupts).Triple (.notifier index)
      ((wakeDiscipline backend room interrupts).rest (.notifier index))
      (wakeProgram backend .notify)
      fun _ => (wakeDiscipline backend room interrupts).rest (.notifier index) := by
  have resting :
      ∀ state, (wakeDiscipline backend room interrupts).rest (.notifier index) state := by
    intro state drainer
    simp at drainer
  have loop : onFd backend.notify = onFd writeLoop := by
    cases backend <;> rfl
  have called : (wakeDiscipline backend room interrupts).Triple (.notifier index)
      ((wakeDiscipline backend room interrupts).rest (.notifier index))
      (.perform (.note .notifyCalled)) fun _ _ => True :=
    mark_triple stable_rest (Stable.const True) (fun _ _ => trivial) fun _ _ => trivial
  simp only [wakeProgram, Program.bind_eq, loop]
  refine triple_bind called fun _ => triple_bind (writeLoop_triple _) fun result => ?_
  exact mark_triple (hasWritten_stable _ (.inr result)) stable_rest (fun _ wrote => wrote)
    fun _ _ => resting _

def HasRead {σ : Type} (total : σ → Nat) (outcome : Sum σ (Except IoErrorKind Nat))
    (state : WakeState) : Prop :=
  match outcome with
  | .inl turn => Reading (total turn) state
  | .inr result => result = .ok state.taken

theorem returned_stable (result : Except IoErrorKind Nat) :
    (wakeDiscipline backend room interrupts).Stable .drainer fun state =>
      result = .ok state.taken := by
  cases result with
  | ok count =>
      intro before after step same
      have kept := taken_stable count before after step (Except.ok.inj same).symm
      rw [kept]
  | error kind =>
      intro before after step same
      simp at same

theorem hasRead_stable {σ : Type} (total : σ → Nat) (outcome : Sum σ (Except IoErrorKind Nat)) :
    (wakeDiscipline backend room interrupts).Stable .drainer (HasRead total outcome) := by
  cases outcome with
  | inl turn => exact reading_stable _
  | inr result => exact returned_stable result

theorem readFd_triple {σ : Type} (total : σ → Nat) (turn : σ)
    (after : SyscallReply Nat → Sum σ (Except IoErrorKind Nat)) {len : Nat} (room' : 0 < len)
    (interrupted : ∀ state, Reading (total turn) state → HasRead total (after .interrupted) state)
    (empty : ∀ state, Reading (total turn) state → HasRead total (after .wouldBlock) state)
    (filled : ∀ state count, 0 < count → Reading (total turn + count) state →
      HasRead total (after (.done count)) state) :
    (wakeDiscipline backend room interrupts).Triple .drainer (Reading (total turn))
    (.perform (.read len))
      fun reply => HasRead total (after reply) := by
  refine triple_perform (reading_stable _) (fun reply => hasRead_stable total (after reply)) ?_ ?_
  · intro state _ reading
    exact ⟨rfl, reading.1, room'⟩
  · intro choice state reply later _ reading executed
    have replied : state.exec backend limit interrupts .drainer (.read len) = (reply, later) :=
      Option.some.inj executed
    simp only [WakeState.exec] at replied
    split at replied
    · obtain ⟨rfl, rfl⟩ := Prod.mk.inj replied
      exact interrupted _ reading
    · split at replied
      · obtain ⟨rfl, rfl⟩ := Prod.mk.inj replied
        exact empty _ reading
      · rename_i pending
        obtain ⟨rfl, rfl⟩ := Prod.mk.inj replied
        refine filled _ _ (backend.takes_pos room' pending) ⟨reading.1, ?_⟩
        rw [← reading.2]

theorem readLoop_triple {σ : Type} (total : σ → Nat)
    (after : σ → SyscallReply Nat → Sum σ (Except IoErrorKind Nat)) {len : Nat} (room' : 0 < len)
    (interrupted : ∀ turn state, Reading (total turn) state →
      HasRead total (after turn .interrupted) state)
    (empty : ∀ turn state, Reading (total turn) state →
      HasRead total (after turn .wouldBlock) state)
    (filled : ∀ turn state count, 0 < count → Reading (total turn + count) state →
      HasRead total (after turn (.done count)) state) (turn : σ) :
    (wakeDiscipline backend room interrupts).Triple .drainer (Reading (total turn))
      (onFd (.iterate turn fun turn => (Program.perform (.read len)).bind fun reply =>
        .done (after turn reply)))
      fun result state => result = .ok state.taken := by
  refine triple_iterate (fun turn => Reading (total turn)) returned_stable ?_ turn
  intro turn
  refine triple_bind (readFd_triple total turn (after turn) room' (interrupted turn) (empty turn)
    (filled turn)) fun reply => ?_
  refine triple_weaken
    (triple_done (hasRead_stable total (after turn reply)) fun _ _ holds => holds)
    (fun _ _ holds => holds) ?_
  intro outcome state _ holds
  cases outcome with
  | inl next => exact holds
  | inr result => exact holds

theorem drainFd_triple :
    (wakeDiscipline backend room interrupts).Triple .drainer (Reading 0) (onFd backend.drain)
      fun result state => result = .ok state.taken := by
  cases backend with
  | eventfd =>
      refine readLoop_triple (fun _ => 0) (fun _ => EventFd.afterRead) (by decide) ?_ ?_ ?_ ()
      · intro _ state reading
        exact reading
      · intro _ state reading
        exact congrArg Except.ok reading.2.symm
      · intro _ state count _ reading
        rw [Nat.zero_add] at reading
        exact congrArg Except.ok reading.2.symm
  | pipe =>
      refine readLoop_triple id SelfPipe.afterRead (by decide) ?_ ?_ ?_ 0
      · intro total state reading
        exact reading
      · intro total state reading
        exact congrArg Except.ok reading.2.symm
      · intro total state count positive reading
        rw [SelfPipe.afterRead_done total positive]
        split
        · exact congrArg Except.ok reading.2.symm
        · exact reading

theorem drainCall_triple :
    (wakeDiscipline backend room interrupts).Triple .drainer
      ((wakeDiscipline backend room interrupts).rest .drainer) (wakeProgram backend .drain)
      fun _ => (wakeDiscipline backend room interrupts).rest .drainer := by
  have called : (wakeDiscipline backend room interrupts).Triple .drainer
      ((wakeDiscipline backend room interrupts).rest .drainer) (.perform (.note .drainCalled))
      fun _ => Reading 0 := by
    refine mark_triple stable_rest (reading_stable 0) (fun _ _ => trivial) ?_
    intro state resting
    exact ⟨lastEvent_cons_self _ _ _, resting rfl⟩
  simp only [wakeProgram, Program.bind_eq]
  refine triple_bind called fun _ => triple_bind drainFd_triple fun result => ?_
  exact mark_triple (returned_stable result) stable_rest (fun _ same => ⟨rfl, same⟩) fun _ _ _ =>
    rfl

theorem wake_calls (room : 1 ≤ limit) (task : WakeTask) (call : WakeCall)
    (allowed : (wakeSystem backend limit interrupts).mayStart task call = true) :
    (wakeDiscipline backend room interrupts).Triple task
      ((wakeDiscipline backend room interrupts).rest task)
      ((wakeSystem backend limit interrupts).program call)
      fun _ => (wakeDiscipline backend room interrupts).rest task := by
  cases task with
  | notifier index =>
      cases call with
      | notify => exact notifyCall_triple index
      | drain => simp [wakeSystem, wakeMayStart] at allowed
  | drainer =>
      cases call with
      | notify => simp [wakeSystem, wakeMayStart] at allowed
      | drain => exact drainCall_triple

theorem wake_account (room : 1 ≤ limit) {config : Config WakeOp WakeTask WakeState}
    (run : (wakeSystem backend limit interrupts).Reachable wakeStart config) :
    WakeAccount config.shared := by
  have sound : Sound (wakeDiscipline backend room interrupts) wakeStart :=
    .ofIdle wakeAccount_created (fun _ => rfl) fun _ _ => rfl
  exact (sound.reachable (wake_calls room) run).inv

/-! Every notify is answered. -/

theorem unanswered_of_wrote {since rest : List (WakeTask × WakeEvent)} {task : WakeTask}
    {stored : Bool} (wrote : (task, .wrote stored) ∈ since)
    (nothing : ∀ count, (.drainer, .drainReturned (.ok count)) ∈ since → count = 0) :
    unanswered (since ++ rest) = true := by
  induction since with
  | nil => simp at wrote
  | cons entry later ih =>
      obtain ⟨owner, event⟩ := entry
      have others : ∀ count, (.drainer, .drainReturned (.ok count)) ∈ later → count = 0 :=
        fun count member => nothing count (List.mem_cons_of_mem _ member)
      have before : (∀ stored', event ≠ .wrote stored') → unanswered (later ++ rest) = true := by
        intro different
        refine ih ?_ others
        rcases List.mem_cons.mp wrote with same | earlier
        · exact absurd (Prod.mk.inj same).2.symm (different stored)
        · exact earlier
      cases event with
      | wrote stored' => rfl
      | notifyCalled => exact before (by simp)
      | notifyReturned result => exact before (by simp)
      | drainCalled => exact before (by simp)
      | drainReturned result =>
          cases result with
          | error kind => cases owner <;> exact before (by simp)
          | ok count =>
              cases owner with
              | notifier index => exact before (by simp)
              | drainer =>
                  have none := nothing count (List.mem_cons_self ..)
                  rw [List.cons_append, unanswered, before (by simp), none]
                  rfl

/-- A notify that has returned when a drain returns: the drain found something, or one that
returned after the notify began did, or a wakeup is pending. -/
def Covered (state : WakeState) : Prop :=
  ∀ count task result since before,
    state.history = (.drainer, .drainReturned (.ok count)) :: since ++
      (task, .notifyCalled) :: before →
    (task, .notifyReturned result) ∈ since →
    0 < count ∨ (∃ found, 0 < found ∧ (.drainer, .drainReturned (.ok found)) ∈ since) ∨
      0 < state.pending

theorem WakeAccount.covered {state : WakeState} (accounted : WakeAccount state) :
    Covered state := by
  intro count task result since before split returned
  by_cases positive : 0 < count
  · exact .inl positive
  by_cases found : ∃ found, 0 < found ∧ (.drainer, .drainReturned (.ok found)) ∈ since
  · exact .inr (.inl found)
  refine .inr (.inr ?_)
  obtain ⟨stored, wrote⟩ := accounted.written task result (_ :: since) before
    split (List.mem_cons_of_mem _ returned)
  have owed : unanswered state.history = true := by
    rw [split]
    refine unanswered_of_wrote wrote ?_
    intro other member
    rcases List.mem_cons.mp member with same | earlier
    · have equal : other = count := by simpa using same
      omega
    · by_contra some
      exact found ⟨other, Nat.pos_of_ne_zero some, earlier⟩
  have settled := accounted.settled _ _ split
  have pending := accounted.owed owed
  omega

end Qlaster
