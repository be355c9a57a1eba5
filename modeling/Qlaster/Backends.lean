import Qlaster.SelfPipe

/-!
Every run of the self-pipe is matched, call by call, by a run of the eventfd. The eventfd's
calls make their system calls when the pipe's have had their effect: a notify when it has
written, a drain when it has read for the last time.
-/

namespace Qlaster

open Interleaving

/-! Where the tasks can stand. -/

def notifying : Program WakeOp Unit := (onFd writeLoop).bind notifyRest

def afterWriteTurn : Sum Unit (Except IoErrorKind Unit) → Program WakeOp Unit
  | .inl _ => notifying
  | .inr result => notifyRest result

def writing : Program WakeOp Unit := .request .write fun reply => afterWriteTurn (afterWrite reply)

def draining (total : Nat) : Program WakeOp Unit := (onFd (SelfPipe.drainFrom total)).bind drainRest

def afterReadTurn : Sum Nat (Except IoErrorKind Nat) → Program WakeOp Unit
  | .inl total => draining total
  | .inr result => drainRest result

def readingFrom (total : Nat) : Program WakeOp Unit :=
  .request (.read SelfPipe.drainBuf) fun reply => afterReadTurn (SelfPipe.afterRead total reply)

def eventfdDraining : Program WakeOp Unit := (onFd EventFd.drain).bind drainRest

variable {backend : Backend} {limit : Nat} {interrupts : Nat → Bool} {task : WakeTask}
  {state after : WakeState} {later : Program WakeOp Unit}

theorem notifying_advances
    (advances : (wakeSystem backend limit interrupts).Advances task notifying state later after) :
    later = writing ∧ after = state := by
  obtain ⟨rfl, same⟩ := advances
  refine ⟨?_, same⟩
  unfold Program.unrolled writing
  simp only [Program.bind_eq, Program.pure_eq, Program.perform, Program.bind,
    Program.lift, FdOp.noted]
  congr 1
  funext reply
  cases afterWrite reply <;> rfl

theorem draining_advances {total : Nat}
    (advances : (wakeSystem backend limit interrupts).Advances task (draining total) state
      later after) :
    later = readingFrom total ∧ after = state := by
  obtain ⟨rfl, same⟩ := advances
  refine ⟨?_, same⟩
  unfold Program.unrolled readingFrom
  simp only [Program.bind_eq, Program.pure_eq, Program.perform, Program.bind,
    Program.lift, FdOp.noted]
  congr 1
  funext reply
  cases SelfPipe.afterRead total reply <;> rfl

theorem mark_advances {event : WakeEvent} {next : Unit → Program WakeOp Unit}
    (advances : (wakeSystem backend limit interrupts).Advances task (.request (.note event) next)
      state later after) :
    later = next () ∧ after = state.noted task event := by
  obtain ⟨_, reply, executed, rfl⟩ := advances
  exact ⟨rfl, (wake_after executed).symm⟩

theorem writing_advances
    (advances : (wakeSystem backend limit interrupts).Advances task writing state later after) :
    (later = notifying ∧ after = state.tried) ∨
      (later = notifyRest (.ok ()) ∧ after = state.wrote limit task) := by
  obtain ⟨_, reply, executed, rfl⟩ := advances
  have replied : state.exec backend limit interrupts task .write = (reply, after) :=
    Option.some.inj executed
  simp only [WakeState.exec] at replied
  repeat' split at replied
  all_goals obtain ⟨rfl, rfl⟩ := Prod.mk.inj replied
  · exact .inl ⟨rfl, rfl⟩
  · exact .inr ⟨rfl, rfl⟩
  · exact .inr ⟨rfl, rfl⟩

theorem readingFrom_advances {total : Nat}
    (advances : (wakeSystem .pipe limit interrupts).Advances task (readingFrom total) state
      later after) :
    after.history = state.history ∧
      ((∃ count, later = draining (total + count) ∧ after.pending + count = state.pending) ∨
        (later = drainRest (.ok (total + state.pending)) ∧ after.pending = 0)) := by
  obtain ⟨_, reply, executed, replied⟩ := advances
  obtain rfl : (state.exec .pipe limit interrupts task (.read SelfPipe.drainBuf)).1 = reply :=
    congrArg Prod.fst (Option.some.inj executed)
  obtain rfl := wake_after executed
  simp only [WakeState.exec] at replied ⊢
  split at replied
  · rename_i interrupted
    simp only [interrupted, if_true]
    exact ⟨rfl, .inl ⟨0, replied, rfl⟩⟩
  · rename_i clear
    simp only [clear]
    split at replied
    · rename_i empty
      simp only [empty, if_true]
      exact ⟨rfl, .inr ⟨replied, empty⟩⟩
    · rename_i filled
      simp only [filled, if_false]
      have positive : 0 < Backend.pipe.takes SelfPipe.drainBuf state.pending :=
        Backend.pipe.takes_pos (by decide) filled
      have within := Backend.pipe.takes_le SelfPipe.drainBuf state.pending
      simp only [SelfPipe.afterRead_done total positive] at replied
      refine ⟨rfl, ?_⟩
      split at replied
      · rename_i short
        have whole : Backend.pipe.takes SelfPipe.drainBuf state.pending = state.pending := by
          simp only [Backend.takes] at short ⊢
          omega
        rw [whole] at replied ⊢
        exact .inr ⟨replied, Nat.sub_self _⟩
      · exact .inl ⟨_, replied, Nat.sub_add_cancel within⟩

/-! What is related. -/

def Unsaturated (history : List (WakeTask × WakeEvent)) :
    Prop := ∀ task, (task, .wrote false) ∉ history

def Agree (pipe eventfd : List (WakeTask × WakeEvent)) (found found' : Nat) : Prop :=
  (0 < found ↔ 0 < found') ∧ (Unsaturated pipe → Unsaturated eventfd → found = found')

/-- The same calls return in the same order, and the drains agree. -/
inductive Corresponds : List (WakeTask × WakeEvent) → List (WakeTask × WakeEvent) → Prop
  | nil : Corresponds [] []
  | notifyCalled {pipe eventfd} (task : WakeTask) : Corresponds pipe eventfd →
      Corresponds ((task, .notifyCalled) :: pipe) ((task, .notifyCalled) :: eventfd)
  | wrote {pipe eventfd} (task : WakeTask) (stored stored' : Bool) : Corresponds pipe eventfd →
      Corresponds ((task, .wrote stored) :: pipe) ((task, .wrote stored') :: eventfd)
  | notifyReturned {pipe eventfd} (task : WakeTask) : Corresponds pipe eventfd →
      Corresponds ((task, .notifyReturned (.ok ())) :: pipe)
        ((task, .notifyReturned (.ok ())) :: eventfd)
  | drainCalled {pipe eventfd} (task : WakeTask) : Corresponds pipe eventfd →
      Corresponds ((task, .drainCalled) :: pipe) ((task, .drainCalled) :: eventfd)
  | drainReturned {pipe eventfd} (task : WakeTask) {found found' : Nat} : Corresponds pipe eventfd →
      Agree pipe eventfd found found' →
      Corresponds ((task, .drainReturned (.ok found)) :: pipe)
        ((task, .drainReturned (.ok found')) :: eventfd)

inductive NotifyPoint : Program WakeOp Unit → Program WakeOp Unit → Prop
  | idle : NotifyPoint (.done ()) (.done ())
  | called : NotifyPoint (wakeProgram .pipe .notify) (wakeProgram .eventfd .notify)
  | notifying : NotifyPoint notifying notifying
  | writing : NotifyPoint writing notifying
  | returning : NotifyPoint (notifyRest (.ok ())) (notifyRest (.ok ()))

/-- Until the pipe's drain has read for the last time, what it has read counts as pending. -/
inductive DrainPoint (pipe eventfd : WakeState) : Program WakeOp Unit → Program WakeOp Unit → Prop
  | idle : Agree pipe.history eventfd.history pipe.pending eventfd.pending →
      DrainPoint pipe eventfd (.done ()) (.done ())
  | called : Agree pipe.history eventfd.history pipe.pending eventfd.pending →
      DrainPoint pipe eventfd (wakeProgram .pipe .drain) (wakeProgram .eventfd .drain)
  | draining (total : Nat) :
    Agree pipe.history eventfd.history (total + pipe.pending) eventfd.pending →
      DrainPoint pipe eventfd (draining total) eventfdDraining
  | reading (total : Nat) :
    Agree pipe.history eventfd.history (total + pipe.pending) eventfd.pending →
      DrainPoint pipe eventfd (readingFrom total) eventfdDraining
  | returning (found found' : Nat) : Agree pipe.history eventfd.history found found' →
      Agree pipe.history eventfd.history pipe.pending eventfd.pending →
      DrainPoint pipe eventfd (drainRest (.ok found)) (drainRest (.ok found'))

structure Related (config config' : Config WakeOp WakeTask WakeState) : Prop where
  history : Corresponds config.shared.history config'.shared.history
  notifiers : ∀ index, NotifyPoint (config.pool (.notifier index)) (config'.pool (.notifier index))
  drainer : DrainPoint config.shared config'.shared (config.pool .drainer) (config'.pool .drainer)

theorem related_start : Related wakeStart wakeStart where
  history := .nil
  notifiers _ := .idle
  drainer := .idle ⟨Iff.rfl, fun _ _ => rfl⟩

/-! How the numbers stay in agreement. -/

theorem Agree.mono {pipe eventfd pipe' eventfd' : List (WakeTask × WakeEvent)} {found found' : Nat}
    (agree : Agree pipe eventfd found found') (grown : pipe ⊆ pipe') (grown' : eventfd ⊆ eventfd') :
    Agree pipe' eventfd' found found' :=
  ⟨agree.1, fun unsaturated unsaturated' =>
    agree.2 (fun task member => unsaturated task (grown member)) fun task member =>
      unsaturated' task (grown' member)⟩

theorem wrote_pending (state : WakeState) {limit : Nat} (room : 1 ≤ limit) (task : WakeTask) :
    0 < (state.wrote limit task).pending ∧ state.history ⊆ (state.wrote limit task).history ∧
      (Unsaturated (state.wrote limit task).history →
        (state.wrote limit task).pending = state.pending + 1) := by
  unfold WakeState.wrote
  split
  · rename_i full
    refine ⟨?_, fun _ member => List.mem_cons_of_mem _ member, fun unsaturated => ?_⟩
    · change 0 < state.pending
      omega
    · exact absurd (List.mem_cons_self ..) (unsaturated task)
  · exact ⟨Nat.succ_pos _, fun _ member => List.mem_cons_of_mem _ member, fun _ => rfl⟩

theorem Agree.wrote {pipe eventfd : WakeState} {total capacity limit : Nat} (room : 1 ≤ capacity)
    (room' : 1 ≤ limit) (task : WakeTask)
    (agree : Agree pipe.history eventfd.history (total + pipe.pending) eventfd.pending) :
    Agree (pipe.wrote capacity task).history (eventfd.wrote limit task).history
      (total + (pipe.wrote capacity task).pending) (eventfd.wrote limit task).pending := by
  obtain ⟨filled, grown, stored⟩ := wrote_pending pipe room task
  obtain ⟨filled', grown', stored'⟩ := wrote_pending eventfd room' task
  refine ⟨⟨fun _ => filled', fun _ => by omega⟩, fun unsaturated unsaturated' => ?_⟩
  have before := (agree.mono grown grown').2 unsaturated unsaturated'
  rw [stored unsaturated, stored' unsaturated']
  omega

section Steps

variable {capacity limit : Nat} {interrupts interrupts' : Nat → Bool}
  {config config' : Config WakeOp WakeTask WakeState}

theorem NotifyPoint.update {pool pool' : WakeTask → Program WakeOp Unit}
    (points : ∀ index, NotifyPoint (pool (.notifier index)) (pool' (.notifier index))) {index : Nat}
    {program program' : Program WakeOp Unit} (point : NotifyPoint program program') (other : Nat) :
    NotifyPoint (Function.update pool (.notifier index) program (.notifier other))
      (Function.update pool' (.notifier index) program' (.notifier other)) := by
  by_cases same : other = index
  · subst other
    simpa only [Function.update_self] using point
  · have different : WakeTask.notifier other ≠ .notifier index := by simpa using same
    simpa only [Function.update_of_ne different] using points other

theorem DrainPoint.marked {pipe eventfd pipe' eventfd' : WakeState}
    {program program' : Program WakeOp Unit}
    (point : DrainPoint pipe eventfd program program') (grown : pipe.history ⊆ pipe'.history)
    (grown' : eventfd.history ⊆ eventfd'.history) (pending : pipe'.pending = pipe.pending)
    (pending' : eventfd'.pending = eventfd.pending) :
    DrainPoint pipe' eventfd' program program' := by
  cases point with
  | idle agree => exact .idle (pending ▸ pending' ▸ agree.mono grown grown')
  | called agree => exact .called (pending ▸ pending' ▸ agree.mono grown grown')
  | draining total agree => exact .draining total (pending ▸ pending' ▸ agree.mono grown grown')
  | reading total agree => exact .reading total (pending ▸ pending' ▸ agree.mono grown grown')
  | returning found found' results agree =>
      exact .returning found found' (results.mono grown grown')
        (pending ▸ pending' ▸ agree.mono grown grown')

theorem DrainPoint.wrote {pipe eventfd : WakeState} {program program' : Program WakeOp Unit}
    (point : DrainPoint pipe eventfd program program') (room : 1 ≤ capacity) (room' : 1 ≤ limit)
    (task : WakeTask) :
    DrainPoint (pipe.wrote capacity task) (eventfd.wrote limit task) program program' := by
  have idle : Agree pipe.history eventfd.history pipe.pending eventfd.pending →
      Agree (pipe.wrote capacity task).history (eventfd.wrote limit task).history
        (pipe.wrote capacity task).pending (eventfd.wrote limit task).pending := by
    intro agree
    rw [← Nat.zero_add pipe.pending] at agree
    have grown := agree.wrote room room' task
    rwa [Nat.zero_add] at grown
  cases point with
  | idle agree => exact .idle (idle agree)
  | called agree => exact .called (idle agree)
  | draining total agree => exact .draining total (agree.wrote room room' task)
  | reading total agree => exact .reading total (agree.wrote room room' task)
  | returning found found' results agree =>
      refine .returning found found' (results.mono ?_ ?_) (idle agree)
      · exact (wrote_pending pipe room task).2.1
      · exact (wrote_pending eventfd room' task).2.1

theorem Related.ofNotifier (related : Related config config') {index : Nat}
    {program program' : Program WakeOp Unit}
    {shared shared' : WakeState} (history : Corresponds shared.history shared'.history)
    (point : NotifyPoint program program')
    (drainer : DrainPoint shared shared' (config.pool .drainer) (config'.pool .drainer)) :
    Related ⟨shared, Function.update config.pool (.notifier index) program⟩
      ⟨shared', Function.update config'.pool (.notifier index) program'⟩ where
  history := history
  notifiers := NotifyPoint.update related.notifiers point
  drainer := by
    simpa only [ne_eq, reduceCtorEq, not_false_eq_true, Function.update_of_ne] using drainer

theorem Related.ofDrainer (related : Related config config')
    {program program' : Program WakeOp Unit}
    {shared shared' : WakeState} (history : Corresponds shared.history shared'.history)
    (point : DrainPoint shared shared' program program') :
    Related ⟨shared, Function.update config.pool .drainer program⟩
      ⟨shared', Function.update config'.pool .drainer program'⟩ where
  history := history
  notifiers index := by
    simpa only [ne_eq, reduceCtorEq, not_false_eq_true,
      Function.update_of_ne] using related.notifiers index
  drainer := by simpa only [Function.update_self] using point

theorem wrote_corresponds {pipe eventfd : WakeState}
    (history : Corresponds pipe.history eventfd.history) (task : WakeTask) :
    Corresponds (pipe.wrote capacity task).history (eventfd.wrote limit task).history := by
  unfold WakeState.wrote
  split <;> split <;> exact .wrote task _ _ history

theorem subset_cons (entry : WakeTask × WakeEvent) (history : List (WakeTask × WakeEvent)) :
    history ⊆ entry :: history :=
  fun _ member => List.mem_cons_of_mem _ member

theorem mark_step {task : WakeTask} {event : WakeEvent} {next : Unit → Program WakeOp Unit}
    (running : config'.pool task = .request (.note event) next) :
    (wakeSystem .eventfd limit interrupts').Reachable config'
      ⟨config'.shared.noted task event, Function.update config'.pool task (next ())⟩ :=
  .step .initial (.exec () task (.note event) next () _ running rfl)

theorem Related.notifier (related : Related config config') (room : 1 ≤ capacity)
    (room' : 1 ≤ limit)
    (finitely : Finitely interrupts') {index : Nat} {later : Program WakeOp Unit}
    {shared : WakeState}
    (advances : (wakeSystem .pipe capacity interrupts).Advances (.notifier index)
      (config.pool (.notifier index)) config.shared later shared) :
    ∃ next, (wakeSystem .eventfd limit interrupts').Reachable config' next ∧
      Related ⟨shared, Function.update config.pool (.notifier index) later⟩ next := by
  generalize running : config.pool (.notifier index) = program at advances
  generalize running' : config'.pool (.notifier index) = program'
  have point : NotifyPoint program program' := running ▸ running' ▸ related.notifiers index
  cases point with
  | idle => exact advances.elim
  | called =>
      obtain ⟨rfl, rfl⟩ := mark_advances advances
      refine ⟨_, mark_step running', related.ofNotifier (.notifyCalled _ related.history)
        .notifying ?_⟩
      exact related.drainer.marked (subset_cons _ _) (subset_cons _ _) rfl rfl
  | notifying =>
      obtain ⟨rfl, rfl⟩ := notifying_advances advances
      refine ⟨config', .initial, ?_⟩
      rw [← System.update_running running']
      exact related.ofNotifier related.history .writing related.drainer
  | writing =>
      rcases writing_advances advances with ⟨rfl, rfl⟩ | ⟨rfl, rfl⟩
      · -- Interrupted: the eventfd's notify has not tried yet.
        refine ⟨config', .initial, ?_⟩
        rw [← System.update_running running']
        exact related.ofNotifier related.history .notifying
          (related.drainer.marked (fun _ member => member) (fun _ member => member) rfl rfl)
      · obtain ⟨result, _, after, ⟨rfl, same⟩, reached⟩ :=
          (writeLoop_alone finitely (.notifier index) (fun _ => ()) 0 config'.shared).reachable
            running'
        have pending : after.pending = (config'.shared.wrote limit (.notifier index)).pending :=
          (WakeState.mk.inj same).1
        have history : after.history = (config'.shared.wrote limit (.notifier index)).history :=
          (WakeState.mk.inj same).2.2.1
        refine ⟨_, reached, related.ofNotifier ?_ .returning ?_⟩
        · rw [history]
          exact wrote_corresponds related.history _
        · have wrote := related.drainer.wrote room room' (.notifier index)
          refine wrote.marked (fun _ member => member) ?_ rfl pending
          rw [history]
          exact fun _ member => member
  | returning =>
      obtain ⟨rfl, rfl⟩ := mark_advances advances
      refine ⟨_, mark_step running', related.ofNotifier (.notifyReturned _ related.history) .idle
        ?_⟩
      exact related.drainer.marked (subset_cons _ _) (subset_cons _ _) rfl rfl

theorem Related.draining (related : Related config config') (finitely : Finitely interrupts')
    {later : Program WakeOp Unit} {shared : WakeState}
    (advances : (wakeSystem .pipe capacity interrupts).Advances .drainer (config.pool .drainer)
      config.shared later shared) :
    ∃ next, (wakeSystem .eventfd limit interrupts').Reachable config' next ∧
      Related ⟨shared, Function.update config.pool .drainer later⟩ next := by
  generalize running : config.pool .drainer = program at advances
  generalize running' : config'.pool .drainer = program'
  have point : DrainPoint config.shared config'.shared program program' :=
    running ▸ running' ▸ related.drainer
  cases point with
  | idle agree => exact advances.elim
  | called agree =>
      obtain ⟨rfl, rfl⟩ := mark_advances advances
      refine ⟨_, mark_step running', related.ofDrainer (.drainCalled _ related.history)
        (.draining 0 ?_)⟩
      rw [Nat.zero_add]
      exact agree.mono (subset_cons _ _) (subset_cons _ _)
  | draining total agree =>
      obtain ⟨rfl, rfl⟩ := draining_advances advances
      refine ⟨config', .initial, ?_⟩
      rw [← System.update_running running']
      exact related.ofDrainer related.history (.reading total agree)
  | reading total agree =>
      obtain ⟨history, ⟨count, rfl, taken⟩ | ⟨rfl, empty⟩⟩ := readingFrom_advances advances
      · refine ⟨config', .initial, ?_⟩
        rw [← System.update_running running']
        refine related.ofDrainer (history ▸ related.history) (.draining (total + count) ?_)
        rw [history, show total + count + shared.pending = total + config.shared.pending by omega]
        exact agree
      · -- The last read: the eventfd's drain runs here.
        obtain ⟨result, _, after, ⟨rfl, same⟩, reached⟩ :=
          (eventfdDrain_alone finitely .drainer (fun _ => ()) 0 config'.shared).reachable running'
        have empty' : after.pending = 0 := (WakeState.mk.inj same).1
        have history' : after.history = config'.shared.history := (WakeState.mk.inj same).2.2.1
        refine ⟨_, reached, related.ofDrainer ?_ (.returning _ _ ?_ ?_)⟩
        · rw [history, history']
          exact related.history
        · rw [history, history']
          exact agree
        · rw [empty, empty']
          exact ⟨Iff.rfl, fun _ _ => rfl⟩
  | returning found found' results agree =>
      obtain ⟨rfl, rfl⟩ := mark_advances advances
      refine ⟨_, mark_step running', related.ofDrainer (.drainReturned _ related.history results)
        (.idle ?_)⟩
      exact agree.mono (subset_cons _ _) (subset_cons _ _)

theorem NotifyPoint.eq_done {program' : Program WakeOp Unit} {program : Program WakeOp Unit}
    (point : NotifyPoint program program') (idle : program = .done ()) : program' = .done () := by
  cases point with
  | idle => rfl
  | called => exact absurd (congrArg Program.isDone idle) Bool.false_ne_true
  | notifying => exact absurd (congrArg Program.isDone idle) Bool.false_ne_true
  | writing => exact absurd (congrArg Program.isDone idle) Bool.false_ne_true
  | returning => exact absurd (congrArg Program.isDone idle) Bool.false_ne_true

theorem DrainPoint.eq_done {pipe eventfd : WakeState} {program program' : Program WakeOp Unit}
    (point : DrainPoint pipe eventfd program program') (idle : program = .done ()) :
    program' = .done () ∧ Agree pipe.history eventfd.history pipe.pending eventfd.pending := by
  cases point with
  | idle agree => exact ⟨rfl, agree⟩
  | called agree => exact absurd (congrArg Program.isDone idle) Bool.false_ne_true
  | draining total agree => exact absurd (congrArg Program.isDone idle) Bool.false_ne_true
  | reading total agree => exact absurd (congrArg Program.isDone idle) Bool.false_ne_true
  | returning found found' results agree =>
    exact absurd (congrArg Program.isDone idle) Bool.false_ne_true

theorem Related.started (related : Related config config') {task : WakeTask} {call : WakeCall}
    (idle : config.pool task = .done ()) (allowed : wakeMayStart task call = true) :
    ∃ next, (wakeSystem .eventfd limit interrupts').Reachable config' next ∧
      Related { config with pool := Function.update config.pool task (wakeProgram .pipe call) }
        next := by
  cases task with
  | notifier index =>
      cases call with
      | drain => simp [wakeMayStart] at allowed
      | notify =>
          have idle' := (related.notifiers index).eq_done idle
          refine ⟨_, .step .initial (.start (.notifier index) .notify idle' rfl), ?_⟩
          exact related.ofNotifier related.history .called related.drainer
  | drainer =>
      cases call with
      | notify => simp [wakeMayStart] at allowed
      | drain =>
          obtain ⟨idle', agree⟩ := related.drainer.eq_done idle
          refine ⟨_, .step .initial (.start .drainer .drain idle' rfl), ?_⟩
          exact related.ofDrainer related.history (.called agree)

end Steps

theorem pipe_simulation {capacity limit : Nat} {interrupts interrupts' : Nat → Bool}
    (room : 1 ≤ capacity) (room' : 1 ≤ limit) (finitely : Finitely interrupts') :
    System.Simulation (wakeSystem .pipe capacity interrupts) (wakeSystem .eventfd limit interrupts')
      Related where
  matched := by
    intro before after other related step
    rcases step.advances with ⟨task, call, idle, allowed, rfl⟩ | ⟨task, later, shared,
      advances, rfl⟩
    · exact related.started idle allowed
    · cases task with
      | notifier index => exact related.notifier room room' finitely advances
      | drainer => exact related.draining finitely advances

/-- From here a drain that no notify is interleaved with comes to its end, returns `count` and
leaves nothing pending. -/
def DrainsAlone (system : System WakeOp WakeTask WakeState Unit WakeCall)
    (config : Config WakeOp WakeTask WakeState) (count : Nat) : Prop :=
  ∃ steps final, system.schedule config
    (.start .drainer .drain :: List.replicate steps (.step .drainer ())) =
      some final ∧
    final.shared.history = (.drainer, .drainReturned (.ok count)) :: (.drainer, .drainCalled) ::
      config.shared.history ∧
    final.shared.pending = 0 ∧ final.pool = config.pool

theorem drains_alone {backend : Backend} {limit : Nat} {interrupts : Nat → Bool}
    (finitely : Finitely interrupts)
    {config : Config WakeOp WakeTask WakeState} (idle : config.pool .drainer = .done ()) :
    DrainsAlone (wakeSystem backend limit interrupts) config config.shared.pending := by
  have whole : (wakeSystem backend limit interrupts).Alone .drainer (fun _ => ())
    (wakeProgram backend .drain) 0
      config.shared fun _ _ after =>
        after.history = (.drainer, .drainReturned (.ok config.shared.pending)) ::
          (.drainer, .drainCalled) :: config.shared.history ∧ after.pending = 0 := by
    refine .request rfl ((drain_alone finitely .drainer _ _ _).bind ?_)
    rintro result tick after ⟨rfl, same⟩
    obtain ⟨pending, _, history, _⟩ := WakeState.mk.inj same
    refine .request rfl (.done ⟨?_, pending⟩)
    change _ :: after.history = _
    rw [show after.history = _ from history]
    rfl
  obtain ⟨_, steps, after, ⟨history, pending⟩, ran⟩ := whole.scheduled config.pool .done
  rw [Program.bind_done, List.map_const', List.length_range'] at ran
  refine ⟨steps, ⟨after, config.pool⟩, ?_, history, pending, rfl⟩
  have started : (wakeSystem backend limit interrupts).command config (.start .drainer .drain) =
      some ⟨config.shared, Function.update config.pool .drainer (wakeProgram backend .drain)⟩ := by
    simp only [System.command, idle]
    rfl
  rw [System.schedule, started, Option.bind_some, ran, ← idle, Function.update_eq_self]

/-- The self-pipe simulates the eventfd: whatever the pipe's capacity, the counter's limit and
the interruptions, a run of the pipe is matched by a run of the eventfd. -/
theorem selfPipe_simulates {capacity limit : Nat} {interrupts interrupts' : Nat → Bool}
    (room : 1 ≤ capacity)
    (room' : 1 ≤ limit) (finitely : Finitely interrupts) (finitely' : Finitely interrupts')
    {config : Config WakeOp WakeTask WakeState}
    (run : (wakeSystem .pipe capacity interrupts).Reachable wakeStart config) :
    ∃ config', (wakeSystem .eventfd limit interrupts').Reachable wakeStart config' ∧
      Corresponds config.shared.history config'.shared.history ∧
      (config.pool .drainer = .done () → config'.pool .drainer = .done () ∧
        ∃ found found', Agree config.shared.history config'.shared.history found found' ∧
          DrainsAlone (wakeSystem .pipe capacity interrupts) config found ∧
          DrainsAlone (wakeSystem .eventfd limit interrupts') config' found') ∧
      Covered config.shared ∧ Covered config'.shared := by
  have simulation : System.Simulation (wakeSystem .pipe capacity interrupts)
      (wakeSystem .eventfd limit interrupts') Related := pipe_simulation room room' finitely'
  obtain ⟨config', run', related⟩ := simulation.reachable related_start run
  refine ⟨config', run', related.history, ?_, (wake_account room run).covered,
    (wake_account room' run').covered⟩
  intro idle
  obtain ⟨idle', agree⟩ := related.drainer.eq_done idle
  exact ⟨idle', _, _, agree, drains_alone finitely idle, drains_alone finitely' idle'⟩

def everyThird (attempt : Nat) : Bool := attempt % 3 == 0

theorem everyThird_finitely : Finitely everyThird := by
  intro attempt
  refine ⟨3 * attempt + 1, by omega, ?_⟩
  simp only [everyThird, beq_eq_false_iff_ne]
  omega

-- Two notifies on a pipe of one byte, and a drain that a third one runs into.
theorem selfPipe_simulates_full :
    ∃ config config', (wakeSystem .pipe 1 everyThird).Reachable wakeStart config ∧
      config.shared.pending = 0 ∧ storedIn config.shared.history = 1 ∧
      (wakeSystem .eventfd 5 everyThird).Reachable wakeStart config' ∧
      Corresponds config.shared.history config'.shared.history ∧ config'.pool .drainer = .done () ∧
      Covered config.shared := by
  have ran : ((wakeSystem .pipe 1 everyThird).schedule wakeStart
      (.start (.notifier 0) .notify :: List.replicate 6 (.step (.notifier 0) ()) ++
        .start (.notifier 1) .notify :: List.replicate 4 (.step (.notifier 1) ()) ++
        .start .drainer .drain :: List.replicate 3 (.step .drainer ()) ++
        .start (.notifier 2) .notify :: List.replicate 4 (.step (.notifier 2) ()) ++
        List.replicate 3 (.step .drainer ()))).any
          (fun config => config.shared.pending = 0 ∧ storedIn config.shared.history = 1 ∧
            (config.pool .drainer).isDone = true ∧ returnedIn config.shared.history = 1) =
              true := by
    decide +kernel
  obtain ⟨config, run, checked⟩ := System.schedule_finds ran
  obtain ⟨pending, stored, idle, _⟩ := of_decide_eq_true checked
  obtain ⟨config', run', corresponds, alone, covered, _⟩ :=
    selfPipe_simulates (by decide) (show 1 ≤ 5 by decide) everyThird_finitely
      everyThird_finitely run
  exact ⟨config, config', run, pending, stored, run', corresponds, (alone (Program.eq_done idle)).1,
    covered⟩

end Qlaster
