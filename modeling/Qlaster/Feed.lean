import Qlaster.Delivery
import Qlaster.FeedCore
import Qlaster.Refining
import Qlaster.Routine

/-!
The whole process: what is published on a stream is dispatched once and in order, but for what
the dispatcher is told it has missed, and reaches the clients in that order.
-/

namespace Qlaster

open Interleaving Interleaving.Discipline Broadcast

/-! The process runs the control plane. -/

section
variable {control : Control} {feeds : Feeds}

def OnFeed : {β : Type} → ProcessOp β → Prop
  | _, .feed _ _ => True
  | _, .control _ => False

theorem exec_control {choice : ControlChoice} {task : ControlTask} {β : Type} {op : ControlOp β}
    {before after : ProcessState feeds} {reply : β}
    (executed : before.exec choice (.control task) (.control op) = some (reply, after)) :
    ∃ control, before.control.exec choice task op = some (reply, control) ∧
      after = { before with control := control } := by
  simp only [ProcessState.exec] at executed
  split at executed
  · simp at executed
  · rename_i found control done
    obtain ⟨rfl, rfl⟩ := Prod.mk.inj (Option.some.inj executed)
    exact ⟨control, done, rfl⟩

theorem exec_feed {choice : ControlChoice} {task : ProcessTask} {kind : Kind} {β : Type}
    {op : FeedOp kind.Payload β} {before after : ProcessState feeds} {reply : β}
    (executed : before.exec choice task (.feed kind op) = some (reply, after)) :
    ∃ feed, (before.feeds kind).exec op = some (reply, feed) ∧
      after = { before with feeds := Function.update before.feeds kind feed } := by
  simp only [ProcessState.exec] at executed
  split at executed
  · simp at executed
  · rename_i found feed done
    obtain ⟨rfl, rfl⟩ := Prod.mk.inj (Option.some.inj executed)
    exact ⟨feed, done, rfl⟩

theorem Kind.kind_update (kind : Kind) (value : kind.Payload) :
    (kind.update value).kind = kind := by
  cases kind <;> rfl

abbrev ServesControl (control : Control) (outsiders : Bool) (task : ControlTask) {α : Type}
    (program : Program ProcessOp α) : Prop :=
  Serves (controlSystem control outsiders) ProcessOp.control OnFeed task program

theorem onControl_serves {outsiders : Bool} {task : ControlTask} {call : ControlCall}
    (may : controlMayStart outsiders task call = true) :
    ServesControl control outsiders task (onControl (controlProgram control call)) :=
  .ofCall call may ((follows_lift (controlProgram control call)).mono fun _ _ _ => trivial)

theorem runDispatcher_serves (outsiders : Bool) (kind : Kind) :
    ServesControl control outsiders (.sender (.dispatcher kind)) (runDispatcher control kind) := by
  refine Serves.iterate fun _ => .own trivial fun received => ?_
  simp only [Program.bind]
  split
  · rename_i value
    have may :
        controlMayStart outsiders (.sender (.dispatcher kind))
        (.sender (.dispatch (kind.update value))) = true :=
      decide_eq_true (kind.kind_update value)
    exact (onControl_serves may).bind fun _ => .done _
  · exact .own trivial fun _ => .done _
  · exact .done _

theorem process_hosts (control : Control) (feeds : Feeds) (outsiders : Bool) :
    Hosting (processSystem control feeds outsiders) (controlSystem control outsiders)
      ProcessState.control ProcessTask.control ProcessOp.control OnFeed where
  injective := fun _ _ same => ProcessTask.control.inj same
  apart := by
    intro choice task β op before reply after mine executed
    cases op with
    | control op => exact mine.elim
    | feed kind op =>
        have ran : before.exec choice task (.feed kind op) = some (reply, after) := executed
        obtain ⟨feed, _, rfl⟩ := exec_feed ran
        rfl
  executed := by
    intro choice task β op before reply after executed
    obtain ⟨control, ran, rfl⟩ := exec_control executed
    exact ⟨choice, ran⟩
  serves := by
    intro task call may
    cases call with
    | control call =>
        have allowed : controlMayStart outsiders task call = true := by
          cases task with
          | sender actor =>
              cases actor with
              | dispatcher kind => cases may
              | _ => exact may
          | _ => exact may
        exact onControl_serves allowed
    | runDispatcher kind =>
        cases task with
        | sender actor =>
            cases actor with
            | dispatcher kind' =>
                obtain rfl : kind' = kind := of_decide_eq_true ((Bool.and_eq_true _ _).mp may).1
                exact runDispatcher_serves outsiders kind'
            | _ => cases may
        | _ => cases may
    | _ =>
        cases task with
        | sender actor => cases actor <;> cases may
        | _ => cases may
  bystands := by
    intro task call outsider may
    cases task with
    | control task => exact absurd rfl (outsider task)
    | publisher kind =>
        cases call <;> first
          | cases may
          | exact .perform trivial

end

theorem process_control {control : Control} {feeds : Feeds} {outsiders : Bool} {files : List Path}
    {config : Config ProcessOp ProcessTask (ProcessState feeds)}
    (run : (processSystem control feeds outsiders).Reachable (processStart feeds files) config) :
    ∃ pool, (controlSystem control outsiders).Reachable (controlStart files)
      ⟨config.shared.control, pool⟩ ∧
      ∀ task, config.pool (.control task) = .done () → pool task = .done () := by
  obtain ⟨pool, reached, plays⟩ := (process_hosts control feeds outsiders).reachable
    (fun _ => rfl) run
  refine ⟨pool, reached, fun task idle => ?_⟩
  have playing := plays task
  rw [idle] at playing
  exact playing.idle

/--
The whole process refines the control plane, and that the sender: however dispatchers are fed,
sockets fail and handlers are served, the two parts of the state are ones that their own calls
can bring about, and a task that has nothing to do has nothing to do in either.
-/
theorem process_refines (control : Control) (feeds : Feeds) (outsiders : Bool) (files : List Path)
    (config : Config ProcessOp ProcessTask (ProcessState feeds))
    (run : (processSystem control feeds outsiders).Reachable (processStart feeds files) config) :
    (∃ pool, (controlSystem control outsiders).Reachable (controlStart files)
      ⟨config.shared.control, pool⟩ ∧
      ∀ task, config.pool (.control task) = .done () → pool task = .done ()) ∧
    ∃ pool, (senderSystem control.sender).Reachable (senderStart files)
      ⟨config.shared.control.sender, pool⟩ ∧
      ∀ task, config.pool (.control (.sender task)) = .done () → pool task = .done () := by
  obtain ⟨pool, reached, idle⟩ := process_control run
  obtain ⟨pool', reached', idle'⟩ := control_sender reached
  exact ⟨⟨pool, reached, idle⟩, pool', reached', fun task resting =>
    idle' task (idle (.sender task) resting)⟩

abbrev ProcessCommand := System.Command ProcessTask ControlChoice ProcessCall

def advances (task : ProcessTask) (count : Nat) : List ProcessCommand :=
  List.replicate count (.step task {})

def publishSample : List ProcessCommand :=
  .start (.publisher .account) (.publish .account sampleAccountUpdate) :: advances
    (.publisher .account) 1

def sampleFeeds (capacity : ℕ+) : Feeds := setupSender (fun _ => queue) capacity

theorem sampleFeeds_lawful (capacity : ℕ+) : (sampleFeeds capacity).Lawful := fun _ => queue_lawful

-- A connection is there, and a dispatcher has pushed the update it received into its ring.
theorem process_refines_dispatched :
    ∃ config, (processSystem sampleControl (sampleFeeds 1) true).Reachable
      (processStart (sampleFeeds 1) []) config ∧
      (config.shared.control.sender.dispatched .account).map Dispatch.update =
        [.account sampleAccountUpdate] ∧
      (config.shared.control.sender.connections (0 : Fin 10)).map ManagedConnection.address =
        some 0 ∧
      (config.shared.control.sender.channels 0).queue ≠ [] ∧
      (∃ pool, (controlSystem sampleControl true).Reachable (controlStart [])
        ⟨config.shared.control, pool⟩ ∧
        ∀ task, config.pool (.control task) = .done () → pool task = .done ()) ∧
      ∃ pool, (senderSystem sampleControl.sender).Reachable (senderStart [])
        ⟨config.shared.control.sender, pool⟩ ∧
        ∀ task, config.pool (.control (.sender task)) = .done () → pool task = .done () := by
  have ran :
    ((processSystem sampleControl (sampleFeeds 1) true).schedule (processStart (sampleFeeds 1) [])
      ([.start (.control (.sender (.handler 0))) (.control (.sender (.subscribe sampleRequest)))] ++
        advances (.control (.sender (.handler 0))) 15 ++ publishSample ++
        [.start (.control (.sender (.dispatcher .account))) (.runDispatcher .account)] ++
        advances (.control (.sender (.dispatcher .account))) 21)).any (fun config =>
          (config.shared.control.sender.dispatched .account).map Dispatch.update =
            [.account sampleAccountUpdate] ∧
          (config.shared.control.sender.connections (0 : Fin 10)).map ManagedConnection.address =
            some 0 ∧
          (config.shared.control.sender.channels 0).queue ≠ []) = true := by
    decide +kernel
  obtain ⟨config, run, checked⟩ := System.schedule_finds ran
  obtain ⟨dispatched, here, queued⟩ := of_decide_eq_true checked
  exact ⟨config, run, dispatched, here, queued, process_refines sampleControl (sampleFeeds 1) true
    [] config run⟩

/-! The dispatches that have begun. -/

def SenderState.begun (state : SenderState) (kind : Kind) : List Update :=
  ((state.dispatched kind).map Dispatch.update).reverse

section
variable {choice : SenderChoice} {task : SenderTask} {β : Type} {op : SenderOp β}
  {before after : SenderState} {reply : β}

theorem currentDispatch_updates (state : SenderState) (task : SenderTask)
    {change : Dispatch → Dispatch}
    (same : ∀ dispatch, (change dispatch).update = dispatch.update) (kind : Kind) :
    (state.currentDispatch task change kind).map Dispatch.update = (state.dispatched kind).map
      Dispatch.update := by
  cases task with
  | dispatcher mine =>
      simp only [SenderState.currentDispatch]
      by_cases own : kind = mine
      · subst own
        rw [Function.update_self]
        cases state.dispatched kind with
        | nil => rfl
        | cons dispatch earlier => simp [same]
      · rw [Function.update_of_ne own]
  | _ => rfl

theorem exec_begun (quiet : beganUpdate op = none)
    (executed : before.exec choice task op = some (reply, after))
    (kind : Kind) : after.begun kind = before.begun kind := by
  have same : (after.dispatched kind).map Dispatch.update = (before.dispatched kind).map
      Dispatch.update := by
    cases op with
    | channel address op =>
        obtain ⟨_, channel, _, rfl⟩ := SenderState.execChannel_ring executed
        cases op with
        | tryWriteSlice bytes =>
            simp only [SenderState.recordPush]
            split
            · refine currentDispatch_updates before task (fun dispatch => ?_) kind
              rfl
            · rfl
        | _ => rfl
    | manager op =>
        simp only [SenderState.exec] at executed
        cases op with
        | loadFilter entry =>
            simp only [SenderState.execManager] at executed
            split at executed <;>
              simp only [reduceCtorEq, Option.some.injEq, Prod.mk.injEq] at executed
            obtain ⟨-, rfl⟩ := executed
            refine currentDispatch_updates before task (fun dispatch => ?_) kind
            split <;> rfl
        | compareAndSwap index current new =>
            simp only [SenderState.execManager] at executed
            split at executed <;> simp only [Option.some.injEq, Prod.mk.injEq] at executed <;>
              obtain ⟨-, rfl⟩ := executed
            · cases new <;> rfl
            · rfl
        | note note =>
            simp only [SenderState.execManager, Option.some.injEq, Prod.mk.injEq] at executed
            obtain ⟨-, rfl⟩ := executed
            cases note with
            | dispatchBegan update => cases quiet
            | provisioned result => rcases result with _ | ⟨_ | _⟩ <;> rfl
            | _ => rfl
        | _ =>
            simp only [SenderState.execManager] at executed
            repeat' split at executed
            all_goals simp only [reduceCtorEq, Option.some.injEq, Prod.mk.injEq] at executed
            all_goals obtain ⟨-, rfl⟩ := executed
            all_goals rfl
  rw [SenderState.begun, SenderState.begun, same]

theorem exec_begins {update : Update} (begins : beganUpdate op = some update)
    (executed : before.exec choice task op = some (reply, after)) (kind : Kind) :
    after.begun kind = before.begun kind ++ if update.kind = kind then [update] else [] := by
  unfold beganUpdate at begins
  split at begins
  · rename_i noted
    obtain rfl : noted = update := Option.some.inj begins
    simp only [SenderState.exec, SenderState.execManager, SenderState.record, Option.some.injEq,
      Prod.mk.injEq] at executed
    obtain ⟨-, rfl⟩ := executed
    by_cases own : noted.kind = kind
    · subst own
      simp [SenderState.begun]
    · simp [SenderState.begun, Function.update_of_ne (Ne.symm own), own]
  · simp at begins

end

/-! A dispatcher and its stream. -/

section
variable {feeds : Feeds}

/-- How far a dispatcher has come with what it has received: an update it has not begun to
dispatch, and a gap it has not yet reported. -/
structure Stage (kind : Kind) (pending : Option kind.Payload) (late : Option Nat)
    (state : ProcessState feeds) : Prop where
  begun : state.control.sender.begun kind ++ (pending.map kind.update).toList =
    (values (state.feeds kind).log).map kind.update
  warned : (state.feeds kind).warned ++ late.toList = lags (state.feeds kind).log

def dispatcherOf (kind : Kind) : ProcessTask := .control (.sender (.dispatcher kind))

def unsaidAt {α : Type} : {β : Type} → FeedOp α β → Option (Option Nat)
  | _, .recv => some none
  | _, .warnLagged skipped => some (some skipped)
  | _, _ => none

def feedGuard (task : ProcessTask) : {β : Type} → ProcessOp β → ProcessState feeds → Prop
  | _, .feed kind op, state =>
    ∀ late, unsaidAt op = some late → task = dispatcherOf kind ∧ Stage kind none late state
  | _, .control (.sender op), state => ∀ update, beganUpdate op = some update →
      ∃ kind value, task = dispatcherOf kind ∧ update = kind.update value ∧
        Stage kind (some value) none state
  | _, .control (.link _ _), _ => True

def Still (kind : Kind) : {β : Type} → ProcessOp β → Prop
  | _, .feed kind' op => kind' = kind → unsaidAt op = none
  | _, .control (.sender op) => ∀ update, beganUpdate op = some update → update.kind ≠ kind
  | _, .control (.link _ _) => True

def Feed.Genuine {α : Type} {channel : Interface α} (capacity : Nat) (feed : Feed channel) : Prop :=
  Transcript channel capacity feed.sent feed.closed feed.log feed.state

structure FeedInv (state : ProcessState feeds) : Prop where
  genuine : ∀ kind, (state.feeds kind).Genuine (feeds.room kind)
  staged : ∀ kind, ∃ pending late, Stage kind pending late state

end

section
variable {feeds : Feeds} {choice : ControlChoice} {task : ProcessTask} {β : Type} {op : ProcessOp β}
  {before after : ProcessState feeds} {reply : β}

theorem Feed.exec_kept {α : Type} {channel : Interface α} {op : FeedOp α β}
    {before after : Feed channel}
    (silent : unsaidAt op = none) (executed : before.exec op = some (reply, after)) :
    after.log = before.log ∧ after.warned = before.warned := by
  cases op with
  | send value =>
      simp only [Feed.exec] at executed
      split at executed <;> simp only [reduceCtorEq, Option.some.injEq, Prod.mk.injEq] at executed
      obtain ⟨-, rfl⟩ := executed
      exact ⟨rfl, rfl⟩
  | dropSenders =>
      simp only [Feed.exec, Option.some.injEq, Prod.mk.injEq] at executed
      obtain ⟨-, rfl⟩ := executed
      exact ⟨rfl, rfl⟩
  | recv => cases silent
  | warnLagged skipped => cases silent

theorem Stage.exec {kind : Kind} {pending : Option kind.Payload} {late : Option Nat}
    (stage : Stage kind pending late before)
    (still : Still kind op) (executed : before.exec choice task op = some (reply, after)) :
    Stage kind pending late after := by
  -- The stage of a stream changes with the reads of that stream and the dispatches of its kind
  -- only.
  cases op with
  | control op =>
      cases task with
      | publisher kind' => simp [ProcessState.exec] at executed
      | control task =>
          obtain ⟨control, ran, rfl⟩ := exec_control executed
          refine ⟨?_, stage.warned⟩
          cases op with
          | link connection op =>
              have ran' : before.control.exec choice task (.link connection op) = some
                (reply, control) := ran
              obtain ⟨link, _, rfl⟩ := exec_link ran'
              exact stage.begun
          | sender op =>
              cases task with
              | sender actor =>
                  obtain ⟨sender, ran', rfl⟩ := exec_sender ran
                  have same : sender.begun kind = before.control.sender.begun kind := by
                    cases begins : beganUpdate op with
                    | none => exact exec_begun begins ran' kind
                    | some update => simpa [still update begins] using exec_begins begins ran' kind
                  rw [same]
                  exact stage.begun
              | _ => simp [ControlState.exec] at ran
  | feed kind' op =>
      obtain ⟨feed, ran, rfl⟩ := exec_feed executed
      by_cases same : kind' = kind
      · subst same
        obtain ⟨log, warned⟩ := Feed.exec_kept (still rfl) ran
        refine ⟨?_, ?_⟩
        · simpa only [Function.update_self, log] using stage.begun
        · simpa only [Function.update_self, log, warned] using stage.warned
      · have apart := Function.update_of_ne (Ne.symm same) feed before.feeds
        refine ⟨?_, ?_⟩
        · simpa only [apart] using stage.begun
        · simpa only [apart] using stage.warned

theorem feedGuard_still {kind : Kind} (other : task ≠ dispatcherOf kind)
    (guarded : feedGuard task op before) : Still kind op := by
  cases op with
  | feed kind' op =>
      rintro rfl
      cases unsaid : unsaidAt op with
      | none => rfl
      | some late => exact absurd (guarded late unsaid).1 other
  | control op =>
      cases op with
      | link connection op => trivial
      | sender op =>
          intro update begins same
          obtain ⟨kind', value, mine, rfl, _⟩ := guarded update begins
          rw [kind'.kind_update value] at same
          exact other (same ▸ mine)

theorem Stage.received {kind : Kind} {result : Except RecvError kind.Payload}
    (stage : Stage kind none none before)
    (executed : before.exec choice task (.feed kind .recv) = some (result, after)) :
    Stage kind (valueOf result) (lagOf result) after := by
  obtain ⟨feed, ran, rfl⟩ := exec_feed executed
  simp only [Feed.exec] at ran
  split at ran <;> simp only [reduceCtorEq, Option.some.injEq, Prod.mk.injEq] at ran
  rename_i got queue taken
  obtain ⟨rfl, rfl⟩ := ran
  have begun : before.control.sender.begun kind = (values (before.feeds kind).log).map
      kind.update := by
    simpa using stage.begun
  have warned : (before.feeds kind).warned = lags (before.feeds kind).log := by
    simpa using stage.warned
  refine ⟨?_, ?_⟩
  · simp only [Function.update_self, values_snoc, List.map_append, begun]
    congr 1
    cases got <;> rfl
  · simp only [Function.update_self, lags_snoc, warned]

theorem Stage.said {kind : Kind} {skipped : Nat} {reply : Unit}
    (stage : Stage kind none (some skipped) before)
    (executed : before.exec choice task (.feed kind (.warnLagged skipped)) = some (reply, after)) :
    Stage kind none none after := by
  obtain ⟨feed, ran, rfl⟩ := exec_feed executed
  simp only [Feed.exec, Option.some.injEq, Prod.mk.injEq] at ran
  obtain ⟨-, rfl⟩ := ran
  refine ⟨?_, ?_⟩
  · simpa only [Function.update_self] using stage.begun
  · simpa only [Function.update_self, Option.toList_none, List.append_nil,
      Option.toList_some] using stage.warned

theorem Stage.begins {kind : Kind} {value : kind.Payload} {op : SenderOp β}
    (stage : Stage kind (some value) none before)
    (begins : beganUpdate op = some (kind.update value))
    (executed : before.exec choice task (.control (.sender op)) = some (reply, after)) :
    Stage kind none none after := by
  cases task with
  | publisher kind' => simp [ProcessState.exec] at executed
  | control task =>
      obtain ⟨control, ran, rfl⟩ := exec_control executed
      cases task with
      | sender actor =>
          obtain ⟨sender, ran', rfl⟩ := exec_sender ran
          refine ⟨?_, stage.warned⟩
          have grown := exec_begins begins ran' kind
          rw [if_pos (kind.kind_update value)] at grown
          have begun : before.control.sender.begun kind ++ [kind.update value] =
              (values (before.feeds kind).log).map kind.update := by
            simpa using stage.begun
          simpa [grown] using begun
      | _ => simp [ControlState.exec] at ran

theorem Feed.Genuine.exec {α : Type} {channel : Interface α} {capacity : Nat} {op : FeedOp α β}
    {before after : Feed channel} (genuine : before.Genuine capacity)
    (executed : before.exec op = some (reply, after)) : after.Genuine capacity := by
  unfold Feed.Genuine at genuine ⊢
  cases op with
  | send value =>
      simp only [Feed.exec] at executed
      split at executed <;> simp only [reduceCtorEq, Option.some.injEq, Prod.mk.injEq] at executed
      rename_i opened
      obtain ⟨-, rfl⟩ := executed
      rw [Bool.not_eq_true] at opened
      rw [opened] at genuine ⊢
      exact genuine.send value
  | dropSenders =>
      simp only [Feed.exec, Option.some.injEq, Prod.mk.injEq] at executed
      obtain ⟨-, rfl⟩ := executed
      exact genuine.dropSenders
  | recv =>
      simp only [Feed.exec] at executed
      split at executed <;> simp only [reduceCtorEq, Option.some.injEq, Prod.mk.injEq] at executed
      rename_i received
      obtain ⟨rfl, rfl⟩ := executed
      exact genuine.recv received
  | warnLagged skipped =>
      simp only [Feed.exec, Option.some.injEq, Prod.mk.injEq] at executed
      obtain ⟨-, rfl⟩ := executed
      exact genuine

theorem FeedInv.exec (inv : FeedInv before) (guarded : feedGuard task op before)
    (executed : before.exec choice task op = some (reply, after)) : FeedInv after := by
  refine ⟨fun kind => ?_, fun kind => ?_⟩
  · cases op with
    | control op =>
        cases task with
        | publisher kind' => simp [ProcessState.exec] at executed
        | control task =>
            obtain ⟨control, _, rfl⟩ := exec_control executed
            exact inv.genuine kind
    | feed kind' op =>
        obtain ⟨feed, ran, rfl⟩ := exec_feed executed
        by_cases same : kind' = kind
        · subst same
          simpa only [Function.update_self] using (inv.genuine kind').exec ran
        · simpa only [Function.update_of_ne (Ne.symm same)] using inv.genuine kind
  · by_cases still : Still kind op
    · obtain ⟨pending, late, stage⟩ := inv.staged kind
      exact ⟨pending, late, stage.exec still executed⟩
    · cases op with
      | feed kind' op =>
          obtain ⟨rfl, reads⟩ : kind' = kind ∧ ¬ unsaidAt op = none := by
            simpa [Still] using still
          cases op with
          | send value => exact absurd rfl reads
          | dropSenders => exact absurd rfl reads
          | recv => exact ⟨_, _, (guarded none rfl).2.received executed⟩
          | warnLagged skipped => exact ⟨_, _, (guarded (some skipped) rfl).2.said executed⟩
      | control op =>
          cases op with
          | link connection op => exact absurd trivial still
          | sender op =>
              obtain ⟨update, begins, rfl⟩ : ∃ update, beganUpdate op = some update ∧
                  update.kind = kind := by
                simpa [Still] using still
              obtain ⟨kind', value, -, rfl, stage⟩ := guarded update begins
              rw [kind'.kind_update value]
              exact ⟨_, _, stage.begins begins executed⟩

end

def feedRest {feeds : Feeds} : ProcessTask → ProcessState feeds → Prop
  | .control (.sender (.dispatcher kind)), state => Stage kind none none state
  | _, _ => True

def feeding (control : Control) (feeds : Feeds) (outsiders : Bool) :
    Discipline (processSystem control feeds outsiders) where
  inv := FeedInv
  guard task _ op := feedGuard task op
  rest := feedRest
  preserved := fun inv guarded executed => inv.exec guarded executed
  rest_stable := by
    intro choice task other β op state reply after different _ guarded executed rest
    unfold feedRest at rest ⊢
    split
    · exact rest.exec (feedGuard_still different guarded) executed
    · trivial

section
variable {control : Control} {feeds : Feeds} {outsiders : Bool} {task : ProcessTask}

theorem stage_stable (kind : Kind) (pending : Option kind.Payload) (late : Option Nat) :
    (feeding control feeds outsiders).Stable (dispatcherOf kind) (Stage kind pending late) := by
  intro before after step stage
  obtain ⟨_, other, choice, _, op, reply, different, guarded, executed⟩ := step
  exact stage.exec (feedGuard_still different guarded) executed

def BeginsNothing : {β : Type} → ControlOp β → Prop
  | _, .sender op => beganUpdate op = none
  | _, .link _ _ => True

def Tacit : {β : Type} → ProcessOp β → Prop
  | _, .feed _ op => unsaidAt op = none
  | _, .control op => BeginsNothing op

theorem Tacit.guard {β : Type} {op : ProcessOp β} (silent : Tacit op) (state : ProcessState feeds) :
    feedGuard task op state := by
  cases op with
  | feed kind op =>
      intro late unsaid
      cases silent.symm.trans unsaid
  | control op =>
      cases op with
      | link connection op => trivial
      | sender op =>
          intro update begins
          cases silent.symm.trans begins

theorem Tacit.still {β : Type} {op : ProcessOp β} (silent : Tacit op) (kind : Kind) :
    Still kind op := by
  cases op with
  | feed kind op => exact fun _ => silent
  | control op =>
      cases op with
      | link connection op => trivial
      | sender op =>
          intro update begins
          cases silent.symm.trans begins

theorem silent_triple {α : Type} {program : Program ProcessOp α} (silent : program.Only Tacit) :
    (feeding control feeds outsiders).Triple task (feedRest task) program fun _ =>
      feedRest task := by
  refine triple_only silent stable_rest (fun quiet _ _ => quiet.guard _) ?_
  intro choice β op before reply after quiet _ rest executed
  have ran : before.exec choice task op = some (reply, after) := executed
  unfold feedRest at rest ⊢
  split
  · exact rest.exec (quiet.still _) ran
  · trivial

/-! The programs of the control plane begin no dispatch. -/

theorem onLink_begins {α : Type} (connection : Nat) (program : Program LinkOp α) :
    (onLink connection program).Only BeginsNothing :=
  Program.lift_only (fun _ => trivial) program

theorem onSender_begins {α : Type} {program : Program SenderOp α} (none : BeginsNone program) :
    (onSender program).Only BeginsNothing := by
  refine Program.Only.lift ?_ none
  exact fun _ nothing => nothing

theorem onControl_silent {α : Type} {program : Program ControlOp α}
    (nothing : program.Only BeginsNothing) : (onControl program).Only Tacit := by
  refine Program.Only.lift ?_ nothing
  exact fun _ silent => silent

theorem handleFrameOf_begins (connection : Nat) :
    (handleFrameOf control connection).Only BeginsNothing := by
  refine (onLink_begins connection _).bind fun read => ?_
  split
  · trivial
  · trivial
  · refine (onLink_begins connection _).bind fun decoded => ?_
    cases decoded with
    | error error => trivial
    | ok frame =>
        cases frame with
        | ping ping =>
          exact (onSender_begins ((touchPing_handles ping).pieces.only Pieces.begins)).bind fun _ =>
            trivial
        | subscription request =>
            refine (onSender_begins
              ((upsertShm_handles control.sender request).pieces.only Pieces.begins)).bind
              fun result => ?_
            have noted : (noteCreated connection result).Only BeginsNothing := by
              unfold noteCreated
              split
              · exact onLink_begins connection _
              · trivial
            refine noted.bind fun _ => (onSender_begins (.perform rfl)).bind fun _ => ?_
            cases result with
            | error error => trivial
            | ok provision =>
                refine (onLink_begins connection _).bind fun sent => ?_
                cases sent <;> trivial

theorem controlProgram_begins {call : ControlCall}
    (other : ∀ update, call ≠ .sender (.dispatch update)) :
    (controlProgram control call).Only BeginsNothing := by
  cases call with
  | sender call =>
    exact onSender_begins (senderProgram_begins fun update same => other update (same ▸ rfl))
  | serve connection =>
      refine (onLink_begins connection _).bind fun _ => Program.Only.bind ?_ fun _ => trivial
      refine (Program.Only.iterate fun _ => handleFrameOf_begins connection).bind fun _ => ?_
      exact (onLink_begins connection _).bind fun _ => trivial
  | fail connection side => exact onLink_begins connection _
  | _ => exact (onLink_begins _ _).bind fun _ => trivial

/-! The loops of the dispatchers. -/

theorem stage_perform {kind : Kind} {β : Type} {op : ProcessOp β} {pending : Option kind.Payload}
    {late : Option Nat} {pending' : β → Option kind.Payload} {late' : β → Option Nat}
    (guarded : ∀ state : ProcessState feeds, Stage kind pending late state →
      feedGuard (dispatcherOf kind) op state)
    (effect : ∀ {choice : ControlChoice} {before : ProcessState feeds} {reply after},
      Stage kind pending late before →
      before.exec choice (dispatcherOf kind) op = some (reply, after) →
        Stage kind (pending' reply) (late' reply) after) :
    (feeding control feeds outsiders).Triple (dispatcherOf kind) (Stage kind pending late)
    (.perform op)
      fun reply => Stage kind (pending' reply) (late' reply) :=
  triple_perform (stage_stable kind _ _) (fun _ => stage_stable kind _ _)
    (fun state _ => guarded state) fun _ _ _ _ _ stage executed => effect stage executed

theorem dispatchReceived_triple (kind : Kind) (value : kind.Payload) :
    (feeding control feeds outsiders).Triple (dispatcherOf kind) (Stage kind (some value) none)
      (onControl (controlProgram control (.sender (.dispatch (kind.update value))))) fun _ =>
        Stage kind none none := by
  have begins :
    (feeding control feeds outsiders).Triple (dispatcherOf kind) (Stage kind (some value) none)
      (.perform (.control (.sender (.manager (.note (.dispatchBegan (kind.update value)))))))
      fun _ => Stage kind none none := by
    refine stage_perform ?_ fun stage executed => stage.begins rfl executed
    intro state stage update begun
    obtain rfl := Option.some.inj begun
    exact ⟨kind, value, rfl, rfl, stage⟩
  have serves := (dispatchUpdate_routine control.sender (kind.update value)).pieces.only
    Pieces.begins
  exact triple_bind begins fun _ => silent_triple (onControl_silent (onSender_begins serves))

theorem runDispatcher_triple (kind : Kind) :
    (feeding control feeds outsiders).Triple (dispatcherOf kind) (Stage kind none none)
    (runDispatcher control kind)
      fun _ => Stage kind none none := by
  have reads : (feeding control feeds outsiders).Triple (dispatcherOf kind) (Stage kind none none)
      (.perform (.feed kind .recv)) fun result => Stage kind (valueOf result) (lagOf result) := by
    refine stage_perform ?_ fun stage executed => stage.received executed
    intro state stage late unsaid
    obtain rfl := Option.some.inj unsaid
    exact ⟨rfl, stage⟩
  have reports : ∀ skipped, (feeding control feeds outsiders).Triple (dispatcherOf kind)
    (Stage kind none (some skipped))
      (.perform (.feed kind (.warnLagged skipped))) fun _ => Stage kind none none := by
    intro skipped
    refine stage_perform ?_ fun stage executed => stage.said executed
    intro state stage late unsaid
    obtain rfl := Option.some.inj unsaid
    exact ⟨rfl, stage⟩
  refine triple_loop (fun _ => stage_stable kind _ _) (triple_bind reads fun received => ?_)
  cases received with
  | ok value =>
      refine triple_bind (dispatchReceived_triple kind value) fun _ => ?_
      exact triple_done (stage_stable kind _ _) fun _ _ stage => stage
  | error error =>
      cases error with
      | lagged skipped =>
          refine triple_bind (reports skipped) fun _ => ?_
          exact triple_done (stage_stable kind _ _) fun _ _ stage => stage
      | closed => exact triple_done (stage_stable kind _ _) fun _ _ stage => stage

theorem processCall_triple (control : Control) (feeds : Feeds) (outsiders : Bool)
    (task : ProcessTask)
    (call : ProcessCall) (may : (processSystem control feeds outsiders).mayStart task call = true) :
    (feeding control feeds outsiders).Triple task (feedRest task) (processProgram control call)
      fun _ => feedRest task := by
  cases call with
  | runDispatcher kind =>
      have mine : task = dispatcherOf kind := by
        cases task with
        | publisher kind' => cases may
        | control task =>
            cases task with
            | sender actor =>
                cases actor with
                | dispatcher kind' =>
                    obtain rfl : kind' = kind := of_decide_eq_true ((Bool.and_eq_true _ _).mp may).1
                    rfl
                | _ => cases may
            | _ => cases may
      subst mine
      exact runDispatcher_triple kind
  | publish kind value => exact silent_triple (.perform rfl)
  | close kind => exact silent_triple (.perform rfl)
  | control call =>
      have other : ∀ update, call ≠ .sender (.dispatch update) := by
        rintro update rfl
        cases task with
        | publisher kind' => cases may
        | control task =>
            cases task with
            | sender actor =>
              cases actor <;>
                simp_all [processSystem, processMayStart, controlMayStart, senderMayStart]
            | _ => cases may
      exact silent_triple (onControl_silent (controlProgram_begins other))

end

/-! Every run. -/

section
variable {control : Control} {feeds : Feeds} {outsiders : Bool} {files : List Path}
  {config : Config ProcessOp ProcessTask (ProcessState feeds)}

theorem process_sound
    (run : (processSystem control feeds outsiders).Reachable (processStart feeds files) config) :
    Sound (feeding control feeds outsiders) config := by
  have started : ∀ kind, Stage kind none none (processStart feeds files).shared :=
    fun kind => ⟨rfl, rfl⟩
  refine Sound.reachable (processCall_triple control feeds outsiders) ?_ run
  refine Sound.ofIdle ⟨fun kind => .opened, fun kind => ⟨none, none, started kind⟩⟩ (fun _ => rfl)
    fun task => ?_
  change feedRest task _
  unfold feedRest
  split
  · exact started _
  · trivial

theorem feed_logged (lawful : feeds.Lawful)
    (run : (processSystem control feeds outsiders).Reachable (processStart feeds files) config)
    (kind : Kind) :
    Logged (feeds.room kind) (config.shared.feeds kind).sent (config.shared.feeds kind).closed
      (config.shared.feeds kind).log :=
  ((process_sound run).inv.genuine kind).logged (lawful kind) (PNat.pos _)

theorem received_begun {sender : Sender} {config : Config SenderOp SenderTask SenderState}
    (lossless : sender.codecs.lz4.RoundTrips)
    (run : (senderSystem sender).Reachable (senderStart files) config)
    (address : Nat) (kind : Kind) :
    (ofKind kind (config.shared.channels address).received).Sublist (config.shared.begun kind) := by
  have faithful := outbox_faithful lossless run
  have framed := ((sender_inv run).wired.ring address).1
  have kept := (List.sublist_append_left _ _).trans (framed.received kind)
  have queued := framed.enqueued.sublist.filter fun update => decide (update.kind = kind)
  have dispatched :
      (dispatchedTo address kind config.shared).Sublist (config.shared.begun kind) := by
    rw [dispatchedTo, SenderState.begun, ← List.map_reverse]
    exact List.filter_sublist.map _
  exact (kept.trans (queued.trans (faithful.carried address kind ▸ List.Sublist.refl _))).trans
    ((takenBy_sublist (faithful.genuine kind)).trans dispatched)

/--
From the application to the clients: what a client takes from its queue of one kind is a
subsequence of what was published on that stream, in every run of the process.
-/
theorem published_in_order (lawful : feeds.Lawful) (lossless : control.sender.codecs.lz4.RoundTrips)
    (run : (processSystem control feeds outsiders).Reachable (processStart feeds files) config)
    (address : Nat) (kind : Kind) :
    (ofKind kind (config.shared.control.sender.channels address).received).Sublist
      ((config.shared.feeds kind).sent.map kind.update) := by
  obtain ⟨pool, reached, _⟩ := process_control run
  obtain ⟨pool', reached', _⟩ := control_sender reached
  obtain ⟨pending, late, stage⟩ := (process_sound run).inv.staged kind
  have begun :
      (config.shared.control.sender.begun kind).Sublist
      ((values (config.shared.feeds kind).log).map kind.update) := by
    rw [← stage.begun]
    exact List.sublist_append_left _ _
  have ordered := (feed_logged lawful run kind).ordered.trans (List.take_sublist _ _)
  exact (received_begun lossless reached' address kind).trans (begun.trans (ordered.map _))

end

-- An update on its way from the publisher to a client that has subscribed to it.
theorem published_in_order_received :
    ∃ config, sampleControl.sender.codecs.lz4.RoundTrips ∧
      (processSystem sampleControl (sampleFeeds 4) true).Reachable (processStart (sampleFeeds 4) [])
        config ∧
      (ofKind .account (config.shared.control.sender.channels 0).received).Sublist
        ((config.shared.feeds .account).sent.map (Kind.update .account)) ∧
      (config.shared.control.sender.channels 0).received = [.account sampleAccountUpdate] := by
  have ran :
    ((processSystem sampleControl (sampleFeeds 4) true).schedule (processStart (sampleFeeds 4) [])
      ([.start (.control (.sender (.handler 0))) (.control (.sender (.subscribe sampleRequest)))] ++
        advances (.control (.sender (.handler 0))) 15 ++ publishSample ++
        [.start (dispatcherOf .account) (.runDispatcher .account)] ++ advances
          (dispatcherOf .account) 21 ++
        [.start (.control (.sender (.reader 0))) (.control (.sender (.consume 0)))] ++
        advances (.control (.sender (.reader 0))) 7 ++
        [.start (.control (.sender (.client 0))) (.control (.sender (.tryNext 0 .account)))] ++
        advances (.control (.sender (.client 0))) 1)).any (fun config =>
          (config.shared.control.sender.channels 0).received = [.account sampleAccountUpdate]) =
            true := by
    decide +kernel
  obtain ⟨config, run, received⟩ := System.schedule_finds ran
  exact ⟨config, literalLz4_roundTrips, run,
    published_in_order (sampleFeeds_lawful 4) literalLz4_roundTrips run 0 .account,
      of_decide_eq_true received⟩

end Qlaster
