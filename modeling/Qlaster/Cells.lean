import Qlaster.Slots
import Qlaster.Watching

/-!
Every connection has a filter of its own: the `ArcSwap` that `upsert_shm` makes is put into
the table at most once, by the call that has made it.
-/

namespace Qlaster

open Interleaving Interleaving.Discipline

/-- For each task the filter it has made and not yet put into the table. -/
abbrev Custody := SenderTask → Option Nat

def Custody.after (custody : Custody) (task : SenderTask) : {β : Type} → SenderOp β → β → Custody
  | _, .manager (.newFilter _), cell => Function.update custody task (some cell)
  | _, .manager (.compareAndSwap _ _ (some _)), previous =>
      if previous.isNone then Function.update custody task none else custody
  | _, _, _ => custody

def custodyWatch : Watch SenderOp SenderTask SenderState SenderChoice Custody :=
  fun _ task _ op reply _ custody => some (custody.after task op reply)

theorem custodyWatch_total (choice : SenderChoice) (task : SenderTask) {β : Type}
    (op : SenderOp β) (reply : β) (state : SenderState) (custody : Custody) :
    ∃ later, custodyWatch choice task op reply state custody = some later :=
  ⟨_, rfl⟩

theorem Custody.after_other {custody : Custody} {task other : SenderTask} {β : Type}
    (op : SenderOp β) (reply : β)
    (different : task ≠ other) : custody.after other op reply task = custody task := by
  cases op with
  | channel address op => rfl
  | manager op =>
      cases op with
      | newFilter filter => exact Function.update_of_ne different _ _
      | compareAndSwap index current new =>
          cases new with
          | none => rfl
          | some entry =>
              simp only [Custody.after]
              split
              · exact Function.update_of_ne different _ _
              · rfl
      | _ => rfl

/-- No filter is shared, neither in the table nor with one that is still to be put there. -/
structure OwnCells (filterCount : Nat) (installed : List ManagedConnection) (custody : Custody) :
    Prop where
  made : ∀ entry ∈ installed, entry.filter < filterCount
  held : ∀ task cell, custody task = some cell → cell < filterCount ∧ ∀ entry ∈ installed,
    entry.filter ≠ cell
  held_once : Exclusive custody
  unique : ∀ entry ∈ installed, ∀ other ∈ installed, entry.filter = other.filter → entry = other

section
variable {filterCount : Nat} {installed : List ManagedConnection} {custody : Custody}

theorem OwnCells.make (own : OwnCells filterCount installed custody) (task : SenderTask) :
    OwnCells (filterCount + 1) installed (Function.update custody task (some filterCount)) := by
  refine ⟨fun entry member => Nat.lt_succ_of_lt (own.made entry member), ?_, ?_, own.unique⟩
  · refine (Function.forall_update_iff custody fun _ held => ∀ cell, held = some cell →
      cell < filterCount + 1 ∧ ∀ entry ∈ installed, entry.filter ≠ cell).mpr ⟨?_, ?_⟩
    · rintro _ ⟨rfl⟩
      exact ⟨Nat.lt_succ_self _, fun entry member => (own.made entry member).ne⟩
    · intro other _ cell found
      obtain ⟨bound, apart⟩ := own.held other cell found
      exact ⟨Nat.lt_succ_of_lt bound, apart⟩
  · exact own.held_once.assign fun other found =>
      Nat.lt_irrefl _ (own.held other filterCount found).1

theorem OwnCells.install (own : OwnCells filterCount installed custody) {task : SenderTask}
    {entry : ManagedConnection} (mine : custody task = some entry.filter) :
    OwnCells filterCount (installed ++ [entry]) (Function.update custody task none) := by
  obtain ⟨bound, new⟩ := own.held task entry.filter mine
  refine ⟨?_, ?_, own.held_once.clear task, ?_⟩
  · intro other member
    rcases List.mem_append.mp member with old | added
    · exact own.made other old
    · rw [List.mem_singleton.mp added]
      exact bound
  · intro other cell found
    obtain ⟨found, different⟩ := own.held_once.others mine found
    obtain ⟨within, apart⟩ := own.held other cell found
    refine ⟨within, fun known member => ?_⟩
    rcases List.mem_append.mp member with old | added
    · exact apart known old
    · rw [List.mem_singleton.mp added]
      exact different.symm
  · intro first firstMember second secondMember same
    rcases List.mem_append.mp firstMember with old | added <;>
      rcases List.mem_append.mp secondMember with old' | added'
    · exact own.unique first old second old' same
    · rw [List.mem_singleton.mp added'] at same
      exact absurd same (new first old)
    · rw [List.mem_singleton.mp added] at same
      exact absurd same.symm (new second old')
    · rw [List.mem_singleton.mp added, List.mem_singleton.mp added']

end

/-! Only the task that has made a filter puts it into the table. -/

def custodyGuard (task : SenderTask) : {β : Type} → SenderOp β → Custody → Prop
  | _, .manager (.compareAndSwap _ none (some entry)), custody => custody task = some entry.filter
  | _, .manager (.compareAndSwap _ (some _) (some _)), _ => False
  | _, _, _ => True

theorem OwnCells.exec {choice : SenderChoice} {task : SenderTask} {β : Type} {op : SenderOp β}
    {before after : SenderState} {custody : Custody} {reply : β}
    (own : OwnCells before.filters.length before.installed custody)
    (guarded : custodyGuard task op custody)
    (executed : before.exec choice task op = some (reply, after)) :
    OwnCells after.filters.length after.installed (custody.after task op reply) := by
  cases op with
  | channel address op =>
      obtain ⟨-, -, -, rfl⟩ := SenderState.execChannel_ring executed
      exact own
  | manager op =>
      simp only [SenderState.exec] at executed
      cases op with
      | newFilter filter =>
          simp only [SenderState.execManager, Option.some.injEq, Prod.mk.injEq] at executed
          obtain ⟨rfl, rfl⟩ := executed
          simpa [Custody.after] using own.make task
      | storeFilter entry filter =>
          simp only [SenderState.execManager, Option.some.injEq, Prod.mk.injEq] at executed
          obtain ⟨-, rfl⟩ := executed
          simpa [Custody.after] using own
      | compareAndSwap index current new =>
          simp only [SenderState.execManager] at executed
          cases new with
          | none =>
              split at executed <;> simp only [Option.some.injEq, Prod.mk.injEq] at executed <;>
                obtain ⟨-, rfl⟩ := executed
              · exact own
              · exact own
          | some entry =>
              cases current with
              | some old => exact guarded.elim
              | none =>
                  simp only [Option.map_none, Option.map_eq_none_iff] at executed
                  split at executed <;> simp only [Option.some.injEq, Prod.mk.injEq] at executed <;>
                    obtain ⟨rfl, rfl⟩ := executed
                  · rename_i free
                    simpa [Custody.after, free, SenderState.replace,
                      SenderState.hold] using own.install guarded
                  · rename_i taken
                    simpa [Custody.after, taken, SenderState.hold] using own
      | note note =>
          simp only [SenderState.execManager, Option.some.injEq, Prod.mk.injEq] at executed
          obtain ⟨-, rfl⟩ := executed
          cases note with
          | provisioned result => rcases result with _ | ⟨_ | _⟩ <;> exact own
          | _ => exact own
      | _ =>
          simp only [SenderState.execManager] at executed
          repeat' split at executed
          all_goals simp only [reduceCtorEq, Option.some.injEq, Prod.mk.injEq] at executed
          all_goals obtain ⟨-, rfl⟩ := executed
          all_goals exact own

theorem custody_exec {sender : Sender} {choice : SenderChoice} {task : SenderTask} {β : Type}
    {op : SenderOp β} {before after : SenderState × Custody} {reply : β}
    (executed : ((senderSystem sender).watched custodyWatch).exec choice task op before = some
      (reply, after)) :
    before.1.exec choice task op = some (reply, after.1) ∧
      after.2 = before.2.after task op reply := by
  obtain ⟨ran, watched⟩ := System.watched_exec executed
  exact ⟨ran, (Option.some.inj watched).symm⟩

def custodial (sender : Sender) : Discipline ((senderSystem sender).watched custodyWatch) where
  inv both := OwnCells both.1.filters.length both.1.installed both.2
  guard task _ op both := custodyGuard task op both.2
  rest _ _ := True
  preserved own guarded executed := by
    obtain ⟨ran, custody⟩ := custody_exec executed
    rw [custody]
    exact own.exec guarded ran
  rest_stable _ _ _ _ _ := trivial

section
variable {sender : Sender} {task : SenderTask}

theorem custody_stable (holds : Option Nat → Prop) :
    (custodial sender).Stable task fun both => holds (both.2 task) := by
  rintro before after ⟨-, other, choice, β, op, reply, different, -, executed⟩ held
  rwa [(custody_exec executed).2, Custody.after_other op reply different.symm]

/-! Most operations neither make a filter nor install one. -/

def LeavesCells : {β : Type} → SenderOp β → Prop
  | _, .manager (.newFilter _) => False
  | _, .manager (.compareAndSwap _ _ (some _)) => False
  | _, _ => True

theorem LeavesCells.guard {β : Type} {op : SenderOp β} (leaves : LeavesCells op)
    (custody : Custody) : custodyGuard task op custody := by
  cases op with
  | channel address op => trivial
  | manager op =>
      cases op with
      | compareAndSwap index current new =>
          cases new with
          | none => cases current <;> trivial
          | some entry => exact leaves.elim
      | _ => trivial

theorem LeavesCells.after {β : Type} {op : SenderOp β} (leaves : LeavesCells op) (reply : β)
    (custody : Custody) : custody.after task op reply = custody := by
  cases op with
  | channel address op => rfl
  | manager op =>
      cases op with
      | newFilter filter => exact leaves.elim
      | compareAndSwap index current new =>
          cases new with
          | none => rfl
          | some entry => exact leaves.elim
      | _ => rfl

theorem leaves_triple {α : Type} {program : Program SenderOp α} (leaves : program.Only LeavesCells)
    (holds : Option Nat → Prop) :
    (custodial sender).Triple task (fun both => holds (both.2 task)) program
      fun _ both => holds (both.2 task) := by
  refine triple_only leaves (custody_stable holds) (fun allowed _ _ => allowed.guard _) ?_
  intro choice β op before reply after allowed _ held executed
  rwa [(custody_exec executed).2, allowed.after]

theorem ask_custody {β : Type} (op : ManagerOp β) (leaves : LeavesCells (.manager op))
    (holds : Option Nat → Prop) :
    (custodial sender).Triple task (fun both => holds (both.2 task)) (ask op)
      fun _ both => holds (both.2 task) :=
  leaves_triple (.perform leaves) holds

theorem ask_leaves {β : Type} {op : ManagerOp β} (leaves : LeavesCells (.manager op)) :
    (ask op).Only LeavesCells :=
  .perform leaves

theorem ask_then_leaves {α β : Type} {op : ManagerOp β} {next : β → Program SenderOp α}
    (leaves : LeavesCells (.manager op)) (rest : ∀ reply, (next reply).Only LeavesCells) :
    ((ask op).bind next).Only LeavesCells :=
  (ask_leaves leaves).bind rest

theorem onRing_leaves {α : Type} (address : Nat) (program : Program ChannelOp α) :
    (onRing address program).Only LeavesCells :=
  Program.lift_only (fun _ => trivial) program

theorem dropArc_leaves (ring : ShmRingProducer) : (dropArc ring).Only LeavesCells := by
  refine ask_then_leaves trivial fun last => ?_
  split
  · exact ask_leaves trivial
  · trivial

theorem dropLoaded_leaves (loaded : Option ManagedConnection) :
    (dropLoaded loaded).Only LeavesCells := by
  cases loaded with
  | none => trivial
  | some entry => exact dropArc_leaves entry.sink

theorem evict_leaves (index : SlotIndex) (entry : ManagedConnection) :
    (evict index entry).Only LeavesCells := by
  have closes : (closeSink entry).Only LeavesCells :=
    (onRing_leaves _ _).bind fun _ => ask_leaves trivial
  exact closes.bind fun _ => ask_then_leaves trivial dropLoaded_leaves

theorem cleanupIfSame_leaves (index : SlotIndex) (connectionId : UInt64) :
    (cleanupIfSame index connectionId).Only LeavesCells := by
  refine ask_then_leaves trivial fun current => ?_
  cases current with
  | none => trivial
  | some entry =>
      refine Program.Only.bind ?_ fun _ => dropArc_leaves entry.sink
      split
      · exact evict_leaves index entry
      · trivial

theorem maybeCleanupStaleSlot_leaves (index : SlotIndex) (entry : ManagedConnection) :
    (maybeCleanupStaleSlot index entry).Only LeavesCells := by
  have judges : (isStale entry).Only LeavesCells :=
    ask_then_leaves trivial fun _ => ask_then_leaves trivial fun _ => trivial
  refine judges.bind fun stale => ?_
  split
  · exact (evict_leaves index entry).bind fun _ => trivial
  · trivial

theorem lookupByToken_leaves (token : SlotToken) : (lookupByToken token).Only LeavesCells := by
  refine ask_then_leaves trivial fun lookup => ?_
  simp only
  split
  · refine ask_then_leaves trivial fun loaded => ?_
    cases loaded with
    | none => trivial
    | some entry =>
        simp only
        split
        · exact (dropArc_leaves entry.sink).bind fun _ => trivial
        · refine (maybeCleanupStaleSlot_leaves _ entry).bind fun cleaned => ?_
          split
          · exact (dropArc_leaves entry.sink).bind fun _ => trivial
          · exact ask_then_leaves trivial fun _ => trivial
  · trivial

theorem findFreeSlotIn_leaves (slots : List SlotIndex) :
    (findFreeSlotIn slots).Only LeavesCells := by
  induction slots with
  | nil => trivial
  | cons index rest ih =>
      refine ask_then_leaves trivial fun loaded => ?_
      cases loaded with
      | none => trivial
      | some existing =>
          refine (maybeCleanupStaleSlot_leaves index existing).bind fun cleaned => ?_
          split
          · refine ask_then_leaves trivial fun again => (dropLoaded_leaves again).bind fun _ =>
              (dropArc_leaves existing.sink).bind fun _ => ?_
            split
            · trivial
            · exact ih
          · exact (dropArc_leaves existing.sink).bind fun _ => ih

theorem touchPing_leaves (ping : PingRequest) : (touchPing ping).Only LeavesCells := by
  refine (lookupByToken_leaves ping.slotToken).bind fun found => ?_
  cases found with
  | none => trivial
  | some existing =>
      exact ask_then_leaves trivial fun _ => ask_then_leaves trivial fun _ =>
        (dropArc_leaves existing.sink).bind fun _ => trivial

theorem pushToEntry_leaves (entry : ManagedConnection) (frame : OutboundFrame) :
    (pushToEntry entry frame).Only LeavesCells := by
  refine (onRing_leaves _ _).bind fun pushed => ?_
  cases pushed with
  | ok _ => trivial
  | error _ => exact cleanupIfSame_leaves _ _

theorem sharedFrame_leaves (encode : UInt64 → Outcome OutboundFrame)
    (shared : Option OutboundFrame) : (sharedFrame encode shared).Only LeavesCells := by
  cases shared with
  | some frame => trivial
  | none =>
      refine ask_then_leaves trivial fun nanos => ?_
      split
      · trivial
      · exact ask_then_leaves trivial fun _ => trivial
      · exact ask_then_leaves trivial fun _ => trivial

theorem dispatchSlots_leaves {wants : ManagedConnection → Program SenderOp Bool}
    (asks : ∀ entry, (wants entry).Only LeavesCells) (encode : UInt64 → Outcome OutboundFrame)
    (slots : List SlotIndex) (shared : Option OutboundFrame) :
    (dispatchSlots wants encode slots shared).Only LeavesCells := by
  induction slots generalizing shared with
  | nil => trivial
  | cons index rest ih =>
      refine ask_then_leaves trivial fun loaded => ?_
      cases loaded with
      | none => exact ih shared
      | some entry =>
          refine (maybeCleanupStaleSlot_leaves index entry).bind fun cleaned => ?_
          split
          · exact (dropArc_leaves entry.sink).bind fun _ => ih shared
          · refine (asks entry).bind fun wanted => ?_
            split
            · refine (sharedFrame_leaves encode shared).bind fun framed => ?_
              cases framed with
              | none => exact dropArc_leaves entry.sink
              | some frame =>
                  exact (pushToEntry_leaves entry frame).bind fun _ =>
                    (dropArc_leaves entry.sink).bind fun _ => ih (some frame)
            · exact (dropArc_leaves entry.sink).bind fun _ => ih shared

theorem dispatchUpdate_leaves (update : Update) :
    (dispatchUpdate sender update).Only LeavesCells := by
  have asks : ∀ (test : SubscriptionFilter → Bool) (entry : ManagedConnection),
      ((ask (.loadFilter entry)).bind fun filter => .done (test filter)).Only LeavesCells :=
    fun _ _ => ask_then_leaves trivial fun _ => trivial
  cases update with
  | account update =>
      exact dispatchSlots_leaves (asks fun filter => filter.matchesAccount sender.contains update)
        _ _ _
  | transaction update =>
    exact dispatchSlots_leaves (asks SubscriptionFilter.matchesTransaction) _ _ _
  | slot update =>
      refine dispatchSlots_leaves ?_ _ _ _
      exact fun _ => trivial

theorem createRing_leaves (display : Path → String) (path : Path) (capacity : Nat) :
    (createRing display path capacity).Only LeavesCells := by
  unfold createRing
  split
  · trivial
  · refine ask_then_leaves trivial fun parent => ?_
    cases parent with
    | error text => trivial
    | ok _ =>
        refine ask_then_leaves trivial fun file => ?_
        cases file with
        | error text => trivial
        | ok _ =>
            simp only
            split
            · exact ask_then_leaves trivial fun _ => trivial
            · refine ask_then_leaves trivial fun queue => ?_
              cases queue with
              | error text => exact ask_then_leaves trivial fun _ => trivial
              | ok address => trivial

theorem existingFor_leaves (request : SubscriptionRequest) :
    (existingFor request).Only LeavesCells := by
  unfold existingFor
  split
  · trivial
  · exact lookupByToken_leaves _

/-! The call that makes a filter. -/

theorem newFilter_custody (filter : SubscriptionFilter) :
    (custodial sender).Triple task (fun _ => True) (ask (.newFilter filter))
      fun cell both => both.2 task = some cell := by
  refine triple_perform (Stable.const _) (fun cell => custody_stable (· = some cell))
    (fun _ _ _ => trivial) ?_
  intro choice before cell after _ _ executed
  rw [(custody_exec executed).2]
  exact Function.update_self ..

theorem swapIn_custody (entry : ManagedConnection) (index : SlotIndex) :
    (custodial sender).Triple task (fun both => both.2 task = some entry.filter)
      (ask (.compareAndSwap index none (some entry)))
      fun previous both => previous.isSome = true → both.2 task = some entry.filter := by
  -- A lost `compare_and_swap` leaves the filter with the task.
  refine triple_perform (custody_stable (· = some entry.filter))
    (fun previous => custody_stable fun held => previous.isSome = true → held = some entry.filter)
    (fun _ _ held => held) ?_
  intro choice before previous after _ held executed lost
  have taken : previous.isNone = false := by simpa using lost
  rw [(custody_exec executed).2]
  simpa [Custody.after, taken] using held

def TurnCustody (task : SenderTask) (cell : Nat) : Sum Unit (Except QlasterError ShmSlotProvision) →
    SenderState × Custody → Prop
  | .inl _, both => both.2 task = some cell
  | .inr _, _ => True

theorem installTurn_custody (cell : Nat) (connectionId : UInt64) :
    (custodial sender).Triple task (fun both => both.2 task = some cell)
      (installTurn sender cell connectionId) (TurnCustody task cell) := by
  have ends :
    ∀ {pre : SenderState × Custody → Prop} (result : Except QlasterError ShmSlotProvision),
      (custodial sender).Triple task pre (.done (.inr result)) (TurnCustody task cell) :=
    fun _ => triple_done (Stable.const _) fun _ _ _ => trivial
  refine triple_bind (leaves_triple (findFreeSlotIn_leaves _) (· = some cell)) fun free => ?_
  cases free with
  | none => exact ends _
  | some slotIndex =>
      refine triple_bind (leaves_triple (createRing_leaves _ _ _) (· = some cell)) fun created => ?_
      cases created with
      | error error => exact ends _
      | ok ring =>
          refine triple_bind (ask_custody .eventfdNew trivial (· = some cell)) fun eventfd => ?_
          cases eventfd with
          | error text =>
              exact triple_bind (leaves_triple (dropArc_leaves ring) (· = some cell)) fun _ =>
                ends _
          | ok _ =>
              refine triple_bind (ask_custody .nowMs trivial (· = some cell)) fun now => ?_
              let managed : ManagedConnection := ⟨slotIndex, connectionId, cell, ring⟩
              refine triple_bind (ask_custody (.newManaged managed now) trivial (· = some cell))
                fun _ => ?_
              refine triple_bind (swapIn_custody managed slotIndex) fun previous => ?_
              cases previous with
              | none =>
                  refine triple_weaken ?_ (fun _ _ _ => trivial) fun _ _ _ holds => holds
                  refine triple_bind (leaves_triple (dropArc_leaves ring) fun _ => True) fun _ => ?_
                  exact triple_bind (leaves_triple (dropArc_leaves ring) fun _ => True) fun _ =>
                    ends _
              | some other =>
                  refine triple_weaken ?_ (fun _ _ held => held rfl) fun _ _ _ holds => holds
                  refine triple_bind (leaves_triple (dropArc_leaves other.sink) (· = some cell))
                    fun _ => ?_
                  refine triple_bind (leaves_triple (dropArc_leaves ring) (· = some cell)) fun _ =>
                    ?_
                  refine triple_bind (leaves_triple (dropArc_leaves ring) (· = some cell)) fun _ =>
                    ?_
                  exact triple_done (custody_stable (· = some cell)) fun _ _ held => held

theorem upsertShm_custody (request : SubscriptionRequest) :
    (custodial sender).Triple task (fun _ => True) (upsertShm sender request) fun _ _ => True := by
  refine triple_bind (leaves_triple (existingFor_leaves request) fun _ => True) fun found => ?_
  cases found with
  | some existing =>
      refine leaves_triple ?_ fun _ => True
      refine ask_then_leaves trivial fun _ => ask_then_leaves trivial fun _ =>
        Program.Only.bind ?_ fun _ =>
        ask_then_leaves trivial fun _ => (dropArc_leaves existing.sink).bind fun _ => trivial
      exact ask_then_leaves trivial fun _ => ask_then_leaves trivial fun _ => ask_leaves trivial
  | none =>
      refine triple_bind (ask_custody .bloomSeed trivial fun _ => True) fun seed => ?_
      refine triple_bind (newFilter_custody _) fun cell => ?_
      refine triple_bind (ask_custody .fetchAddConnectionId trivial (· = some cell))
        fun connectionId => ?_
      refine triple_loop (fun _ => Stable.const _)
        (triple_weaken (installTurn_custody cell connectionId)
        (fun _ _ held => held) fun outcome _ _ held => ?_)
      cases outcome with
      | inl _ => exact held
      | inr _ => trivial

theorem custody_calls (task : SenderTask) (call : SenderCall)
    (_ : ((senderSystem sender).watched custodyWatch).mayStart task call = true) :
    (custodial sender).Triple task ((custodial sender).rest task)
      (((senderSystem sender).watched custodyWatch).program call) fun _ =>
        (custodial sender).rest task := by
  have plain : ∀ {program : Program SenderOp Unit}, program.Only LeavesCells →
      (custodial sender).Triple task (fun _ => True) program fun _ _ => True :=
    fun leaves => leaves_triple leaves fun _ => True
  cases call with
  | dispatch update => exact plain (ask_then_leaves trivial fun _ => dispatchUpdate_leaves update)
  | subscribe request =>
      exact triple_bind (upsertShm_custody request) fun _ => plain (ask_leaves trivial)
  | ping ping => exact plain ((touchPing_leaves ping).bind fun _ => trivial)
  | consume ring =>
      refine plain (ask_then_leaves trivial fun opened => ?_)
      split
      · exact onRing_leaves ring _
      · trivial
  | tryNext ring kind => exact plain ((onRing_leaves ring _).bind fun _ => trivial)
  | poll ring => exact plain (onRing_leaves ring _)

variable {files : List Path} {config : Config SenderOp SenderTask SenderState}

theorem filters_apart (run : (senderSystem sender).Reachable (senderStart files) config) :
    ∀ entry ∈ config.shared.installed, ∀ other ∈ config.shared.installed,
      entry.filter = other.filter → entry = other := by
  have unrestricted : (senderSystem sender).restrict (fun _ _ _ _ => true) = senderSystem sender :=
    rfl
  rw [← unrestricted] at run
  obtain ⟨custody, watched⟩ := run.watched custodyWatch_total fun _ => none
  have start :
      Sound (custodial sender) ⟨(SenderState.created files, fun _ => none), fun _ => .done ()⟩ := by
    refine .ofIdle ⟨?_, ?_, ?_, ?_⟩ (fun _ => rfl) fun _ => trivial
    · simp [SenderState.created]
    · simp
    · simp [Exclusive]
    · simp [SenderState.created]
  exact (start.reachable custody_calls watched.unrestricted).inv.unique

end

end Qlaster
