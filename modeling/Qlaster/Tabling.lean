import Qlaster.Isolation
import Qlaster.Reclaiming

/-!
The table, in every reachable state. Its connections have rings of their own, all of one size, and
a ring that was closed has been taken out of the table, or is about to be.
-/

namespace Qlaster

open Interleaving Interleaving.Discipline

/-! What the sender's tasks keep to. -/

def Sized (size : Nat) : {β : Type} → SenderOp β → Prop
  | _, .manager (.createQueue _ capacity) => capacity = size
  | _, .manager (.compareAndSwap _ _ (some entry)) => entry.sink.capacity = size
  | _, _ => True

def IsClose : {β : Type} → ChannelOp β → Prop
  | _, .tryWriteSlice bytes => bytes = sentinelBytes
  | _, _ => False

def Closes (address : Nat) : {β : Type} → SenderOp β → Prop
  | _, .channel target op => target = address ∧ IsClose op
  | _, _ => False

/-- The task went on to take every ring that it closed out of the table, one apart. -/
def Followed (apart : Option Nat) (task : SenderTask) (state : SenderState) : Prop :=
  ∀ address, apart ≠ some address → (task, sentinelBytes) ∈ (state.channels address).writes →
    (task, address) ∈ state.swapped

section
variable {task : SenderTask} {β : Type} {reply : β}

theorem Channel.exec_writes (choice : ChannelChoice) {op : ChannelOp β}
    {before after : Channel SenderTask}
    (executed : before.exec choice task op = some (reply, after)) :
    after.capacity = before.capacity ∧ ∀ writer, (writer, sentinelBytes) ∈ after.writes →
      (writer, sentinelBytes) ∈ before.writes ∨ writer = task ∧ IsClose op := by
  cases op with
  | tryWriteSlice bytes =>
      have marked : (before.markClose bytes).writes = before.writes ∧
          (before.markClose bytes).capacity = before.capacity := by
        unfold Channel.markClose
        split <;> exact ⟨rfl, rfl⟩
      simp only [Channel.exec] at executed
      split at executed <;> simp only [Option.some.injEq, Prod.mk.injEq] at executed <;>
        obtain ⟨-, rfl⟩ := executed
      · refine ⟨marked.2, fun writer found => ?_⟩
        rcases List.mem_append.mp found with old | new
        · exact .inl (marked.1 ▸ old)
        · obtain ⟨rfl, same⟩ := Prod.mk.inj (List.mem_singleton.mp new)
          exact .inr ⟨rfl, same.symm⟩
      · exact ⟨marked.2, fun writer found => .inl (marked.1 ▸ found)⟩
  | note note =>
      simp only [Channel.exec, Option.some.injEq, Prod.mk.injEq] at executed
      obtain ⟨-, rfl⟩ := executed
      unfold Channel.record
      repeat' split
      all_goals exact ⟨rfl, fun _ => .inl⟩
  | _ =>
      simp only [Channel.exec] at executed
      repeat' split at executed
      all_goals simp only [reduceCtorEq, Option.some.injEq, Prod.mk.injEq] at executed
      all_goals obtain ⟨-, rfl⟩ := executed
      all_goals exact ⟨rfl, fun _ => .inl⟩

theorem execRing_writes {choice : ChannelChoice} {present : Bool} {op : ChannelOp β}
    {before after : Channel SenderTask}
    (executed : SenderState.execRing choice task present op before = some (reply, after)) :
    after.capacity = before.capacity ∧ ∀ writer, (writer, sentinelBytes) ∈ after.writes →
      (writer, sentinelBytes) ∈ before.writes ∨ writer = task ∧ IsClose op := by
  cases op with
  | pathExists =>
      simp only [SenderState.execRing, Option.some.injEq, Prod.mk.injEq] at executed
      obtain ⟨-, rfl⟩ := executed
      split <;> exact ⟨rfl, fun _ => .inl⟩
  | _ => exact Channel.exec_writes choice executed

theorem update_writes {channels : Nat → Channel SenderTask} {target address : Nat}
    {channel : Channel SenderTask} {write : SenderTask × Bytes}
    (found : write ∈ (Function.update channels target channel address).writes) :
    write ∈ (channels address).writes ∨ address = target ∧ write ∈ channel.writes := by
  by_cases same : address = target
  · subst same
    rw [Function.update_self] at found
    exact .inr ⟨rfl, found⟩
  · rw [Function.update_of_ne same] at found
    exact .inl found

theorem exec_closes {choice : SenderChoice} {op : SenderOp β} {before after : SenderState}
    (executed : before.exec choice task op = some (reply, after)) :
    before.swapped ⊆ after.swapped ∧ ∀ writer address, (writer, sentinelBytes) ∈
      (after.channels address).writes →
      (writer, sentinelBytes) ∈ (before.channels address).writes ∨ writer = task ∧
        Closes address op := by
  cases op with
  | channel target op =>
      obtain ⟨-, channel, ran, rfl⟩ := SenderState.execChannel_ring executed
      refine ⟨fun _ => id, fun writer address found => ?_⟩
      rcases update_writes found with old | ⟨rfl, written⟩
      · exact .inl old
      · rcases (execRing_writes ran).2 writer written with old | ⟨mine, closing⟩
        · exact .inl old
        · exact .inr ⟨mine, rfl, closing⟩
  | manager op =>
      simp only [SenderState.exec] at executed
      cases op with
      | compareAndSwap index current new =>
          simp only [SenderState.execManager] at executed
          split at executed <;> simp only [Option.some.injEq, Prod.mk.injEq] at executed <;>
            obtain ⟨-, rfl⟩ := executed
          · cases new <;> exact ⟨List.subset_append_right _ _, fun _ _ => .inl⟩
          · exact ⟨List.subset_append_right _ _, fun _ _ => .inl⟩
      | dropProducer ring =>
          simp only [SenderState.execManager, Option.some.injEq, Prod.mk.injEq] at executed
          obtain ⟨-, rfl⟩ := executed
          refine ⟨fun _ => id, fun writer address found => .inl ?_⟩
          rcases update_writes found with old | ⟨rfl, old⟩ <;> exact old
      | createQueue path capacity =>
          simp only [SenderState.execManager] at executed
          split at executed <;> simp only [Option.some.injEq, Prod.mk.injEq] at executed <;>
            obtain ⟨-, rfl⟩ := executed
          · exact ⟨fun _ => id, fun _ _ => .inl⟩
          · refine ⟨fun _ => id, fun writer address found => .inl ?_⟩
            rcases update_writes found with old | ⟨-, none⟩
            · exact old
            · cases none
      | note note =>
          simp only [SenderState.execManager, Option.some.injEq, Prod.mk.injEq] at executed
          obtain ⟨-, rfl⟩ := executed
          unfold SenderState.record
          split <;> exact ⟨fun _ => id, fun _ _ => .inl⟩
      | _ =>
          simp only [SenderState.execManager] at executed
          repeat' split at executed
          all_goals simp only [reduceCtorEq, Option.some.injEq, Prod.mk.injEq] at executed
          all_goals obtain ⟨-, rfl⟩ := executed
          all_goals exact ⟨fun _ => id, fun _ _ => .inl⟩

theorem Followed.exec {choice : SenderChoice} {op : SenderOp β} {before after : SenderState}
    {writer : SenderTask} {apart : Option Nat} (followed : Followed apart writer before)
    (executed : before.exec choice task op = some (reply, after))
    (excused : ∀ address, writer = task → Closes address op → apart = some address) :
    Followed apart writer after := by
  obtain ⟨kept, closed⟩ := exec_closes executed
  intro address other found
  rcases closed writer address found with old | ⟨mine, closing⟩
  · exact kept (followed address other old)
  · exact absurd (excused address mine closing) other

end

def tabling (sender : Sender) : Discipline (senderSystem sender) where
  inv := fun _ => True
  guard _ _ op _ := Sized (Nat.nextPowerOfTwo sender.ringCapacity) op
  rest := Followed none
  preserved := fun _ _ _ => trivial
  rest_stable := by
    intro choice task other β op state reply after different _ _ executed followed
    exact followed.exec executed fun _ same _ => absurd same.symm different

section
variable {sender : Sender} {task : SenderTask}

theorem followed_stable (apart : Option Nat) :
    (tabling sender).Stable task (Followed apart task) := by
  rintro before after ⟨-, other, choice, β, op, reply, different, -, executed⟩ followed
  exact followed.exec executed fun _ same _ => absurd same.symm different

/-- Programs that make no entry and no ring but of the one size, and close no ring but one. -/
def Proper (size : Nat) (apart : Option Nat) {β : Type} (op : SenderOp β) : Prop :=
  Sized size op ∧ ∀ address, Closes address op → apart = some address

theorem proper_triple {apart : Option Nat} {α : Type} {program : Program SenderOp α}
    (proper : program.Only (Proper (Nat.nextPowerOfTwo sender.ringCapacity) apart)) :
    (tabling sender).Triple task (Followed apart task) program fun _ => Followed apart task :=
  triple_only proper (followed_stable _) (fun allowed _ _ => allowed.1)
    fun allowed _ followed executed =>
    followed.exec executed fun address _ closing => allowed.2 address closing

theorem ask_proper {size : Nat} {apart : Option Nat} {β : Type} {op : ManagerOp β}
    (sized : Sized size (.manager op)) : (ask op).Only (Proper size apart) :=
  .perform ⟨sized, fun _ closing => closing.elim⟩

theorem dropArc_proper {size : Nat} {apart : Option Nat} (ring : ShmRingProducer) :
    (dropArc ring).Only (Proper size apart) := by
  refine Program.Only.bind (ask_proper trivial) fun last => ?_
  split
  · exact ask_proper trivial
  · trivial

theorem onRing_proper {size : Nat} {apart : Option Nat} {α : Type} {address : Nat}
    {program : Program ChannelOp α} (opens : program.Only fun op => ¬ IsClose op) :
    (onRing address program).Only (Proper size apart) :=
  Program.Only.lift (fun _ still => ⟨trivial, fun _ closing => absurd closing.2 still⟩) opens

theorem sinkTryPush_opens (capacity : Nat) (frame : OutboundFrame) :
    (sinkTryPush capacity frame).Only fun op => ¬ IsClose op := by
  have frames :
      (ringTryPush capacity [frame.header, frame.payload]).Only
      (Writes fun item => item ≠ .sentinel) :=
    ringTryPush_writes capacity _ (by simp)
  have pushes : (ringTryPush capacity [frame.header, frame.payload]).Only fun op =>
      ¬ IsClose op := by
    refine frames.mono fun op writes => ?_
    cases op with
    | tryWriteSlice bytes =>
        obtain ⟨item, rfl, frame⟩ := writes
        cases item with
        | sentinel => exact absurd rfl frame
        | frame body => exact Item.frame_ne_sentinel body
    | _ => exact id
  have notifies : notify.Only fun op => ¬ IsClose op := by
    refine notify_only.mono fun op isNotify => ?_
    cases op <;> first | exact isNotify.elim | exact id
  refine pushes.bind fun pushed => ?_
  cases pushed with
  | error error => trivial
  | ok _ =>
      refine notifies.bind fun notified => ?_
      cases notified with
      | ok _ => trivial
      | error kind => exact (Program.Only.perform id).bind fun _ => trivial

theorem evict_follows (index : SlotIndex) (entry : ManagedConnection) :
    (tabling sender).Triple task (Followed none task) (evict index entry) fun _ =>
      Followed none task := by
  have closing : (tabling sender).Triple task (Followed (some entry.address) task) (closeSink entry)
      fun _ => Followed (some entry.address) task := by
    refine proper_triple (Program.Only.bind (Program.lift_only ?_ sinkClose) fun _ =>
      ask_proper trivial)
    exact fun op => ⟨trivial, fun address closing => congrArg some closing.1⟩
  have begins : ∀ state, Followed none task state → Followed (some entry.address) task state :=
    fun _ followed address _ => followed address fun never => by cases never
  refine triple_bind (triple_weaken closing (fun state _ => begins state) fun _ _ _ => id) fun _ =>
    ?_
  have swaps : (tabling sender).Triple task (Followed (some entry.address) task)
      (ask (.compareAndSwap index (some entry) none)) fun _ => Followed none task := by
    refine triple_perform (followed_stable _) (fun _ => followed_stable _) (fun _ _ _ => trivial) ?_
    intro choice state previous after _ followed executed
    have noted : (task, entry.address) ∈ after.swapped := by
      simp only [senderSystem, SenderState.exec, SenderState.execManager] at executed
      split at executed <;> simp only [Option.some.injEq, Prod.mk.injEq] at executed <;>
        obtain ⟨-, rfl⟩ := executed
      all_goals exact List.mem_cons_self ..
    have ran : state.exec choice task (.manager (.compareAndSwap index (some entry) none)) = some
      (previous, after) := executed
    have others : Followed (some entry.address) task after := followed.exec ran fun _ _ closing =>
      closing.elim
    intro address _ found
    by_cases same : address = entry.address
    · rw [same]
      exact noted
    · exact others address (fun mine => same (Option.some.inj mine).symm) found
  refine triple_bind swaps fun previous => ?_
  cases previous with
  | none => exact triple_done (followed_stable _) fun _ _ => id
  | some other => exact proper_triple (dropArc_proper _)

theorem Inspects.sized {size : Nat} {β : Type} {op : ManagerOp β} (inspects : Inspects op) :
    Sized size (.manager op) := by
  cases op <;> first | exact inspects.elim | trivial

theorem Sweeps.follows {α : Type} {program : Program SenderOp α} (sweeps : Sweeps α program) :
    (tabling sender).Triple task (Followed none task) program fun _ => Followed none task := by
  cases sweeps with
  | ask inspects => exact proper_triple (ask_proper inspects.sized)
  | push entry frame => exact proper_triple (onRing_proper (sinkTryPush_opens _ frame))
  | evict index entry => exact evict_follows index entry
  | drop ring => exact proper_triple (dropArc_proper ring)

theorem Routine.follows {α : Type} {program : Program SenderOp α} (routine : Routine program) :
    (tabling sender).Triple task (Followed none task) program fun _ => Followed none task :=
  routine.triple (followed_stable _) Sweeps.follows

theorem ask_follows {α β : Type} {op : ManagerOp β} {next : β → Program SenderOp α}
    {post : α → SenderState → Prop}
    (sized : Sized (Nat.nextPowerOfTwo sender.ringCapacity) (.manager op))
    (rest : ∀ reply, (tabling sender).Triple task (Followed none task) (next reply) post) :
    (tabling sender).Triple task (Followed none task) ((ask op).bind next) post :=
  triple_bind (proper_triple (ask_proper sized)) rest

theorem drop_follows {α : Type} (ring : ShmRingProducer) {rest : Program SenderOp α}
    {post : α → SenderState → Prop}
    (continues : (tabling sender).Triple task (Followed none task) rest post) :
    (tabling sender).Triple task (Followed none task) ((dropArc ring).bind fun _ => rest) post :=
  triple_bind (proper_triple (dropArc_proper ring)) fun _ => continues

theorem done_follows {α : Type} (value : α) :
    (tabling sender).Triple task (Followed none task) (.done value) fun _ => Followed none task :=
  triple_done (followed_stable _) fun _ _ => id

/-! The upsert. -/

theorem createRing_size (display : Path → String) (path : Path) (capacity : Nat) :
    (createRing display path capacity).Yields fun created =>
    ∀ ring, created = .ok ring → ring.capacity = Nat.nextPowerOfTwo capacity := by
  have fails : ∀ (error : QlasterError) (ring : ShmRingProducer),
      Except.error (ε := QlasterError) error = .ok ring →
        ring.capacity = Nat.nextPowerOfTwo capacity :=
    fun error ring made => by cases made
  unfold createRing
  split
  · exact fails _
  intro parent
  cases parent with
  | error text => exact fails _
  | ok _ =>
      intro file
      cases file with
      | error text => exact fails _
      | ok _ =>
          simp only
          split
          · exact fun _ => fails _
          · intro queue
            cases queue with
            | error text => exact fun _ => fails _
            | ok address =>
                intro ring made
                obtain rfl := Except.ok.inj made
                rfl

theorem createRing_follows (display : Path → String) (path : Path) :
    (tabling sender).Triple task (Followed none task)
    (createRing display path sender.ringCapacity) fun created state => Followed none task state ∧
      ∀ ring, created = .ok ring → ring.capacity = Nat.nextPowerOfTwo sender.ringCapacity := by
  refine (proper_triple ((createRing_creates display path _).mono fun op creates => ?_)).yields
    (createRing_size display path _)
  cases op with
  | channel address op => exact creates.elim
  | manager op =>
      refine ⟨?_, fun _ closing => closing.elim⟩
      cases op <;> first | exact creates | exact creates.elim

theorem installTurn_follows (filter : Nat) (connectionId : UInt64) :
    (tabling sender).Triple task (Followed none task) (installTurn sender filter connectionId)
      fun _ => Followed none task := by
  refine triple_bind (findFreeSlotIn_routine _).follows fun free => ?_
  cases free with
  | none => exact done_follows _
  | some slotIndex =>
      refine triple_bind (createRing_follows _ _) fun created => triple_fact fun size => ?_
      cases created with
      | error error => exact done_follows _
      | ok ring =>
          refine ask_follows trivial fun eventfd => ?_
          cases eventfd with
          | error text => exact drop_follows ring (done_follows _)
          | ok _ =>
              refine ask_follows trivial fun now => ask_follows trivial fun _ =>
                ask_follows (size ring rfl) fun previous => ?_
              cases previous with
              | none => exact drop_follows ring (drop_follows ring (done_follows _))
              | some other =>
                exact drop_follows other.sink
                  (drop_follows ring (drop_follows ring (done_follows _)))

theorem upsertShm_follows (request : SubscriptionRequest) :
    (tabling sender).Triple task (Followed none task) (upsertShm sender request) fun _ =>
      Followed none task := by
  have looksUp : Routine (existingFor request) := by
    unfold existingFor
    split
    · exact .done none
    · exact lookupByToken_routine _
  refine triple_bind looksUp.follows fun found => ?_
  cases found with
  | none =>
      refine ask_follows trivial fun _ => ask_follows trivial fun _ =>
        ask_follows trivial fun _ => ?_
      refine triple_loop (fun _ => followed_stable _)
        (triple_weaken (installTurn_follows _ _) (fun _ _ => id) ?_)
      intro outcome state _ followed
      cases outcome <;> exact followed
  | some existing =>
      have applies :
        (tabling sender).Triple task (Followed none task) (applyRequest existing request)
          fun _ => Followed none task :=
        ask_follows trivial fun _ => ask_follows trivial fun _ => proper_triple (ask_proper trivial)
      refine ask_follows trivial fun _ => ask_follows trivial fun _ =>
        triple_bind applies fun _ => ?_
      exact ask_follows trivial fun _ => drop_follows existing.sink (done_follows _)

theorem touchPing_follows (ping : PingRequest) :
    (tabling sender).Triple task (Followed none task) (touchPing ping) fun _ =>
      Followed none task := by
  refine triple_bind (lookupByToken_routine ping.slotToken).follows fun found => ?_
  cases found with
  | none => exact done_follows false
  | some existing =>
      exact ask_follows trivial fun _ => ask_follows trivial fun _ =>
        drop_follows existing.sink (done_follows true)

theorem senderCall_follows (task : SenderTask) (call : SenderCall) :
    (tabling sender).Triple task (Followed none task) (senderProgram sender call) fun _ =>
      Followed none task := by
  have consumes : ∀ {α : Type} address {program : Program ChannelOp α}, program.Only Consumes →
      (tabling sender).Triple task (Followed none task) (onRing address program) fun _ =>
        Followed none task := by
    intro α address program only
    refine proper_triple (onRing_proper (only.mono fun op consumes => ?_))
    cases op <;> first | exact consumes.elim | exact id
  cases call with
  | dispatch update =>
    exact ask_follows trivial fun _ => (dispatchUpdate_routine sender update).follows
  | subscribe request =>
    exact triple_bind (upsertShm_follows request) fun _ => proper_triple (ask_proper trivial)
  | ping ping => exact triple_bind (touchPing_follows ping) fun _ => done_follows ()
  | consume ring =>
      refine ask_follows trivial fun opened => ?_
      split
      · exact consumes ring (runReader_consumes _)
      · exact done_follows ()
  | tryNext ring kind =>
    exact triple_bind (consumes ring (.perform trivial)) fun _ => done_follows ()
  | poll ring => exact consumes ring (.perform trivial)

end

/-! One size. -/

structure OneSize (size : Nat) (state : SenderState) : Prop where
  ring : ∀ address < state.allocated, (state.channels address).capacity = size
  entry : ∀ index entry, state.connections index = some entry → entry.sink.capacity = size

theorem OneSize.update {size : Nat} {state : SenderState} (sized : OneSize size state)
    {target : Nat}
    {channel : Channel SenderTask} (same : channel.capacity = (state.channels target).capacity) :
    ∀ address < state.allocated, (Function.update state.channels target channel address).capacity =
      size := by
  intro address bound
  by_cases here : address = target
  · subst here
    rw [Function.update_self, same]
    exact sized.ring address bound
  · rw [Function.update_of_ne here]
    exact sized.ring address bound

section
variable {connections : SlotIndex → Option ManagedConnection} {index other : SlotIndex}
  {entry new : ManagedConnection}

theorem update_none (tabled : Function.update connections index none other = some entry) :
    connections other = some entry := by
  by_cases same : other = index
  · subst same
    rw [Function.update_self] at tabled
    cases tabled
  · rwa [Function.update_of_ne same] at tabled

theorem update_some (tabled : Function.update connections index (some new) other = some entry) :
    new = entry ∨ connections other = some entry := by
  by_cases same : other = index
  · subst same
    rw [Function.update_self] at tabled
    exact .inl (Option.some.inj tabled)
  · rw [Function.update_of_ne same] at tabled
    exact .inr tabled

end

theorem OneSize.manager {size : Nat} {choice : SenderChoice} {task : SenderTask} {β : Type}
    {op : ManagerOp β} {before after : SenderState} {reply : β} (sized : OneSize size before)
    (guarded : Sized size (.manager op))
    (executed : before.execManager choice task op = some (reply, after)) : OneSize size after := by
  cases op with
  | compareAndSwap index current new =>
      simp only [SenderState.execManager] at executed
      split at executed <;> simp only [Option.some.injEq, Prod.mk.injEq] at executed <;>
        obtain ⟨-, rfl⟩ := executed
      · cases new with
        | none =>
          exact ⟨sized.ring, fun other entry tabled => sized.entry other entry (update_none tabled)⟩
        | some new =>
            refine ⟨sized.ring, fun other entry tabled => ?_⟩
            rcases update_some tabled with rfl | old
            · exact guarded
            · exact sized.entry other entry old
      · exact ⟨sized.ring, sized.entry⟩
  | dropProducer ring =>
      simp only [SenderState.execManager, Option.some.injEq, Prod.mk.injEq] at executed
      obtain ⟨-, rfl⟩ := executed
      exact ⟨sized.update rfl, sized.entry⟩
  | createQueue path capacity =>
      simp only [SenderState.execManager] at executed
      split at executed <;> simp only [Option.some.injEq, Prod.mk.injEq] at executed <;>
        obtain ⟨-, rfl⟩ := executed
      · exact sized
      · refine ⟨fun address bound => ?_, sized.entry⟩
        by_cases new : address = before.allocated
        · subst new
          have made :
            Function.update before.channels before.allocated (Channel.created SenderTask capacity)
              before.allocated = Channel.created SenderTask capacity := Function.update_self _ _ _
          exact (congrArg Channel.capacity made).trans guarded
        · have kept :
            Function.update before.channels before.allocated (Channel.created SenderTask capacity)
              address = before.channels address := Function.update_of_ne new _ _
          refine (congrArg Channel.capacity kept).trans (sized.ring address ?_)
          exact Nat.lt_of_le_of_ne (Nat.le_of_lt_succ bound) new
  | note note =>
      simp only [SenderState.execManager, Option.some.injEq, Prod.mk.injEq] at executed
      obtain ⟨-, rfl⟩ := executed
      unfold SenderState.record
      split <;> exact ⟨sized.ring, sized.entry⟩
  | _ =>
      simp only [SenderState.execManager] at executed
      repeat' split at executed
      all_goals simp only [reduceCtorEq, Option.some.injEq, Prod.mk.injEq] at executed
      all_goals obtain ⟨-, rfl⟩ := executed
      all_goals exact ⟨sized.ring, sized.entry⟩

theorem oneSize_persistent (sender : Sender) :
    (tabling sender).Persistent (OneSize (Nat.nextPowerOfTwo sender.ringCapacity)) := by
  intro choice task β op before reply after _ guarded executed sized
  cases op with
  | manager op => exact sized.manager guarded executed
  | channel address op =>
      obtain ⟨-, channel, ran, rfl⟩ := SenderState.execChannel_ring executed
      exact ⟨sized.update (execRing_writes ran).1, sized.entry⟩

/-! Every reachable state. -/

section
variable {sender : Sender} {files : List Path} {config : Config SenderOp SenderTask SenderState}

theorem senderCall_tables (sender : Sender) (task : SenderTask) (call : SenderCall)
    (may : (senderSystem sender).mayStart task call = true) :
    ((sending sender).both (tabling sender)).Triple task
      (((sending sender).both (tabling sender)).rest task)
      ((senderSystem sender).program call) fun _ =>
        ((sending sender).both (tabling sender)).rest task :=
  (senderCall_triple task call may).both (senderCall_follows task call)

theorem sender_tables (sender : Sender) (files : List Path) :
    Sound ((sending sender).both (tabling sender)) (senderStart files) := by
  have sound := sender_sound sender files
  refine Sound.ofIdle ⟨sound.inv, trivial⟩ (fun _ => rfl) fun task => ⟨sound.rest rfl, ?_⟩
  exact fun _ _ written => by cases written

theorem one_size (run : (senderSystem sender).Reachable (senderStart files) config) :
    OneSize (Nat.nextPowerOfTwo sender.ringCapacity) config.shared := by
  refine Sound.always (senderCall_tables sender) ?_ (sender_tables sender files) ?_ run
  · exact fun _ _ _ _ _ _ _ inv guarded executed =>
      oneSize_persistent sender inv.2 guarded.2 executed
  · exact ⟨fun _ bound => absurd bound (Nat.not_lt_zero _), fun _ _ tabled => by cases tabled⟩

theorem own_rings (run : (senderSystem sender).Reachable (senderStart files) config) :
    OwnRings config.shared.table := by
  have inv := (Sound.reachable senderCall_triple (sender_sound sender files) run).inv
  have size := one_size run
  have slot := inv.tabled.slot
  have bound : ∀ index entry, config.shared.connections index = some entry →
      entry.address < config.shared.allocated :=
    fun index entry here => inv.owned.numbered entry (slot index entry here).2.1
  refine ⟨fun index entry here => (slot index entry here).1, ?_, fun index entry here =>
    ⟨bound index entry here, ?_⟩, ?_⟩
  · intro index index' entry entry' here there different
    have apart : entry.address ≠ entry'.address := by
      intro same
      have equal := inv.tabled.unique entry (slot index entry here).2.1 entry'
        (slot index' entry' there).2.1 same
      exact different ((slot index entry here).1.symm.trans (equal ▸ (slot index' entry' there).1))
    refine ⟨apart, fun paths => apart ?_⟩
    rw [(inv.described.path entry (slot index entry here).2.1).1,
      (inv.described.path entry' (slot index' entry' there).2.1).1] at paths
    exact inv.filed.distinct _ (bound index entry here) _ (bound index' entry' there)
      (inv.owned.tabled index entry here) (inv.owned.tabled index' entry' there) paths
  · exact (size.ring _ (bound index entry here)).trans (size.entry index entry here).symm
  · exact fun index entry here => inv.described.filter entry (slot index entry here).2.1

/-- In every state the sender's tasks can come to, the connections of the table have slots, rings
and files of their own. All rings have the configured size, rounded up to a power of two. -/
theorem connections_apart (run : (senderSystem sender).Reachable (senderStart files) config) :
    OwnRings config.shared.table ∧ ∀ index entry, config.shared.connections index = some entry →
      entry.sink.capacity = Nat.nextPowerOfTwo sender.ringCapacity ∧
        entry.sink.path = sender.ringPath index entry.connectionId ∧
          entry.sink.path ∈ config.shared.files := by
  have inv := (Sound.reachable senderCall_triple (sender_sound sender files) run).inv
  refine ⟨own_rings run, fun index entry here => ⟨(one_size run).entry index entry here, ?_, ?_⟩⟩
  · obtain ⟨same, member, -⟩ := inv.tabled.slot index entry here
    rw [(inv.described.path entry member).2, same]
  · obtain ⟨-, member, -⟩ := inv.tabled.slot index entry here
    rw [(inv.described.path entry member).1]
    exact inv.filed.present _ (inv.owned.numbered entry member) (inv.owned.tabled index entry here)

end

def twoSubscribe : List SenderCommand :=
  [.start (.handler 0) (.subscribe sampleRequest),
    .start (.handler 1) (.subscribe sampleRequest)] ++
    takes (.handler 0) 7 ++ takes (.handler 1) 15 ++ takes (.handler 0) 25

theorem connections_apart_raced :
    ∃ config, (senderSystem sampleSender).Reachable (senderStart []) config ∧
      (config.shared.connections (0 : Fin 10)).map ManagedConnection.address = some 0 ∧
      (config.shared.connections (1 : Fin 10)).map ManagedConnection.address = some 2 ∧
      OwnRings config.shared.table ∧ ∀ index entry, config.shared.connections index = some entry →
        entry.sink.capacity = Nat.nextPowerOfTwo sampleSender.ringCapacity ∧
          entry.sink.path = sampleSender.ringPath index entry.connectionId ∧
            entry.sink.path ∈ config.shared.files := by
  have ran : ((senderSystem sampleSender).schedule (senderStart []) twoSubscribe).any (fun config =>
      (config.shared.connections (0 : Fin 10)).map ManagedConnection.address = some 0 ∧
        (config.shared.connections (1 : Fin 10)).map ManagedConnection.address = some 2) =
          true := by
    decide +kernel
  obtain ⟨config, run, checked⟩ := System.schedule_finds ran
  obtain ⟨first, second⟩ := of_decide_eq_true checked
  exact ⟨config, run, first, second, connections_apart run⟩

section
variable {sender : Sender} {files : List Path} {config : Config SenderOp SenderTask SenderState}

theorem never_closed (run : (senderSystem sender).Reachable (senderStart files) config)
    (idle : ∀ task, Sends task → config.pool task = .done ()) {index : SlotIndex}
    {entry : ManagedConnection} (here : config.shared.connections index = some entry) :
    sentinelBytes ∉ (config.shared.channels entry.address).sent := by
  -- The ring of a connection is open for as long as nobody is in the middle of evicting it.
  have sound := Sound.reachable (senderCall_tables sender) (sender_tables sender files) run
  intro closed
  obtain ⟨⟨writer, bytes⟩, written, rfl⟩ := List.mem_map.mp closed
  -- Only dispatchers and handlers write sentinels, and each of them went on to take the ring out.
  have sends : Sends writer := by
    obtain ⟨item, same, allowed⟩ := (sound.inv.1.wired.ring entry.address).1.items _ written
    cases item with
    | frame body => exact absurd same.symm (Item.frame_ne_sentinel body)
    | sentinel => cases writer <;> trivial
  have swapped := (sound.rest (idle writer sends)).2 entry.address
    (fun never => by cases never) written
  exact (sound.inv.1.tabled.slot index entry here).2.2 (sound.inv.1.tabled.gone _ swapped)

theorem all_notified (run : (senderSystem sender).Reachable (senderStart files) config)
    (idle : ∀ task, Sends task → config.pool task = .done ()) (address : Nat) :
    (config.shared.channels address).owing = [] := by
  have inv := (Sound.reachable senderCall_triple (sender_sound sender files) run).inv
  refine List.eq_nil_iff_forall_not_mem.mpr fun task owes => ?_
  exact unheld run idle task address (inv.wired.owing address task owes)

/-- Once the dispatchers and handlers are idle no connection is left half evicted: whatever is in
the table has an open ring, all of whose frames were announced. -/
theorem none_half_evicted (run : (senderSystem sender).Reachable (senderStart files) config)
    (idle : ∀ task, Sends task → config.pool task = .done ()) (index : SlotIndex)
    (entry : ManagedConnection) (here : config.shared.connections index = some entry) :
    sentinelBytes ∉ (config.shared.channels entry.address).sent ∧
      (config.shared.channels entry.address).owing = [] :=
  ⟨never_closed run idle here, all_notified run idle entry.address⟩

end

def slowEvicted : List SenderCommand :=
  [.start (.handler 0) (.subscribe sampleRequest)] ++ takes (.handler 0) 15 ++
    [.start (.handler 1) (.subscribe sampleRequest)] ++ takes (.handler 1) 19 ++
    [.start (.dispatcher .account) (.dispatch (.account sampleAccountUpdate))] ++ takes
      (.dispatcher .account) 26 ++
    [.start (.reader 0) (.consume 0)] ++ takes (.reader 0) 6 ++
    [.start (.dispatcher .account) (.dispatch (.account sampleAccountUpdate))] ++ takes
      (.dispatcher .account) 34

-- The first client's ring has taken two frames, and the second is not read yet.
theorem none_half_evicted_slow :
    ∃ config entry, (senderSystem sampleSender).Reachable (senderStart []) config ∧
      (∀ task, Sends task → config.pool task = .done ()) ∧ config.shared.removed = [1] ∧
      config.shared.connections (0 : Fin 10) = some entry ∧
        (config.shared.channels entry.address).sent.length = 2 ∧
      (config.shared.channels entry.address).queue ≠ [] ∧
      sentinelBytes ∉ (config.shared.channels entry.address).sent ∧
      (config.shared.channels entry.address).owing = [] := by
  have ran : ((senderSystem sampleSender).schedule (senderStart []) slowEvicted).any (fun config =>
      (∀ task ∈ [SenderTask.handler 0, .handler 1, .dispatcher .account],
        (config.pool task).isDone = true) ∧
        config.shared.removed = [1] ∧ (config.shared.connections (0 : Fin 10)).any fun entry =>
          (config.shared.channels entry.address).sent.length = 2 ∧
          (config.shared.channels entry.address).queue ≠ []) = true := by
    decide +kernel
  obtain ⟨config, finished, checked⟩ := (Option.any_eq_true _ _).mp ran
  obtain ⟨done, removed, slot⟩ := of_decide_eq_true checked
  obtain ⟨entry, here, seen⟩ := (Option.any_eq_true _ _).mp slot
  obtain ⟨taken, unread⟩ := of_decide_eq_true seen
  have run := System.schedule_reachable finished
  have outside :
    ∀ task, task ∉ [SenderTask.handler 0, .handler 1, .dispatcher .account, .reader 0] →
      config.pool task = .done () :=
    fun task other => System.schedule_outside finished (by decide) other
  have idle : ∀ task, Sends task → config.pool task = .done () := by
    intro task sends
    by_cases named : task ∈ [SenderTask.handler 0, .handler 1, .dispatcher .account]
    · exact Program.eq_done (done task named)
    · refine outside task fun member => named ?_
      cases task <;> simp_all [Sends]
  exact ⟨config, entry, run, idle, removed, here, taken, unread,
    none_half_evicted run idle (0 : Fin 10) entry here⟩

end Qlaster
