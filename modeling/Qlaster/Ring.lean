import Qlaster.Reading

/-!
Any number of producers pushing into and closing one ring, and one consumer
popping from it, with every operation of every call interleaved.
-/

namespace Qlaster

open LittleEndian Interleaving Interleaving.Discipline

inductive RingCall
  | push (parts : List Bytes)
  | close
  | pop

def ringProgram (capacity : Nat) : RingCall → Program ChannelOp Unit
  | .push parts => do
      let result ← ringTryPush capacity parts
      .perform (.note (.pushReturned parts result))
  | .close => do
      ringClose
      .perform (.note .closeReturned)
  | .pop => do
      let result ← tryPop
      .perform (.note (.popReturned result))

section
variable {Task : Type} [DecidableEq Task]

/-- Pushes of every size the length field can tell from the sentinel; only the consumer pops. -/
def ringMayStart (consumer task : Task) : RingCall → Bool
  | .push parts => decide (task ≠ consumer ∧ (parts.map List.length).sum < 2 ^ 32 - 1)
  | .close => decide (task ≠ consumer)
  | .pop => decide (task = consumer)

def ringSystem (capacity : Nat) (consumer : Task) :
    System ChannelOp Task (Channel Task) ChannelChoice RingCall :=
  channelSystem (ringProgram capacity) (ringMayStart consumer)

def ringStart (Task : Type) (capacity : Nat) : Config ChannelOp Task (Channel Task) where
  shared := Channel.created Task capacity
  pool := fun _ => .done ()

/-! What the callers are told. -/

def Channel.unreportedOf (channel : Channel Task) (task : Task) : List Bytes :=
  (channel.unreported.filter fun write => write.1 = task).map Prod.snd

def reportGuard (task : Task) : {β : Type} → ChannelOp β → Channel Task → Prop
  | _, .note (.pushReturned parts result), channel =>
      (match result with
        | .ok _ => channel.unreportedOf task =
            [framed (UInt32.ofNat (parts.map List.length).sum) parts]
        | .error _ => channel.unreportedOf task = []) ∧
      channel.fullPending.count task = if isShmFull result then 1 else 0
  | _, _, _ => True

/-- What a task knows of its own reports, which no other task touches. -/
structure Reports (task : Task) (written : List Bytes) (full : Nat) (channel : Channel Task) :
    Prop where
  unreported : channel.unreportedOf task = written
  pending : channel.fullPending.count task = full

theorem Channel.unreportedOf_append (channel : Channel Task) (task other : Task) (bytes : Bytes) :
    (channel.append other bytes).unreportedOf task =
      channel.unreportedOf task ++ if other = task then [bytes] else [] := by
  unfold Channel.unreportedOf Channel.append
  by_cases same : other = task <;> simp [same]

theorem Channel.unreportedOf_report (channel : Channel Task) (task other : Task) :
    (channel.report other).unreportedOf task =
      if other = task then [] else channel.unreportedOf task := by
  unfold Channel.unreportedOf Channel.report
  by_cases same : other = task
  · subst same
    simp [List.filter_filter]
  · have kept : ∀ write : Task × Bytes, (decide (write.1 = task) && decide (write.1 ≠ other)) =
        decide (write.1 = task) := by
      intro write
      by_cases mine : write.1 = task
      · simp [mine, Ne.symm same]
      · simp [mine]
    simp only [List.filter_filter, kept, same, if_false]

omit [DecidableEq Task] in
theorem Channel.markClose_reports (channel : Channel Task) (bytes : Bytes) :
    (channel.markClose bytes).unreported = channel.unreported ∧
      (channel.markClose bytes).fullPending = channel.fullPending := by
  unfold Channel.markClose
  split <;> simp

def Silent : {β : Type} → ChannelOp β → Prop
  | _, .tryWriteSlice _ => False
  | _, .fetchAddDropped => False
  | _, .note (.pushReturned _ _) => False
  | _, .note .closeReturned => False
  | _, _ => True

theorem Reports.silent {task other : Task} {written : List Bytes} {full : Nat}
    {choice : ChannelChoice} {β : Type} {op : ChannelOp β} {before after : Channel Task} {reply : β}
    (reports : Reports task written full before)
    (executed : before.exec choice other op = some (reply, after)) (silent : Silent op) :
    Reports task written full after := by
  cases op with
  | tryWriteSlice bytes => exact silent.elim
  | fetchAddDropped => exact silent.elim
  | note note =>
      simp only [Channel.exec, Option.some.injEq, Prod.mk.injEq] at executed
      obtain ⟨-, rfl⟩ := executed
      cases note with
      | pushReturned parts result => exact silent.elim
      | closeReturned => exact silent.elim
      | popReturned result => cases result <;> exact ⟨reports.unreported, reports.pending⟩
      | readerReturned closed => exact ⟨reports.unreported, reports.pending⟩
  | _ =>
      simp only [Channel.exec] at executed
      repeat' split at executed
      all_goals simp only [reduceCtorEq, Option.some.injEq, Prod.mk.injEq] at executed
      all_goals obtain ⟨-, rfl⟩ := executed
      all_goals exact ⟨reports.unreported, reports.pending⟩

theorem Reports.other {task other : Task} {written : List Bytes} {full : Nat}
    {choice : ChannelChoice} {β : Type} {op : ChannelOp β} {before after : Channel Task} {reply : β}
    (reports : Reports task written full before) (different : other ≠ task)
    (executed : before.exec choice other op = some (reply, after)) :
    Reports task written full after := by
  cases op with
  | tryWriteSlice bytes =>
      obtain ⟨unreported, pending⟩ := before.markClose_reports bytes
      simp only [Channel.exec] at executed
      split at executed <;> simp only [Option.some.injEq, Prod.mk.injEq] at executed <;>
        obtain ⟨-, rfl⟩ := executed
      · refine ⟨?_, ?_⟩
        · rw [Channel.unreportedOf_append, if_neg different, List.append_nil, Channel.unreportedOf,
            unreported]
          exact reports.unreported
        · show (before.markClose bytes).fullPending.count task = full
          rw [pending]
          exact reports.pending
      · refine ⟨?_, ?_⟩
        · rw [Channel.unreportedOf, unreported]
          exact reports.unreported
        · rw [pending]
          exact reports.pending
  | fetchAddDropped =>
      simp only [Channel.exec, Option.some.injEq, Prod.mk.injEq] at executed
      obtain ⟨-, rfl⟩ := executed
      refine ⟨reports.unreported, ?_⟩
      simpa [List.count_cons, different] using reports.pending
  | note note =>
      have cleared : (before.report other).unreportedOf task = written := by
        rw [Channel.unreportedOf_report, if_neg different]
        exact reports.unreported
      cases note with
      | pushReturned parts result =>
          simp only [Channel.exec, Channel.record, Option.some.injEq, Prod.mk.injEq] at executed
          obtain ⟨-, rfl⟩ := executed
          split
          · refine ⟨cleared, ?_⟩
            show (before.fullPending.erase other).count task = full
            rw [List.count_erase_of_ne (Ne.symm different)]
            exact reports.pending
          · exact ⟨cleared, reports.pending⟩
      | closeReturned =>
          simp only [Channel.exec, Channel.record, Option.some.injEq, Prod.mk.injEq] at executed
          obtain ⟨-, rfl⟩ := executed
          exact ⟨cleared, reports.pending⟩
      | popReturned result => exact reports.silent executed trivial
      | readerReturned closed => exact reports.silent executed trivial
  | _ => exact reports.silent executed trivial

def DroppedCounted (channel : Channel Task) : Prop :=
  channel.droppedFrames = UInt64.ofNat (channel.fullReturned + channel.fullPending.length)

theorem DroppedCounted.exec {choice : ChannelChoice} {task : Task} {β : Type} {op : ChannelOp β}
    {before after : Channel Task} {reply : β} (counted : DroppedCounted before)
    (guarded : reportGuard task op before)
    (executed : before.exec choice task op = some (reply, after)) : DroppedCounted after := by
  unfold DroppedCounted at counted ⊢
  cases op with
  | tryWriteSlice bytes =>
      simp only [Channel.exec] at executed
      split at executed <;> simp only [Option.some.injEq, Prod.mk.injEq] at executed <;>
        obtain ⟨-, rfl⟩ := executed
      all_goals
        unfold Channel.markClose
        split <;> exact counted
  | fetchAddDropped =>
      simp only [Channel.exec, Option.some.injEq, Prod.mk.injEq] at executed
      obtain ⟨-, rfl⟩ := executed
      simp only [counted, List.length_cons, ← Nat.add_assoc]
      rw [UInt64.ofNat_add (before.fullReturned + before.fullPending.length) 1]
      rfl
  | note note =>
      simp only [Channel.exec, Option.some.injEq, Prod.mk.injEq] at executed
      obtain ⟨-, rfl⟩ := executed
      cases note with
      | pushReturned parts result =>
          simp only [Channel.record]
          split
          · rename_i full
            have member : task ∈ before.fullPending := by
              have count := guarded.2
              rw [if_pos full] at count
              exact List.count_pos_iff.mp (by omega)
            have length := List.length_erase_of_mem member
            have positive := List.length_pos_of_mem member
            have moved : before.fullReturned + 1 + (before.fullPending.erase task).length =
                before.fullReturned + before.fullPending.length := by omega
            show before.droppedFrames = _
            rw [counted, moved]
          · exact counted
      | closeReturned => exact counted
      | popReturned result => cases result <;> exact counted
      | readerReturned closed => exact counted
  | _ =>
      simp only [Channel.exec] at executed
      repeat' split at executed
      all_goals simp only [reduceCtorEq, Option.some.injEq, Prod.mk.injEq] at executed
      all_goals obtain ⟨-, rfl⟩ := executed
      all_goals exact counted

variable (capacity : Nat) (consumer : Task)

def reporting : Discipline (ringSystem capacity consumer) where
  inv := DroppedCounted
  guard task _ op channel := reportGuard task op channel
  rest task channel := Reports task [] 0 channel
  preserved := fun counted guarded executed => counted.exec guarded executed
  rest_stable := fun different _ _ executed reports => reports.other different executed

variable {capacity consumer}

theorem reports_stable (task : Task) (written : List Bytes) (full : Nat) :
    (reporting capacity consumer).Stable task (Reports task written full) := by
  rintro before after ⟨-, other, choice, β, op, reply, different, -, executed⟩ reports
  exact reports.other different executed

theorem push_reports (task : Task) (parts : List Bytes) :
    (reporting capacity consumer).Triple task (Reports task [] 0) (ringTryPush capacity parts)
      fun result => Reports task
        (match result with
          | .ok _ => [framed (UInt32.ofNat (parts.map List.length).sum) parts]
          | .error _ => [])
        (if isShmFull result then 1 else 0) := by
  unfold ringTryPush
  simp only
  split
  · exact triple_done (reports_stable task [] 0) fun _ _ reports => reports
  · split
    · exact triple_done (reports_stable task [] 0) fun _ _ reports => reports
    · have write : (reporting capacity consumer).Triple task (Reports task [] 0)
          (.perform (.tryWriteSlice (framed (UInt32.ofNat (parts.map List.length).sum) parts)))
          fun accepted => Reports task (if accepted then
            [framed (UInt32.ofNat (parts.map List.length).sum) parts] else []) 0 := by
        refine triple_perform (reports_stable task [] 0) (fun _ => reports_stable task _ 0)
          (fun _ _ _ => trivial) ?_
        intro choice channel reply after _ reports executed
        generalize framed (UInt32.ofNat (parts.map List.length).sum) parts = bytes at executed
        obtain ⟨unreported, pending⟩ := channel.markClose_reports bytes
        have mine : (channel.markClose bytes).unreportedOf task = [] := by
          rw [Channel.unreportedOf, unreported]
          exact reports.unreported
        simp only [ringSystem, channelSystem, Channel.exec] at executed
        split at executed <;> simp only [Option.some.injEq, Prod.mk.injEq] at executed <;>
          obtain ⟨rfl, rfl⟩ := executed
        · refine ⟨?_, ?_⟩
          · rw [Channel.unreportedOf_append, mine, if_pos rfl]
            rfl
          · show (channel.markClose bytes).fullPending.count task = 0
            rw [pending]
            exact reports.pending
        · exact ⟨mine, by rw [pending]; exact reports.pending⟩
      refine triple_bind write fun accepted => ?_
      cases accepted with
      | true => exact triple_done (reports_stable task _ 0) fun _ _ reports => reports
      | false =>
          have count : (reporting capacity consumer).Triple task (Reports task [] 0)
              (.perform .fetchAddDropped) fun _ => Reports task [] 1 := by
            refine triple_perform (reports_stable task [] 0) (fun _ => reports_stable task [] 1)
              (fun _ _ _ => trivial) ?_
            intro choice channel reply after _ reports executed
            simp only [ringSystem, channelSystem, Channel.exec, Option.some.injEq,
              Prod.mk.injEq] at executed
            obtain ⟨-, rfl⟩ := executed
            exact ⟨reports.unreported, by simp [reports.pending]⟩
          refine triple_bind count fun _ => ?_
          exact triple_done (reports_stable task [] 1) fun _ _ reports => reports

omit [DecidableEq Task] in
theorem Pops.silent {β : Type} (op : ChannelOp β) (pops : Pops op) : Silent op := by
  cases op with
  | reserveReadBatch len => trivial
  | storeClosed => trivial
  | trace event => trivial
  | _ => exact pops.elim

theorem ringCall_reports (task : Task) (call : RingCall) :
    (reporting capacity consumer).Triple task (Reports task [] 0) (ringProgram capacity call)
      fun _ => Reports task [] 0 := by
  cases call with
  | push parts =>
      refine triple_bind (push_reports task parts) fun result => ?_
      refine triple_perform (reports_stable _ _ _) (fun _ => reports_stable _ _ _) ?_ ?_
      · intro channel _ reports
        refine ⟨?_, reports.pending⟩
        cases result <;> exact reports.unreported
      · intro choice channel reply after _ reports executed
        simp only [ringSystem, channelSystem, Channel.exec, Channel.record, Option.some.injEq,
          Prod.mk.injEq] at executed
        obtain ⟨-, rfl⟩ := executed
        have cleared : (channel.report task).unreportedOf task = [] := by
          rw [Channel.unreportedOf_report, if_pos rfl]
        have pending := reports.pending
        split
        · rename_i full
          rw [if_pos full] at pending
          refine ⟨cleared, ?_⟩
          show (channel.fullPending.erase task).count task = 0
          rw [List.count_erase_self, pending]
        · rename_i notFull
          rw [if_neg notFull] at pending
          exact ⟨cleared, pending⟩
  | close =>
      have close : (reporting capacity consumer).Triple task (Reports task [] 0) ringClose
          fun _ channel => channel.fullPending.count task = 0 := by
        have stable : (reporting capacity consumer).Stable task
            fun channel => channel.fullPending.count task = 0 := by
          rintro before after ⟨-, other, choice, β, op, reply, different, -, executed⟩ pending
          have reports : Reports task _ 0 before := ⟨rfl, pending⟩
          exact (reports.other different executed).pending
        have write : (reporting capacity consumer).Triple task (Reports task [] 0)
            (.perform (.tryWriteSlice sentinelBytes))
            fun _ channel => channel.fullPending.count task = 0 := by
          refine triple_perform (reports_stable _ _ _) (fun _ => stable) (fun _ _ _ => trivial) ?_
          intro choice channel reply after _ reports executed
          have pending := (channel.markClose_reports sentinelBytes).2
          simp only [ringSystem, channelSystem, Channel.exec] at executed
          split at executed <;> simp only [Option.some.injEq, Prod.mk.injEq] at executed <;>
            obtain ⟨-, rfl⟩ := executed
          all_goals
            show (channel.markClose sentinelBytes).fullPending.count task = 0
            rw [pending]
            exact reports.pending
        exact triple_bind write fun _ => triple_done stable fun _ _ pending => pending
      refine triple_bind close fun _ => triple_perform ?_ (fun _ => reports_stable _ _ _) ?_ ?_
      · rintro before after ⟨-, other, choice, β, op, reply, different, -, executed⟩ pending
        have reports : Reports task _ 0 before := ⟨rfl, pending⟩
        exact (reports.other different executed).pending
      · exact fun _ _ _ => trivial
      · intro choice channel reply after _ pending executed
        simp only [ringSystem, channelSystem, Channel.exec, Channel.record, Option.some.injEq,
          Prod.mk.injEq] at executed
        obtain ⟨-, rfl⟩ := executed
        exact ⟨by rw [Channel.unreportedOf_report, if_pos rfl], pending⟩
  | pop =>
      have silently : (ringProgram capacity .pop).Only Silent :=
        (tryPop_pops.mono Pops.silent).bind fun result => Program.Only.perform trivial
      refine triple_only silently (reports_stable _ _ _) ?_ ?_
      · intro β op channel silent _ _
        cases op with
        | note note =>
            cases note with
            | pushReturned parts result => exact silent.elim
            | _ => trivial
        | _ => trivial
      · intro choice β op channel reply after silent _ reports executed
        exact reports.silent executed silent

/-! The ring in every reachable state. -/

theorem pop_triple :
    (framing (ringProgram capacity) (ringMayStart consumer) consumer (fun _ item => item.Valid)
      (fun _ => none) .popping fun _ _ valid => valid).Triple consumer
      (fun channel => ∃ n, AtItem .popping (fun _ => none) n channel) (ringProgram capacity .pop)
      fun _ channel => ∃ n, AtItem .popping (fun _ => none) n channel := by
  refine triple_exists fun n => triple_bind (tryPop_triple n) fun result => ?_
  refine triple_perform (framing_stable fun _ _ frame popped => popped.frame frame)
    (fun _ => framing_stable fun _ _ frame ⟨n, place⟩ => ⟨n, place.frame frame⟩) ?_ ?_
  · intro channel _ popped
    cases result with
    | some body =>
        refine ⟨rfl, ?_⟩
        have counts : channel.popped = bodies (channel.sent.take n) := popped.1.counts
        rw [counts, ← bodies_take_frame popped.2.2]
        exact bodies_grow (List.take_prefix _ _)
    | none =>
        refine ⟨rfl, ?_⟩
        rcases popped with ⟨-, checking⟩ | ⟨place, closed, found⟩
        · exact .inl checking
        · exact .inr ⟨closed, n, place.reads, found⟩
  · intro choice channel reply after _ popped executed
    simp only [channelSystem, Channel.exec, Option.some.injEq, Prod.mk.injEq] at executed
    obtain ⟨-, rfl⟩ := executed
    cases result with
    | some body =>
        obtain ⟨accounted, reads, found⟩ := popped
        have counts : channel.popped = bodies (channel.sent.take n) := accounted.counts
        refine ⟨n + 1, ⟨reads.within, ?_, ?_, ?_⟩, reads⟩
        · show channel.popped ++ [body] = bodies (channel.sent.take (n + 1))
          rw [counts, bodies_take_frame found]
        · intro closed
          obtain ⟨m, bound, sentinel⟩ := accounted.closed closed
          exact ⟨m, by omega, sentinel⟩
        · intro opened
          refine (accounted.opened opened).succ ?_
          show channel.sent[n]? ≠ some sentinelBytes
          rw [found]
          exact fun same => Item.frame_ne_sentinel body (Option.some.inj same)
    | none =>
        rcases popped with ⟨place, -⟩ | ⟨place, -, -⟩
        · exact ⟨n, place⟩
        · exact ⟨n + 1, place⟩

theorem ringCall_framed (task : Task) (call : RingCall)
    (may : ringMayStart consumer task call = true) :
    (framing (ringProgram capacity) (ringMayStart consumer) consumer (fun _ item => item.Valid)
      (fun _ => none) .popping fun _ _ valid => valid).Triple task
      (fun channel => task = consumer → ∃ n, AtItem .popping (fun _ => none) n channel)
      (ringProgram capacity call)
      fun _ channel => task = consumer → ∃ n, AtItem .popping (fun _ => none) n channel := by
  cases call with
  | push parts =>
      simp only [ringMayStart, decide_eq_true_eq] at may
      have fits : (Item.frame parts.flatten).Valid := by
        rw [Item.Valid, List.length_flatten]
        exact may.2
      refine writer_triple may.1 (fun _ permission => permission) ?_
      exact (ringTryPush_writes capacity parts fits).bind fun result => Program.Only.perform trivial
  | close =>
      simp only [ringMayStart, decide_eq_true_eq] at may
      refine writer_triple may (fun item (permission : item.Valid) => permission) ?_
      exact (ringClose_writes trivial).bind fun _ => Program.Only.perform trivial
  | pop =>
      simp only [ringMayStart, decide_eq_true_eq] at may
      subst may
      exact triple_weaken pop_triple (fun _ _ place => place rfl) fun _ _ _ place _ => place

/-- What is true of the ring and its callers at every point of a run. -/
structure RingCorrect (consumer : Task) (config : Config ChannelOp Task (Channel Task)) : Prop where
  -- The unread bytes are whole items, behind the rest of the item the consumer is taking when it
  -- is inside a pop.
  whole : ∃ (items : List Item) (n : Nat), (∀ item ∈ items, item.Valid) ∧
    config.shared.sent = items.map Item.bytes ∧
    (config.shared.queue = ((items.drop n).map Item.bytes).flatten ∨
      config.pool consumer ≠ .done () ∧ ∃ body, items[n]? = some (.frame body) ∧
        config.shared.queue = body ++ ((items.drop (n + 1)).map Item.bytes).flatten)
  -- Pops have returned the accepted frames, oldest first.
  fifo : config.shared.popped <+: bodies config.shared.sent
  -- A pop about to return a frame returns the oldest one not yet popped.
  popSome : ∀ body next, config.pool consumer = .request (.note (.popReturned (some body))) next →
    config.shared.popped ++ [body] <+: bodies config.shared.sent
  -- A pop about to return nothing found the ring empty, or took the sentinel and set `closed`.
  popNone : ∀ next, config.pool consumer = .request (.note (.popReturned none)) next →
    config.shared.phase = .checking ∨ config.shared.closed = true ∧
      ∃ n, Reads config.shared.sent config.shared.taken (n + 1) ∧
        config.shared.sent[n]? = some sentinelBytes
  noPartialFrame : ∀ task requested received next,
    config.pool task ≠ .request (.trace (.partialFrame requested received)) next
  -- A push about to return `Ok` has written its parts as one frame.
  pushOk : ∀ task parts next, config.pool task = .request (.note (.pushReturned parts (.ok ())))
    next →
    config.shared.unreportedOf task = [(Item.frame parts.flatten).bytes]
  -- A push about to return an error has written nothing.
  pushErr : ∀ task parts error next,
    config.pool task = .request (.note (.pushReturned parts (.error error))) next →
    config.shared.unreportedOf task = []
  -- `dropped_frames` is the number of `ShmFull` results, returned or about to be.
  dropped : config.shared.droppedFrames =
    UInt64.ofNat (config.shared.fullReturned + config.shared.fullPending.length)
  pending : ∀ task ∈ config.shared.fullPending, config.pool task ≠ .done ()

theorem ring_sound {config : Config ChannelOp Task (Channel Task)}
    (run : (ringSystem capacity consumer).Reachable (ringStart Task capacity) config) :
    Sound ((framing (ringProgram capacity) (ringMayStart consumer) consumer
      (fun _ item => item.Valid) (fun _ => none) .popping fun _ _ valid => valid).both
        (reporting capacity consumer)) config := by
  refine Sound.reachable ?_ (Sound.ofIdle ?_ (fun _ => rfl) ?_) run
  · intro task call may
    exact (ringCall_framed task call may).both (ringCall_reports task call)
  · exact ⟨Framed.created capacity, rfl⟩
  · intro task
    refine ⟨fun _ => ⟨0, ⟨by simp, rfl, ?_, ?_⟩, by simp, rfl⟩, rfl, rfl⟩
    · intro closed
      simp [ringStart, Channel.created] at closed
    · intro _ m bound
      omega

omit [DecidableEq Task] in
theorem items_of_framed {allowed : Task → Item → Prop} {decode : Bytes → Option Update}
    {channel : Channel Task} (framed : Framed allowed decode channel)
    (valid : ∀ task item, allowed task item → item.Valid) :
    ∃ items : List Item, (∀ item ∈ items, item.Valid) ∧ channel.sent = items.map Item.bytes := by
  have each : ∀ bytes ∈ channel.sent, ∃ item, Item.Valid item ∧ item.bytes = bytes := by
    intro bytes member
    obtain ⟨write, written, rfl⟩ := List.mem_map.mp member
    obtain ⟨item, same, permitted⟩ := framed.items write written
    exact ⟨item, valid _ _ permitted, same.symm⟩
  revert each
  induction channel.sent with
  | nil => exact fun _ => ⟨[], by simp, rfl⟩
  | cons bytes rest ih =>
      intro each
      obtain ⟨item, itemValid, rfl⟩ := each bytes (by simp)
      obtain ⟨items, itemsValid, rfl⟩ := ih fun bytes member => each bytes (by simp [member])
      refine ⟨item :: items, ?_, rfl⟩
      simpa using ⟨itemValid, itemsValid⟩

/--
Over every run, with any number of producers pushing and closing and one consumer
popping: the ring holds whole items, pops return the accepted frames in order, no
read is ever partial, and the results tell what was written and dropped.
-/
theorem ring_correct (config : Config ChannelOp Task (Channel Task))
    (run : (ringSystem capacity consumer).Reachable (ringStart Task capacity) config) :
    RingCorrect consumer config := by
  have sound := ring_sound run
  obtain ⟨framed, counted⟩ := sound.inv
  refine ⟨?_, framed.popped, ?_, ?_, ?_, ?_, ?_, counted, ?_⟩
  · obtain ⟨items, valid, sent⟩ := items_of_framed framed fun _ _ valid => valid
    have unread : ∀ n, ((items.drop n).map Item.bytes) = config.shared.sent.drop n := by
      intro n
      rw [sent, List.map_drop]
    by_cases idle : config.pool consumer = .done ()
    · obtain ⟨n, place⟩ := (sound.rest idle).1 rfl
      refine ⟨items, n, valid, sent, .inl ?_⟩
      rw [unread]
      exact place.reads.unread framed.flow
    · rcases framed.placed with ⟨n, reads⟩ | ⟨n, body, inside⟩
      · refine ⟨items, n, valid, sent, .inl ?_⟩
        rw [unread]
        exact reads.unread framed.flow
      · refine ⟨items, n, valid, sent, .inr ⟨idle, body, ?_, ?_⟩⟩
        · have found := inside.item
          rw [sent, List.getElem?_map, Option.map_eq_some_iff] at found
          obtain ⟨item, here, same⟩ := found
          rw [here, Item.eq_frame same.symm]
        · rw [unread]
          exact inside.unread framed.flow
  · exact fun body next running => (sound.guard running).1.2
  · exact fun next running => (sound.guard running).1.2
  · exact fun task requested received next running => (sound.guard running).1
  · intro task parts next running
    rw [← framed_eq]
    exact (sound.guard running).2.1
  · exact fun task parts error next running => (sound.guard running).2.1
  · intro task member idle
    have none := (sound.rest idle).2.pending
    rw [List.count_eq_zero] at none
    exact none member

end

-- Two producers and a consumer: a frame is popped, and the sentinel behind it closes the ring.
theorem ring_correct_closed :
    ∃ config, (ringSystem 64 (0 : Nat)).Reachable (ringStart Nat 64) config ∧
      config.shared.popped = [[7, 8, 9]] ∧ config.shared.closed = true ∧ RingCorrect 0 config := by
  have ran : ((ringSystem 64 (0 : Nat)).schedule (ringStart Nat 64)
      [.start 1 (.push [[7, 8], [9]]), .start 2 .close, .step 1 {}, .start 0 .pop, .step 2 {},
        .step 0 {}, .step 0 {}, .step 1 {}, .step 0 {}, .start 0 .pop, .step 0 {}, .step 0 {}]).any
      (fun config => config.shared.popped = [[7, 8, 9]] ∧ config.shared.closed = true) = true := by
    decide +kernel
  obtain ⟨config, run, checked⟩ := System.schedule_finds ran
  obtain ⟨popped, closed⟩ := of_decide_eq_true checked
  exact ⟨config, run, popped, closed, ring_correct config run⟩

end Qlaster
