import Mathlib.Data.List.Basic
import Qlaster.Delivery

/-!
How a consumer learns that its slot is gone: by the sentinel in the ring, or by the
ring file's absence when it next looks. The file is removed without a notify, and the
reader looks for it after its last pop; both matter to when the signals can be missed.
-/

namespace Qlaster

open Interleaving Interleaving.Discipline

/-! Ring paths. -/

theorem joinOsPath_injective (dir : Path) : Function.Injective (joinOsPath dir) := by
  intro first second same
  unfold joinOsPath at same
  split at same
  · exact List.append_cancel_left same
  · exact List.tail_eq_of_cons_eq (List.append_cancel_left same)

theorem dash_notMem_toDigits (number : Nat) : '-' ∉ Nat.toDigits 10 number := by
  intro member
  have digit := Nat.isDigit_of_mem_toDigits (by decide) (by decide) member
  simp [Char.isDigit] at digit

theorem Sender.ringPath_connectionId {sender : Sender} {index other : SlotIndex} {id id' : UInt64}
    (same : sender.ringPath index id = sender.ringPath other id') : id = id' := by
  have texts := PrefixCode.utf8_inj (joinOsPath_injective _ same)
  have names := String.ofList_injective texts
  simp only [List.append_assoc, List.cons_append] at names
  have rest := List.tail_eq_of_cons_eq (List.append_cancel_left names)
  rw [List.append_cons_inj_of_notMem (dash_notMem_toDigits _) (dash_notMem_toDigits _)] at rest
  have numbers := congrArg (fun digits => Nat.ofDigitChars 10 digits 0) rest.2.2
  simp only [Nat.ofDigitChars_ten_toDigits] at numbers
  exact UInt64.toNat_inj.mp numbers

section
variable {sender : Sender} {choice : SenderChoice} {task : SenderTask} {β : Type} {op : SenderOp β}
  {before after : SenderState} {reply : β}

theorem exec_files (guarded : senderGuard sender task op before) (inv : SenderInv sender before)
    (executed : before.exec choice task op = some (reply, after)) {path : Path}
    (present : path ∈ after.files) : path ∈ before.files ∨
      ∃ ordinal index, before.claims task = some ordinal ∧
        path = sender.ringPath index (UInt64.ofNat (ordinal + 1)) := by
  cases op with
  | channel address op =>
      obtain ⟨_, _, _, _, rfl⟩ := SenderState.execChannel_exec inv executed
      exact .inl present
  | manager op =>
      simp only [SenderState.exec] at executed
      cases op with
      | createNew name =>
          simp only [SenderState.execManager] at executed
          repeat' split at executed
          all_goals simp only [Option.some.injEq, Prod.mk.injEq] at executed
          all_goals obtain ⟨-, rfl⟩ := executed
          · exact .inl present
          · exact .inl present
          · rcases List.mem_cons.mp present with rfl | old
            · exact .inr guarded
            · exact .inl old
      | dropProducer ring =>
          simp only [SenderState.execManager, Option.some.injEq, Prod.mk.injEq] at executed
          obtain ⟨-, rfl⟩ := executed
          exact .inl (List.mem_filter.mp present).1
      | removeFile name =>
          simp only [SenderState.execManager, Option.some.injEq, Prod.mk.injEq] at executed
          obtain ⟨-, rfl⟩ := executed
          exact .inl (List.mem_filter.mp present).1
      | compareAndSwap index current new =>
          cases inv.swap guarded executed <;> exact .inl present
      | note note =>
          simp only [SenderState.execManager, Option.some.injEq, Prod.mk.injEq] at executed
          obtain ⟨-, rfl⟩ := executed
          unfold SenderState.record at present
          split at present <;> exact .inl present
      | _ =>
          simp only [SenderState.execManager] at executed
          repeat' split at executed
          all_goals simp only [reduceCtorEq, Option.some.injEq, Prod.mk.injEq] at executed
          all_goals obtain ⟨-, rfl⟩ := executed
          all_goals exact .inl present

end

/-! What a drained ring means. -/

theorem Framed.all_read {Task : Type} {allowed : Task → Item → Prop}
    {decode : Bytes → Option Update}
    {channel : Channel Task} (framed : Framed allowed decode channel)
    (valid : ∀ task item, allowed task item → item.Valid) {n : Nat}
    (reads : Reads channel.sent channel.taken n) (empty : channel.queue = []) :
    n = channel.sent.length := by
  rcases framed.front valid reads with ⟨-, last⟩ | ⟨_, unread, -⟩ | ⟨_, _, unread, -⟩
  · exact last
  · have short := congrArg List.length unread
    simp [empty, sentinelBytes] at short
    omega
  · have short := congrArg List.length unread
    simp [empty] at short
    omega

def Wakes (channel : Channel SenderTask) : Prop := channel.phase = .waiting → channel.counter ≠ 0

theorem Wakes.exec {choice : ChannelChoice} {task : SenderTask} {β : Type} {op : ChannelOp β}
    {before after : Channel SenderTask} {reply : β} (wakes : Wakes before)
    (executed : SenderState.execRing choice task false op before = some (reply, after)) :
    Wakes after := by
  -- Without its file the ring has no way to put its reader to sleep.
  cases op with
  | pathExists =>
      simp only [SenderState.execRing, Bool.false_eq_true, if_false, Option.some.injEq,
        Prod.mk.injEq] at executed
      obtain ⟨-, rfl⟩ := executed
      exact wakes
  | tryWriteSlice bytes =>
      simp only [SenderState.execRing, Channel.exec, Channel.markClose] at executed
      repeat' split at executed
      all_goals simp only [Option.some.injEq, Prod.mk.injEq] at executed
      all_goals obtain ⟨-, rfl⟩ := executed
      all_goals exact wakes
  | note note =>
      simp only [SenderState.execRing, Channel.exec, Option.some.injEq, Prod.mk.injEq] at executed
      obtain ⟨-, rfl⟩ := executed
      cases note with
      | pushReturned parts result =>
          simp only [Channel.record]
          split <;> exact wakes
      | popReturned result => cases result <;> exact wakes
      | closeReturned => exact wakes
      | readerReturned closed => exact fun waiting => by simp [Channel.record] at waiting
  | _ =>
      simp only [SenderState.execRing, Channel.exec] at executed
      repeat' split at executed
      all_goals simp only [reduceCtorEq, Option.some.injEq, Prod.mk.injEq] at executed
      all_goals obtain ⟨-, rfl⟩ := executed
      all_goals first
        | exact wakes
        | exact fun _ => Nat.succ_ne_zero _
        | exact fun waiting => by simp at waiting

/-! When the last `Arc` goes. -/

/-- The drop of a producer is admitted when its close is in the ring, or its reader awake or
about to be woken. -/
def unlinksNoticed (_ : SenderTask) : {β : Type} → SenderOp β → SenderState → Bool
  | _, .manager (.dropProducer ring), state =>
      let channel := state.channels ring.address
      channel.sent.contains sentinelBytes || channel.counter != 0 || channel.phase != .waiting
  | _, _, _ => true

section
variable {sender : Sender} {task : SenderTask} {before after : SenderState}

theorem Drops.noticed {address : Nat} {β : Type} {op : SenderOp β} (drops : Drops address op)
    (admitted : unlinksNoticed task op before = true) :
    sentinelBytes ∈ (before.channels address).sent ∨ (before.channels address).counter ≠ 0 ∨
      (before.channels address).phase ≠ .waiting := by
  cases op with
  | channel target op => exact drops.elim
  | manager op =>
      cases op with
      | dropProducer ring =>
          obtain rfl : ring.address = address := drops
          simpa [unlinksNoticed, or_assoc] using admitted
      | _ => exact drops.elim

theorem SenderInv.nobody_owes (inv : SenderInv sender before) {address : Nat}
    (ending : before.dying task = some address) : (before.channels address).owing = [] := by
  -- Nobody owes a notify on a ring whose last `Arc` is gone.
  obtain ⟨-, -, unheld, -⟩ := inv.owned.ending task address ending
  refine List.eq_nil_iff_forall_not_mem.mpr fun debtor owes => ?_
  exact unheld debtor (inv.wired.owing address debtor owes)

theorem SenderInv.wakes_dying (inv : SenderInv sender before) {address : Nat}
    (ending : before.dying task = some address)
    (noticed : sentinelBytes ∈ (before.channels address).sent ∨
      (before.channels address).counter ≠ 0 ∨ (before.channels address).phase ≠ .waiting) :
    Wakes (before.channels address) := by
  -- With the sentinel in the ring, a waiting reader has unread bytes and hence a count.
  intro waiting
  obtain ⟨framed, wakeful⟩ := inv.wired.ring address
  rcases noticed with sentinel | nonzero | awake
  · obtain ⟨n, reads, openUntil⟩ := framed.waits waiting
    have unread : (before.channels address).queue ≠ [] := by
      intro empty
      have last := framed.all_read ringAllows_valid reads empty
      obtain ⟨m, found⟩ := List.getElem?_of_mem sentinel
      have bound := (List.getElem?_eq_some_iff.mp found).1
      exact openUntil m (by omega) found
    refine (wakeful.wakes (.inr waiting) unread).resolve_right fun owed => ?_
    exact owed (inv.nobody_owes ending)
  · exact nonzero
  · exact absurd waiting awake

def Noticed (state : SenderState) : Prop :=
  ∀ entry ∈ state.installed, (state.channels entry.address).linked = false →
    state.paths entry.address ∉ state.files ∧ Wakes (state.channels entry.address)

theorem noticed_exec {choice : SenderChoice} {β : Type} {op : SenderOp β} {reply : β}
    (inv : SenderInv sender before) (guarded : senderGuard sender task op before)
    (admitted : unlinksNoticed task op before = true)
    (executed : before.exec choice task op = some (reply, after)) (table : before.slotTable.Sound)
    (few : before.issued < 2 ^ 64 - 1) (noticed : Noticed before) : Noticed after := by
  have inv' : SenderInv sender after := (sending sender).preserved inv guarded executed
  intro entry member gone
  -- What is just being installed has its file.
  have old : entry ∈ before.installed := by
    refine ((exec_slotTable inv guarded executed).member member).resolve_right fun here => ?_
    have alive : (after.channels entry.address).linked = true := inv'.owned.tabled _ entry here
    simp [gone] at alive
  have bound := inv.owned.numbered entry old
  have paths := (Grows.exec inv executed).paths entry.address bound
  have absent : before.paths entry.address ∉ before.files →
      after.paths entry.address ∉ after.files := by
    intro missing present
    rw [paths] at present
    rcases exec_files guarded inv executed present with old' | ⟨ordinal, index, claimed, named⟩
    · exact missing old'
    · obtain ⟨path, named'⟩ := inv.described.path entry old
      rw [← path, named'] at named
      exact table.numbered.unused few claimed old (Sender.ringPath_connectionId named)
  cases exec_ring guarded executed entry.address with
  | same unchanged =>
      rw [unchanged] at gone ⊢
      obtain ⟨missing, wakes⟩ := noticed entry old gone
      exact ⟨absent missing, wakes⟩
  | exec choice' op' reply' _ guarded' ran =>
      obtain ⟨choice'', ran'⟩ := inv.ringExec bound ran
      rw [Channel.exec_linked (producerGuard_keeps guarded'.2) ran'] at gone
      obtain ⟨missing, wakes⟩ := noticed entry old gone
      rw [decide_eq_false missing] at ran
      exact ⟨absent missing, wakes.exec ran⟩
  | unlink drops path ending paid unlinked =>
      rw [unlinked, paths]
      exact ⟨path, inv.wakes_dying ending (drops.noticed admitted)⟩
  | create capacity unused created => omega

end

/-! The reader of a dead slot. -/

def awaiting : Program SenderOp Unit → Option Nat
  | .request (.channel address .readable) _ => some address
  | _ => none

theorem awaiting_eq {program : Program SenderOp Unit} {address : Nat}
    (waits : awaiting program = some address) :
    ∃ next, program = .request (.channel address .readable) next := by
  unfold awaiting at waits
  split at waits
  · obtain rfl := Option.some.inj waits
    exact ⟨_, rfl⟩
  · simp at waits

/-- The connection is evicted and its producer dropped, but its reader waits for a notify. -/
structure LeftAsleep (config : Config SenderOp SenderTask SenderState) (address : Nat) : Prop where
  evicted : address ∈ config.shared.removed
  unheld : ∀ handle ∈ config.shared.handles, handle.2 ≠ address
  dropped : (config.shared.channels address).linked = false
  blocked : awaiting (config.pool (.reader address)) = some address
  silent : (config.shared.channels address).counter = 0

section
variable {sender : Sender} {files : List Path} {config : Config SenderOp SenderTask SenderState}

/--
In every run in which each ring producer is dropped while its sentinel is in the ring, or
its eventfd has a count, or its reader is not waiting, no reader is left asleep.
-/
theorem no_reader_left_asleep
    (run : ((senderSystem sender).restrict unlinksNoticed).Reachable (senderStart files) config)
    (few : config.shared.issued < 2 ^ 64 - 1) (address : Nat) : ¬ LeftAsleep config address := by
  intro asleep
  have kept : ∀ {choice task} {β : Type} {op : SenderOp β} {state reply after},
      SenderInv sender state → senderGuard sender task op state →
      unlinksNoticed task op state = true → state.exec choice task op = some (reply, after) →
      (state.slotTable.Sound ∧ (state.issued < 2 ^ 64 - 1 → Noticed state)) →
      after.slotTable.Sound ∧ (after.issued < 2 ^ 64 - 1 → Noticed after) := by
    intro choice task β op state reply after inv guarded admitted executed holds
    have step := exec_slotTable inv guarded executed
    refine ⟨step.sound holds.1, fun few => ?_⟩
    have earlier : state.issued < 2 ^ 64 - 1 := Nat.lt_of_le_of_lt step.issued_le few
    exact noticed_exec inv guarded admitted executed holds.1 earlier (holds.2 earlier)
  have start : Noticed (SenderState.created files) := fun _ member =>
    absurd member (List.not_mem_nil)
  obtain ⟨sound, -, noticed⟩ := Sound.invariant senderCall_triple kept (sender_sound sender files)
    ⟨slotTable_created files, fun _ => start⟩ run
  obtain ⟨entry, member, rfl⟩ := sound.inv.tabled.known address asleep.evicted
  obtain ⟨next, blocked⟩ := awaiting_eq asleep.blocked
  have guarded : senderGuard sender (.reader entry.address) (.channel entry.address .readable)
    config.shared := sound.guard blocked
  have waiting : (config.shared.channels entry.address).phase = .waiting := guarded.1.1.2
  exact (noticed few entry member asleep.dropped).2 waiting asleep.silent

end

-- The reader waits; the sentinel of a stale eviction fits, and its notify is still to be seen.
theorem no_reader_left_asleep_stale :
    ∃ config, ((senderSystem sampleSender).restrict unlinksNoticed).Reachable
      (senderStart []) config ∧
      config.shared.issued < 2 ^ 64 - 1 ∧ (∀ address, ¬ LeftAsleep config address) ∧
      0 ∈ config.shared.removed ∧ (config.shared.channels 0).linked = false ∧
      awaiting (config.pool (.reader 0)) = some 0 := by
  have ran : (((senderSystem sampleSender).restrict unlinksNoticed).schedule (senderStart [])
      ([.start (.handler 0) (.subscribe sampleRequest)] ++ takes (.handler 0) 15 ++
        [.start (.reader 0) (.consume 0)] ++ takes (.reader 0) 8 ++
        [.start (.dispatcher .account) (.dispatch (.account sampleAccountUpdate))] ++
        takes (.dispatcher .account) 21 late)).any (fun config =>
          config.shared.issued = 1 ∧ 0 ∈ config.shared.removed ∧
          (config.shared.channels 0).linked = false ∧
          awaiting (config.pool (.reader 0)) = some 0) = true := by
    decide +kernel
  obtain ⟨config, run, checked⟩ := System.schedule_finds ran
  obtain ⟨issued, evicted, dropped, blocked⟩ := of_decide_eq_true checked
  have few : config.shared.issued < 2 ^ 64 - 1 := by omega
  exact ⟨config, run, few, fun address => no_reader_left_asleep run few address, evicted,
    dropped, blocked⟩

def subscribedAndServed : List SenderCommand :=
  [.start (.handler 0) (.subscribe sampleRequest)] ++ takes (.handler 0) 15 ++
    [.start (.dispatcher .account) (.dispatch (.account sampleAccountUpdate))] ++
    takes (.dispatcher .account) 19

/-- An eviction because of a full ring, up to the drop of the producer. The reader empties the
ring, takes the count and waits before the file is removed. -/
def fullRingEvicted : List SenderCommand :=
  subscribedAndServed ++
    [.start (.dispatcher .account) (.dispatch (.account sampleAccountUpdate))] ++
    takes (.dispatcher .account) 17 ++
    [.start (.reader 0) (.consume 0)] ++ takes (.reader 0) 12 ++
    [.start (.runtime 0) (.poll 0)] ++ takes (.runtime 0) 1 ++ takes (.reader 0) 14

/-- The sentinel found no room, the notify before it woke the reader too early, and nothing
follows the removal of the file. -/
theorem reader_left_asleep :
    ∃ config, (senderSystem sampleSender).Reachable (senderStart []) config ∧
      LeftAsleep config 0 ∧ (config.shared.channels 0).ready = false ∧
      (config.shared.channels 0).edge = false ∧
      ∀ task, task ≠ .reader 0 → config.pool task = .done () := by
  have ran : ((senderSystem sampleSender).schedule (senderStart [])
      (fullRingEvicted ++ takes (.dispatcher .account) 10)).any (fun config =>
        0 ∈ config.shared.removed ∧ (∀ handle ∈ config.shared.handles, handle.2 ≠ 0) ∧
        (config.shared.channels 0).linked = false ∧ awaiting (config.pool (.reader 0)) = some 0 ∧
        (config.shared.channels 0).counter = 0 ∧ (config.shared.channels 0).ready = false ∧
        (config.shared.channels 0).edge = false ∧
        ∀ task ∈ [SenderTask.handler 0, .dispatcher .account, .runtime 0],
          (config.pool task).isDone = true) = true := by
    decide +kernel
  obtain ⟨config, finished, checked⟩ := (Option.any_eq_true _ _).mp ran
  obtain ⟨evicted, unheld, dropped, blocked, silent, unready, unedged, idle⟩ :=
    of_decide_eq_true checked
  refine ⟨config, System.schedule_reachable finished, ⟨evicted, unheld, dropped, blocked, silent⟩,
    unready, unedged, fun task other => ?_⟩
  by_cases named : task ∈ [SenderTask.handler 0, .dispatcher .account, .runtime 0]
  · exact Program.eq_done (idle task named)
  · refine System.schedule_pool finished fun listed => ?_
    have tasks : ∀ command ∈ fullRingEvicted ++ takes (.dispatcher .account) 10,
        command.task ∈ [SenderTask.handler 0, .dispatcher .account, .runtime 0, .reader 0] := by
      decide
    obtain ⟨command, member, rfl⟩ := List.mem_map.mp listed
    have known := tasks command member
    simp only [List.mem_cons, List.not_mem_nil, or_false] at known named
    grind

/-! Frames accepted before the close. -/

def Channel.beforeClose {Task : Type} (channel : Channel Task) : List Bytes :=
  channel.sent.take (channel.closeMark.getD channel.sent.length)

/-- The drop of a producer is admitted unless its reader has found the ring empty, is about
to look for the file, and something was written in between. -/
def unlinksDrained (_ : SenderTask) : {β : Type} → SenderOp β → SenderState → Bool
  | _, .manager (.dropProducer ring), state =>
      let channel := state.channels ring.address
      decide (channel.phase ≠ .checking ∨ channel.queue = [])
  | _, _, _ => true

theorem Drops.drained {task : SenderTask} {address : Nat} {β : Type} {op : SenderOp β}
    {state : SenderState} (drops : Drops address op)
    (admitted : unlinksDrained task op state = true) :
    (state.channels address).phase ≠ .checking ∨ (state.channels address).queue = [] := by
  cases op with
  | channel target op => exact drops.elim
  | manager op =>
      cases op with
      | dropProducer ring =>
          obtain rfl : ring.address = address := drops
          exact of_decide_eq_true admitted
      | _ => exact drops.elim

structure Heard (decode : Bytes → Option Update) (channel : Channel SenderTask) : Prop where
  drained : channel.linked = false → channel.phase = .checking → channel.queue = []
  heard : channel.stopped = true → decodedBodies decode channel.beforeClose <+: channel.enqueued
  closing : channel.stopped = true → channel.closeMark = none → channel.linked = false

section
variable {decode : Bytes → Option Update} {before after : Channel SenderTask}

theorem Heard.created (capacity : Nat) : Heard decode (Channel.created SenderTask capacity) := by
  constructor <;> simp [Channel.created]

theorem Heard.unlink (heard : Heard decode before)
    (drained : before.phase ≠ .checking ∨ before.queue = []) :
    Heard decode { before with linked := false } :=
  ⟨fun _ checking => drained.resolve_left fun other => other checking, heard.heard, fun _ _ => rfl⟩

theorem Heard.write {allowed : SenderTask → Item → Prop} {choice : ChannelChoice}
    {task : SenderTask} {bytes : Bytes} {accepted : Bool} (heard : Heard decode before)
    (framed : Framed allowed decode before) (alive : before.linked = true)
    (executed : before.exec choice task (.tryWriteSlice bytes) = some (accepted, after)) :
    Heard decode after := by
  -- Only a ring that still has its file is written to.
  have linked : after.linked = before.linked := Channel.exec_linked id executed
  have sent := Channel.write_sent executed
  have marks : after.stopped = before.stopped ∧ after.enqueued = before.enqueued ∧
      ∀ mark, before.closeMark = some mark → after.closeMark = some mark := by
    simp only [Channel.exec, Channel.markClose] at executed
    repeat' split at executed
    all_goals simp only [Option.some.injEq, Prod.mk.injEq] at executed
    all_goals obtain ⟨-, rfl⟩ := executed
    all_goals exact ⟨rfl, rfl, fun mark marked => by simp [Channel.append, marked]⟩
  obtain ⟨stopped, enqueued, marked⟩ := marks
  have closed : after.stopped = true → ∃ mark, before.closeMark = some mark := by
    intro returned
    rw [stopped] at returned
    refine Option.ne_none_iff_exists'.mp fun unmarked => ?_
    have gone := heard.closing returned unmarked
    simp [alive] at gone
  refine ⟨?_, ?_, ?_⟩
  · intro gone
    simp [linked, alive] at gone
  · intro returned
    obtain ⟨mark, known⟩ := closed returned
    have same : after.beforeClose = before.beforeClose := by
      simp only [Channel.beforeClose, known, marked mark known, Option.getD_some]
      rw [sent]
      exact List.take_append_of_le_length (framed.mark_within mark known)
    rw [same, enqueued]
    exact heard.heard (by rw [← stopped, returned])
  · intro returned unmarked
    obtain ⟨mark, known⟩ := closed returned
    simp [marked mark known] at unmarked

theorem Heard.returned {allowed : SenderTask → Item → Prop}
    (valid : ∀ task item, allowed task item → item.Valid) (heard : Heard decode before)
    (framed : Framed allowed decode before) {n : Nat} (place : AtItem .reading decode n before)
    (closes : before.closed = true ∨ before.linked = false ∧ before.phase = .checking)
    (task : SenderTask) : Heard decode (before.record task (.readerReturned true)) := by
  -- A return is either past the sentinel, or after the last pop with nothing written since.
  have counts : before.enqueued = decodedBodies decode (before.sent.take n) :=
    place.accounted.counts
  have ended : decodedBodies decode before.beforeClose <+: before.enqueued ∧
      (before.closeMark = none → before.linked = false) := by
    rw [counts]
    rcases closes with closed | ⟨gone, checking⟩
    · obtain ⟨m, bound, sentinel⟩ := place.accounted.closed closed
      obtain ⟨mark, marked, early⟩ := framed.marked m sentinel
      refine ⟨decodedBodies_grow decode ?_, by simp [marked]⟩
      rw [Channel.beforeClose, marked, Option.getD_some]
      exact List.take_prefix_take_left (by omega)
    · have last := framed.all_read valid place.reads (heard.drained gone checking)
      refine ⟨decodedBodies_grow decode ?_, fun _ => gone⟩
      rw [last, List.take_length]
      exact List.take_prefix _ _
  refine ⟨?_, fun _ => ended.1, fun _ => ended.2⟩
  intro _ checking
  simp [Channel.record] at checking

theorem Heard.exec {reader : SenderTask} {allowed : SenderTask → Item → Prop}
    (valid : ∀ task item, allowed task item → item.Valid) {choice : ChannelChoice}
    {task : SenderTask} {β : Type} {op : ChannelOp β} {reply : β} (heard : Heard decode before)
    (framed : Framed allowed decode before) (keeps : ¬ IsUnlink op)
    (guarded : framingGuard reader allowed decode .reading task op before)
    (alive : IsWrite op → before.linked = true)
    (executed : before.exec choice task op = some (reply, after)) : Heard decode after := by
  cases op with
  | tryWriteSlice bytes => exact heard.write framed (alive trivial) executed
  | unlink => exact absurd trivial keeps
  | reserveReadBatch len =>
      simp only [Channel.exec] at executed
      split at executed <;> simp only [Option.some.injEq, Prod.mk.injEq] at executed <;>
        obtain ⟨-, rfl⟩ := executed
      · rename_i empty
        exact ⟨fun _ _ => empty, heard.heard, heard.closing⟩
      · exact ⟨fun _ checking => by simp at checking, heard.heard, heard.closing⟩
  | pathExists =>
      have saw : before.sawPath.phase = .waiting := if_pos guarded.2.1
      simp only [Channel.exec] at executed
      repeat' split at executed
      all_goals simp only [reduceCtorEq, Option.some.injEq, Prod.mk.injEq] at executed
      all_goals obtain ⟨-, rfl⟩ := executed
      · exact ⟨fun _ checking => by simp [saw] at checking, heard.heard, heard.closing⟩
      · exact heard
  | forcePush update =>
      simp only [Channel.exec, Option.some.injEq, Prod.mk.injEq] at executed
      obtain ⟨-, rfl⟩ := executed
      refine ⟨heard.drained, fun returned => ?_, heard.closing⟩
      exact (heard.heard returned).trans (List.prefix_append _ _)
  | note note =>
      simp only [Channel.exec, Option.some.injEq, Prod.mk.injEq] at executed
      obtain ⟨-, rfl⟩ := executed
      cases note with
      | pushReturned parts result =>
          simp only [Channel.record]
          split <;> exact ⟨heard.drained, heard.heard, heard.closing⟩
      | closeReturned => exact ⟨heard.drained, heard.heard, heard.closing⟩
      | popReturned result => cases result <;> exact ⟨heard.drained, heard.heard, heard.closing⟩
      | readerReturned closed =>
          cases closed with
          | true =>
              obtain ⟨n, place, closes⟩ := guarded.2 rfl
              exact heard.returned valid framed place closes task
          | false =>
              refine ⟨fun _ checking => by simp [Channel.record] at checking, ?_, ?_⟩
              · exact fun returned => heard.heard (by simpa [Channel.record] using returned)
              · exact fun returned => heard.closing (by simpa [Channel.record] using returned)
  | _ =>
      simp only [Channel.exec] at executed
      repeat' split at executed
      all_goals simp only [reduceCtorEq, Option.some.injEq, Prod.mk.injEq] at executed
      all_goals obtain ⟨-, rfl⟩ := executed
      all_goals first
        | exact heard
        | exact ⟨heard.drained, heard.heard, heard.closing⟩
        | exact ⟨fun _ checking => by simp at checking, heard.heard, heard.closing⟩

end

section
variable {sender : Sender} {files : List Path} {config : Config SenderOp SenderTask SenderState}

theorem heard_exec {choice : SenderChoice} {task : SenderTask} {β : Type} {op : SenderOp β}
    {before after : SenderState} {reply : β} (inv : SenderInv sender before)
    (guarded : senderGuard sender task op before) (admitted : unlinksDrained task op before = true)
    (executed : before.exec choice task op = some (reply, after)) (address : Nat)
    (heard : Heard (decodeUpdate sender.codecs) (before.channels address)) :
    Heard (decodeUpdate sender.codecs) (after.channels address) := by
  cases exec_ring guarded executed address with
  | same unchanged => rwa [unchanged]
  | exec choice' op' reply' bound guarded' ran =>
      obtain ⟨choice'', ran'⟩ := inv.ringExec bound ran
      refine heard.exec ringAllows_valid (inv.wired.ring address).1 (producerGuard_keeps guarded'.2)
        guarded'.1.1 (fun write => ?_) ran'
      exact (inv.owned.held task address (producerGuard_holds guarded'.2 write)).2
  | unlink drops path ending paid unlinked =>
      rw [unlinked]
      exact heard.unlink (drops.drained admitted)
  | create capacity unused created =>
      rw [created]
      exact Heard.created capacity

theorem map_decodedBodies {decode : Bytes → Option Update} {sent : List Bytes}
    (decodes : ∀ body ∈ bodies sent, decode body ≠ none) :
    (bodies sent).map decode = (decodedBodies decode sent).map some := by
  unfold decodedBodies
  generalize bodies sent = frames at decodes
  induction frames with
  | nil => rfl
  | cons body rest ih =>
      obtain ⟨update, decoded⟩ := Option.ne_none_iff_exists'.mp
        (decodes body (List.mem_cons_self ..))
      rw [List.map_cons, List.filterMap_cons_some decoded, List.map_cons, decoded,
        ih fun body member => decodes body (List.mem_cons_of_mem _ member)]

/--
In every run in which no ring producer is dropped while its reader is between finding the
ring empty and looking for the file with a write in between, a reader that returns because
`is_closed` was true has decoded and queued, in order, every frame the ring had accepted
before `close` was first called.
-/
theorem no_frame_abandoned (lossless : sender.codecs.lz4.RoundTrips)
    (run : ((senderSystem sender).restrict unlinksDrained).Reachable (senderStart files) config)
    (address : Nat) (stopped : (config.shared.channels address).stopped = true) :
    (bodies (config.shared.channels address).beforeClose).map (decodeUpdate sender.codecs) <+:
      (config.shared.channels address).enqueued.map some := by
  have kept : ∀ {choice task} {β : Type} {op : SenderOp β} {state reply after},
      SenderInv sender state → senderGuard sender task op state →
      unlinksDrained task op state = true → state.exec choice task op = some (reply, after) →
      (∀ address, Heard (decodeUpdate sender.codecs) (state.channels address)) →
      ∀ address, Heard (decodeUpdate sender.codecs) (after.channels address) :=
    fun inv guarded admitted executed heard address =>
      heard_exec inv guarded admitted executed address (heard address)
  obtain ⟨-, heard⟩ := Sound.invariant senderCall_triple kept (sender_sound sender files)
    (fun _ => Heard.created 0) run
  have decodes : ∀ body ∈ bodies (config.shared.channels address).beforeClose,
      decodeUpdate sender.codecs body ≠ none := by
    intro body member undecoded
    have accepted := (bodies_grow (List.take_prefix _ _)).subset member
    exact decodable lossless run.unrestricted address ⟨body, accepted, undecoded⟩
  rw [map_decodedBodies decodes]
  exact ((heard address).heard stopped).map some

end

def roomySender : Sender := { sampleSender with ringCapacity := 1024 }

theorem no_frame_abandoned_read :
    ∃ config, roomySender.codecs.lz4.RoundTrips ∧
      ((senderSystem roomySender).restrict unlinksDrained).Reachable (senderStart []) config ∧
      (config.shared.channels 0).stopped = true ∧
      (bodies (config.shared.channels 0).beforeClose).map (decodeUpdate roomySender.codecs) <+:
        (config.shared.channels 0).enqueued.map some ∧
      (config.shared.channels 0).enqueued = [.account sampleAccountUpdate] := by
  have ran : (((senderSystem roomySender).restrict unlinksDrained).schedule (senderStart [])
      (subscribedAndServed ++ [.start (.reader 0) (.consume 0)] ++ takes (.reader 0) 7 ++
        [.start (.dispatcher .account) (.dispatch (.account sampleAccountUpdate))] ++
        takes (.dispatcher .account) 21 late ++ takes (.reader 0) 5)).any (fun config =>
          (config.shared.channels 0).stopped = true ∧
          (config.shared.channels 0).enqueued = [.account sampleAccountUpdate]) = true := by
    decide +kernel
  obtain ⟨config, run, checked⟩ := System.schedule_finds ran
  obtain ⟨stopped, queued⟩ := of_decide_eq_true checked
  exact ⟨config, literalLz4_roundTrips, run, stopped,
    no_frame_abandoned literalLz4_roundTrips run 0 stopped, queued⟩

/-- The reader finds the ring empty; an update is pushed, the connection closed as stale and
the file removed; the reader looks for the file and returns. -/
theorem frame_abandoned :
    ∃ config, (senderSystem roomySender).Reachable (senderStart []) config ∧
      (config.shared.channels 0).stopped = true ∧ (config.shared.channels 0).enqueued = [] ∧
      (bodies (config.shared.channels 0).beforeClose).map (decodeUpdate roomySender.codecs) =
        [some (.account sampleAccountUpdate)] ∧
      config.pool (.reader 0) = .done () := by
  have ran : ((senderSystem roomySender).schedule (senderStart [])
      ([.start (.handler 0) (.subscribe sampleRequest)] ++ takes (.handler 0) 15 ++
        [.start (.reader 0) (.consume 0)] ++ takes (.reader 0) 5 ++
        [.start (.dispatcher .account) (.dispatch (.account sampleAccountUpdate))] ++
        takes (.dispatcher .account) 19 ++
        [.start (.dispatcher .account) (.dispatch (.account sampleAccountUpdate))] ++
        takes (.dispatcher .account) 21 late ++ takes (.reader 0) 3)).any (fun config =>
          (config.shared.channels 0).stopped = true ∧ (config.shared.channels 0).enqueued = [] ∧
          (bodies (config.shared.channels 0).beforeClose).map (decodeUpdate roomySender.codecs) =
            [some (.account sampleAccountUpdate)] ∧
          (config.pool (.reader 0)).isDone = true) = true := by
    decide +kernel
  obtain ⟨config, run, checked⟩ := System.schedule_finds ran
  obtain ⟨stopped, queued, accepted, finished⟩ := of_decide_eq_true checked
  exact ⟨config, run, stopped, queued, accepted, Program.eq_done finished⟩

end Qlaster
