import Qlaster.Closing
import Qlaster.Ring
import Qlaster.Parking

/-!
What was written arrives. From any state a run can come to, a parked reader whose writers have all
notified needs one poll of the runtime and steps of its own to queue everything in its ring.
-/

namespace Qlaster

open Interleaving Interleaving.Discipline Interleaving.System

/-! Where a reader of the sender's system is parked. -/

def HearsRing : {β : Type} → SenderOp β → Prop
  | _, .channel _ op => IsReadable op
  | _, _ => False

section
variable {sender : Sender} {files : List Path} {config : Config SenderOp SenderTask SenderState}

theorem reader_parked (run : (senderSystem sender).Reachable (senderStart files) config)
    {ring address : Nat} (waits : awaiting (config.pool (.reader ring)) = some address) :
    address = ring ∧ config.pool (.reader ring) = onRing ring (parkedReader sender.codecs) := by
  obtain ⟨next, shape⟩ := awaiting_eq waits
  rcases run.residual (fun _ => rfl) (.reader ring) with idle | ⟨call, may, residual⟩
  · rw [idle] at shape
    cases shape
  · cases call with
    | consume ring' =>
        obtain rfl : ring = ring' := of_decide_eq_true may
        have opens : (ask (.openRing ring)).Only fun op => ¬ HearsRing op := .perform id
        rw [shape] at residual ⊢
        obtain ⟨opened, residual⟩ := residual.past opens trivial
        cases opened with
        | false => cases residual.ofDone
        | true =>
            obtain ⟨within, inner, lifted⟩ := residual.ofLift
            cases within with
            | done value => cases lifted
            | loop turn body following => cases lifted
            | request op following =>
                cases lifted
                rw [← runReader_listens inner ⟨following, rfl⟩]
                exact ⟨rfl, rfl⟩
    | _ => cases may

end

/-! A ring's reader in the sender's system. -/

def OnlyRing (address : Nat) (before after : SenderState) : Prop :=
  after = { before with channels := Function.update before.channels address (after.channels address) }

theorem OnlyRing.refl (address : Nat) (state : SenderState) : OnlyRing address state state := by
  simp [OnlyRing]

theorem OnlyRing.trans {address : Nat} {before mid after : SenderState}
    (earlier : OnlyRing address before mid)
    (later : OnlyRing address mid after) : OnlyRing address before after := by
  unfold OnlyRing at earlier later ⊢
  rw [later, earlier]
  simp

theorem OnlyRing.allocated {address : Nat} {before after : SenderState}
    (only : OnlyRing address before after) : after.allocated = before.allocated := by
  rw [only]

/-- The choice under which a ring on its own does what it does in the sender's system. -/
def SenderChoice.alone (choice : SenderChoice) (present : Bool) : ChannelChoice :=
  { choice.toChannelChoice with present := present }

theorem execRing_alone {choice : SenderChoice} {task : SenderTask} {present : Bool} {β : Type}
    {op : ChannelOp β} {before after : Channel SenderTask} {reply : β}
    (executed : before.exec (choice.alone present) task op = some (reply, after)) :
    SenderState.execRing choice.toChannelChoice task present op before = some (reply, after) := by
  cases op with
  | pathExists =>
      simp only [Channel.exec, SenderChoice.alone] at executed
      cases present with
      | true => exact executed
      | false =>
          simp only [Bool.false_eq_true, if_false] at executed
          split at executed
          · cases executed
          · exact executed
  | _ => exact executed

theorem recordPush_reader (state : SenderState) (ring address : Nat) {β : Type} (op : ChannelOp β)
    (reply : β) : state.recordPush (.reader ring) address op reply = state.dispatched := by
  funext kind
  exact SenderState.recordPush_other (by simp) address op reply

theorem until_onRing {sender : Sender} {choices : Nat → SenderChoice} {address tick : Nat}
    {state : SenderState}
    {present : Bool} {program : Program ChannelOp Unit} {goal : Program ChannelOp Unit → Nat →
      Channel SenderTask → Prop}
    (made : address < state.allocated)
    (there : decide (state.paths address ∈ state.files) = present)
    (reaches : (loneRing SenderTask).Until (.reader address) (fun n => (choices n).alone present)
      goal program tick (state.channels address)) :
    (senderSystem sender).Until (.reader address) choices
      (fun rest later after => ∃ within, rest = onRing address within ∧
      goal within later (after.channels address) ∧ OnlyRing address state after)
        (onRing address program) tick state := by
  refine Until.lift (fun op => SenderOp.channel address op) (fun state => state.channels address)
    (OnlyRing address) OnlyRing.trans ?_ (OnlyRing.refl address state) reaches
  intro β op tick now reply after kept executed
  have made' : address < now.allocated := by rw [kept]; exact made
  have there' : decide (now.paths address ∈ now.files) = present := by rw [kept]; exact there
  refine ⟨{ now with channels := Function.update now.channels address after },
    ?_, Function.update_self .., ?_⟩
  · simp only [senderSystem, SenderState.exec, SenderState.execChannel, if_pos made', there',
      execRing_alone executed, recordPush_reader]
  · simp [OnlyRing]

theorem Item.bytes_ne_nil (item : Item) : item.bytes ≠ [] := by
  cases item with
  | sentinel => exact List.ne_nil_of_length_pos (by simp [Item.bytes, sentinelBytes])
  | frame body => exact List.ne_nil_of_length_pos (by simp [Item.bytes])

theorem bodies_items {items : List Item} {body : Bytes} (member : body ∈ untilSentinel items) :
    body ∈ bodies (items.map Item.bytes) := by
  induction items with
  | nil => cases member
  | cons item rest ih =>
      cases item with
      | sentinel => cases member
      | frame other =>
          rw [List.map_cons, bodies, List.filterMap_cons_some (bodyOf_frame other)]
          rcases List.mem_cons.mp member with rfl | inside
          · exact List.mem_cons_self ..
          · exact List.mem_cons_of_mem _ (ih inside)

/-- What a waiting reader has in front of it: whole items that it has not come to yet. -/
structure Unread (channel : Channel SenderTask) (items : List Item) (n : Nat) : Prop where
  sent : channel.sent.drop n = items.map Item.bytes
  queue : channel.queue = itemsBytes items
  valid : ∀ item ∈ items, item.Valid
  opened : OpenUntil channel.sent n

theorem unread_of_waiting {decode : Bytes → Option Update} {channel : Channel SenderTask}
    (framed : Framed ringAllows decode channel) (waiting : channel.phase = .waiting) :
    ∃ items n, Unread channel items n := by
  obtain ⟨n, reads, opened⟩ := framed.waits waiting
  obtain ⟨items, valid, same⟩ := items_of_framed framed ringAllows_valid
  have rest : channel.sent.drop n = (items.drop n).map Item.bytes := by rw [same, List.map_drop]
  refine ⟨items.drop n, n, rest, ?_, fun item member => valid item (List.mem_of_mem_drop member),
    opened⟩
  rw [itemsBytes, ← rest, reads.unread framed.flow]

theorem Unread.none {channel : Channel SenderTask} {items : List Item} {n : Nat}
    (unread : Unread channel items n) (empty : channel.queue = []) : items = [] := by
  cases items with
  | nil => rfl
  | cons item rest =>
      have bytes := unread.queue.symm.trans empty
      simp [itemsBytes, item.bytes_ne_nil] at bytes

theorem Unread.sentinel {channel : Channel SenderTask} {items : List Item} {n m : Nat}
    (unread : Unread channel items n)
    (found : channel.sent[m]? = some sentinelBytes) : Item.sentinel ∈ items := by
  have beyond : n ≤ m := by
    by_contra before
    exact unread.opened m (by omega) found
  have member : sentinelBytes ∈ channel.sent.drop n :=
    List.mem_of_getElem? (i := m - n) (by rw [List.getElem?_drop]; rwa [Nat.add_sub_cancel' beyond])
  rw [unread.sent] at member
  obtain ⟨item, inside, same⟩ := List.mem_map.mp member
  cases item with
  | sentinel => exact inside
  | frame body => exact absurd same (Item.frame_ne_sentinel body)

/-! One poll, and the reader runs. -/

section
variable {sender : Sender} {files : List Path} {config : Config SenderOp SenderTask SenderState}
  {address : Nat}

def Channel.polled {Task : Type} (channel : Channel Task) : Channel Task :=
  if channel.edge then { channel with ready := true, tick := channel.tick + 1, edge := false }
    else channel

def SenderState.withRing (state : SenderState) (address : Nat) (channel : Channel SenderTask) :
    SenderState :=
  { state with channels := Function.update state.channels address channel }

theorem OnlyRing.withRing (state : SenderState) (address : Nat) (channel : Channel SenderTask) :
    OnlyRing address state (state.withRing address channel) := by
  simp [OnlyRing, SenderState.withRing]

abbrev SenderState.pollRing (state : SenderState) (address : Nat) : SenderState :=
  state.withRing address (state.channels address).polled

abbrev SenderState.returnReader (state : SenderState) (address : Nat) : SenderState :=
  state.withRing address ((state.channels address).record (.reader address) (.readerReturned true))

theorem poll_scheduled (sender : Sender) (made : address < config.shared.allocated)
    (idle : config.pool (.runtime address) = .done ()) (choice : SenderChoice) :
    (senderSystem sender).schedule config
      [.start (.runtime address) (.poll address), .step (.runtime address) choice] =
      some ⟨config.shared.pollRing address, config.pool⟩ := by
  have started : (senderSystem sender).command config (.start (.runtime address) (.poll address)) =
      some ⟨config.shared, Function.update config.pool (.runtime address)
        (senderProgram sender (.poll address))⟩ := by
    simp [command, idle, senderSystem, senderMayStart]
  have polls : (config.shared.channels address).exec choice.toChannelChoice (.runtime address)
    .pollEvents =
      some ((), (config.shared.channels address).polled) := by
    simp only [Channel.exec, Channel.polled]
    split <;> rfl
  have executed :
    (senderSystem sender).exec choice (.runtime address) (.channel address .pollEvents)
    config.shared =
      some ((), config.shared.pollRing address) := by
    simp only [senderSystem, SenderState.exec, SenderState.execChannel, if_pos made,
      SenderState.execRing, polls]
    rfl
  have program :
    senderProgram sender (.poll address) = .request (.channel address .pollEvents) .done := rfl
  rw [schedule, started, Option.bind_some]
  simp only [schedule, Option.bind_some, command, Function.update_self, program, executed,
    Function.update_idem]
  rw [← idle, Function.update_eq_self]

theorem unmade_busy (run : (senderSystem sender).Reachable (senderStart files) config) :
    config.shared.allocated ≤ address → (config.shared.channels address).phase = .busy := by
  have persistent : (sending sender).Persistent fun state => state.allocated ≤ address →
      (state.channels address).phase = .busy := by
    intro choice task β op before reply after inv guarded executed busy unused
    have earlier : before.allocated ≤ address := (Grows.exec inv executed).allocated.trans unused
    rcases ring_unused inv guarded executed earlier with same | ⟨capacity, created⟩
    · rw [same]
      exact busy earlier
    · rw [created]
      rfl
  exact Sound.always senderCall_triple persistent (sender_sound sender files) (fun _ => rfl) run

structure ReaderWaits (sender : Sender) (address : Nat)
    (config : Config SenderOp SenderTask SenderState) : Prop where
  made : address < config.shared.allocated
  program : config.pool (.reader address) = onRing address (parkedReader sender.codecs)
  waiting : (config.shared.channels address).phase = .waiting
  inv : SenderInv sender config.shared

theorem reader_waits (run : (senderSystem sender).Reachable (senderStart files) config)
    (parked : awaiting (config.pool (.reader address)) = some address) :
    ReaderWaits sender address config := by
  have sound := Sound.reachable senderCall_triple (sender_sound sender files) run
  obtain ⟨next, blocked⟩ := awaiting_eq parked
  have guarded : senderGuard sender (.reader address) (.channel address .readable) config.shared :=
    sound.guard blocked
  have waiting : (config.shared.channels address).phase = .waiting := guarded.1.1.2
  refine ⟨?_, (reader_parked run parked).2, waiting, sound.inv⟩
  by_contra unmade
  have busy := unmade_busy run (Nat.le_of_not_lt unmade)
  cases waiting.symm.trans busy

/-- Where a poll and the reader's own steps lead: everything unread is queued, up to a sentinel, and
the reader is parked as before or has returned. -/
structure Delivered (sender : Sender) (address : Nat) (items : List Item)
    (before after : Config SenderOp SenderTask SenderState) : Prop where
  enqueued : (after.shared.channels address).enqueued = (before.shared.channels address).enqueued ++
    (untilSentinel items).filterMap (decodeUpdate sender.codecs)
  queues : (after.shared.channels address).queues =
    ((untilSentinel items).filterMap (decodeUpdate sender.codecs)).foldl queueInto
      (before.shared.channels address).queues
  reader : after.pool (.reader address) = before.pool (.reader address) ∧
    (after.shared.channels address).queue = [] ∨ after.pool (.reader address) = .done () ∧
      (.sentinel ∈ items ∨ before.shared.paths address ∉ before.shared.files)
  others : ∀ task, task ≠ .reader address → after.pool task = before.pool task
  only : OnlyRing address before.shared after.shared

omit files in
theorem polled_stream (channel : Channel SenderTask) : channel.polled.stream = channel.stream ∧
    channel.polled.counter = channel.counter ∧ channel.polled.linked = channel.linked ∧
    (channel.ready = true ∨ channel.edge = true → channel.polled.ready = true) := by
  unfold Channel.polled
  split
  · exact ⟨rfl, rfl, rfl, fun _ => rfl⟩
  · rename_i quiet
    exact ⟨rfl, rfl, rfl, fun reported => reported.resolve_right quiet⟩

theorem reader_rests (lossless : sender.codecs.lz4.RoundTrips)
    (run : (senderSystem sender).Reachable (senderStart files) config)
    (waits : ReaderWaits sender address config)
    {items : List Item} {n : Nat} (unread : Unread (config.shared.channels address) items n)
    (counted : (config.shared.channels address).counter ≠ 0) {choices : Nat → SenderChoice}
    {bound : Nat} (settled : ∀ n, bound ≤ n → (choices n).interrupted = false)
    (unfailing : ∀ n, (choices n).failure = none) {present : Bool}
    (there : decide (config.shared.paths address ∈ config.shared.files) = present) :
    ∃ steps within after, (senderSystem sender).schedule
      ⟨config.shared.pollRing address, config.pool⟩
        ((List.range' 1 steps).map fun n => .step (.reader address) (choices n)) =
          some ⟨after, Function.update config.pool (.reader address) (onRing address within)⟩ ∧
      Rested sender.codecs items present (config.shared.channels address).polled within
        (after.channels address) ∧
      OnlyRing address (config.shared.pollRing address) after := by
  obtain ⟨stream, count, linked, ready⟩ := polled_stream (config.shared.channels address)
  simp only [Channel.stream, Prod.mk.injEq] at stream
  have ring := waits.inv.wired.ring address
  have steadied : Steadied (fun n => (choices n).alone present) bound present :=
    ⟨settled, unfailing, fun _ => rfl⟩
  have decodes : ∀ body ∈ untilSentinel items, decodeUpdate sender.codecs body ≠ none := by
    intro body member undecoded
    have accepted := bodies_items member
    rw [← unread.sent] at accepted
    refine decodable lossless run address ⟨body, ?_, undecoded⟩
    exact ((List.drop_sublist n _).filterMap bodyOf).subset accepted
  have gone : present = false → (config.shared.channels address).polled.linked = false := by
    intro absent
    rw [linked]
    by_contra alive
    have found := waits.inv.filed.present address waits.made (Bool.eq_true_of_not_eq_false alive)
    simp [found, absent] at there
  have unread' : (config.shared.channels address).polled.queue = itemsBytes items :=
    stream.2.1.trans unread.queue
  have reaches : (loneRing SenderTask).Until (.reader address) (fun n => (choices n).alone present)
      (fun rest _ after => Rested sender.codecs items present
        (config.shared.channels address).polled rest after)
      (parkedReader sender.codecs) 1 (config.shared.channels address).polled :=
    parkedReader_rests steadied unread.valid decodes unread' (ready (ring.2.reported counted))
      (by rw [count]; exact counted) gone
  have view :
      (config.shared.pollRing address).channels address = (config.shared.channels address).polled :=
    Function.update_self ..
  rw [← view] at reaches ⊢
  have made : address < (config.shared.pollRing address).allocated := waits.made
  obtain ⟨steps, _, after, ⟨within, rfl, rested, kept⟩, ran⟩ :=
    (until_onRing made there reaches).scheduled config.pool
  rw [← waits.program, Function.update_eq_self] at ran
  exact ⟨steps, within, after, ran, rested, kept⟩

theorem return_scheduled (sender : Sender) (made : address < config.shared.allocated)
    (choice : SenderChoice) (returns : config.pool (.reader address) = onRing address
      (.request (.note (.readerReturned true)) .done)) :
    (senderSystem sender).schedule config [.step (.reader address) choice] =
      some ⟨config.shared.returnReader address, Function.update config.pool (.reader address)
        (.done ())⟩ := by
  have executed :
    (senderSystem sender).exec choice (.reader address)
    (.channel address (.note (.readerReturned true)))
      config.shared = some ((), config.shared.returnReader address) := by
    simp only [senderSystem, SenderState.exec, SenderState.execChannel, if_pos made,
      SenderState.execRing, Channel.exec]
    rfl
  have shape : config.pool (.reader address) =
      .request (.channel address (.note (.readerReturned true))) .done := returns
  simp only [schedule, command, shape, executed, Option.bind_some]

theorem return_closed (run : (senderSystem sender).Reachable (senderStart files) config)
    (returns :
      config.pool (.reader address) = onRing address
      (.request (.note (.readerReturned true)) .done))
    (closed : (config.shared.channels address).closed = true) :
    ∃ m : Nat, (config.shared.channels address).sent[m]? = some sentinelBytes := by
  -- A reader that is about to return because its ring is closed has met the sentinel, if it has
  -- seen the file.
  have sound := Sound.reachable senderCall_triple (sender_sound sender files) run
  have guarded :
      senderGuard sender (.reader address) (.channel address (.note (.readerReturned true)))
      config.shared :=
    sound.guard returns
  obtain ⟨n, place, -⟩ := guarded.1.1.2 rfl
  obtain ⟨m, -, found⟩ := place.accounted.closed closed
  exact ⟨m, found⟩

def Channel.passedOver (decode : Bytes → Option Update) (items : List Item)
    (channel : Channel SenderTask) : Channel SenderTask :=
  channel.polled.takeCount.drained decode items

structure PassedOver (decode : Bytes → Option Update) (items : List Item)
    (before after : Channel SenderTask) : Prop where
  enqueued : after.enqueued = before.enqueued ++ (untilSentinel items).filterMap decode
  queues : after.queues = ((untilSentinel items).filterMap decode).foldl queueInto before.queues
  queue : .sentinel ∉ items → after.queue = []
  closed : .sentinel ∈ items → after.closed = true
  sent : after.sent = before.sent

theorem passedOver (decode : Bytes → Option Update) {items : List Item}
    {channel : Channel SenderTask} (unread : channel.queue = itemsBytes items) :
    PassedOver decode items channel (channel.passedOver decode items) := by
  obtain ⟨stream, -⟩ := polled_stream channel
  simp only [Channel.stream, Prod.mk.injEq] at stream
  obtain ⟨writes, queue, -, -, enqueued, -, queues, -⟩ := stream
  have passed := drained_passed decode items channel.polled.takeCount (queue.trans unread)
  refine ⟨?_, ?_, passed.queue, passed.closed, ?_⟩
  · exact passed.enqueued.trans (congrArg (· ++ _) enqueued)
  · exact passed.queues.trans (congrArg (List.foldl queueInto · _) queues)
  · exact congrArg (List.map Prod.snd) (passed.writes.trans writes)

theorem Delivered.parked {items : List Item} {present : Bool} {after : SenderState}
    (waits : ReaderWaits sender address config)
    (passed : PassedOver (decodeUpdate sender.codecs) items (config.shared.channels address)
      ((config.shared.channels address).passedOver (decodeUpdate sender.codecs) items))
    (continues :
      ¬ (((config.shared.channels address).passedOver (decodeUpdate sender.codecs) items).closed ||
      !present) = true)
    (now : after.channels address =
      { ((config.shared.channels address).passedOver (decodeUpdate sender.codecs) items).sawPath with ready := false })
    (only : OnlyRing address config.shared after) :
    Delivered sender address items config
      ⟨after, Function.update config.pool (.reader address)
        (onRing address (parkedReader sender.codecs))⟩ := by
  have still : .sentinel ∉ items := fun inside =>
    continues (by rw [passed.closed inside, Bool.true_or])
  refine ⟨?_, ?_, .inl ⟨?_, ?_⟩, fun task other => Function.update_of_ne other _ _, only⟩
  · rw [now]
    exact passed.enqueued
  · rw [now]
    exact passed.queues
  · exact (Function.update_self ..).trans waits.program.symm
  · rw [now]
    exact passed.queue still

theorem Delivered.returned {items : List Item} {n : Nat} {after : SenderState}
    (unread : Unread (config.shared.channels address) items n)
    (passed : PassedOver (decodeUpdate sender.codecs) items (config.shared.channels address)
      ((config.shared.channels address).passedOver (decodeUpdate sender.codecs) items))
    (closes :
      (((config.shared.channels address).passedOver (decodeUpdate sender.codecs) items).closed ||
      !decide (config.shared.paths address ∈ config.shared.files)) = true)
    (now : after.channels address = (config.shared.channels address).passedOver
      (decodeUpdate sender.codecs) items)
    (sentinel : (after.channels address).closed = true → ∃ m : Nat,
      (after.channels address).sent[m]? = some sentinelBytes)
    (only : OnlyRing address config.shared after) :
    Delivered sender address items config
      ⟨after.returnReader address, Function.update config.pool (.reader address) (.done ())⟩ := by
  have ring : (after.returnReader address).channels address =
      (after.channels address).record (.reader address) (.readerReturned true) :=
        Function.update_self ..
  refine ⟨?_, ?_, .inr ⟨Function.update_self .., ?_⟩, fun task other =>
    Function.update_of_ne other _ _,
    only.trans (.withRing _ _ _)⟩
  · rw [ring, now]
    exact passed.enqueued
  · rw [ring, now]
    exact passed.queues
  · rcases Bool.or_eq_true_iff.mp closes with closed | absent
    · obtain ⟨m, found⟩ := sentinel (by rw [now, closed])
      rw [now, passed.sent] at found
      exact .inl (unread.sentinel found)
    · exact .inr (by simpa using absent)

theorem woken (lossless : sender.codecs.lz4.RoundTrips)
    (run : (senderSystem sender).Reachable (senderStart files) config)
    (parked : awaiting (config.pool (.reader address)) = some address)
    (idle : config.pool (.runtime address) = .done ())
    (paid : (config.shared.channels address).owing = [])
    {items : List Item} {n : Nat} (unread : Unread (config.shared.channels address) items n)
    {choices : Nat → SenderChoice} {bound : Nat}
    (settled : ∀ n, bound ≤ n → (choices n).interrupted = false)
    (unfailing : ∀ n, (choices n).failure = none) :
    ∃ steps final, (senderSystem sender).schedule config
        ([.start (.runtime address) (.poll address), .step (.runtime address) (choices 0)] ++
          (List.range' 1 steps).map fun n => .step (.reader address) (choices n)) = some final ∧
      Delivered sender address items config final := by
  have waits := reader_waits run parked
  have ring := waits.inv.wired.ring address
  have polled := poll_scheduled sender waits.made idle (choices 0)
  have passed := passedOver (decodeUpdate sender.codecs) unread.queue
  by_cases empty : (config.shared.channels address).queue = []
  · -- Nothing to read: the reader may stay where it is.
    obtain rfl : items = [] := unread.none empty
    obtain ⟨stream, -⟩ := polled_stream (config.shared.channels address)
    simp only [Channel.stream, Prod.mk.injEq] at stream
    obtain ⟨-, queue, -, -, enqueued, -, queues, -⟩ := stream
    refine ⟨0, _, polled, ?_, ?_, .inl ⟨rfl, ?_⟩, fun _ _ => rfl, .withRing _ _ _⟩
    · simp [SenderState.withRing, untilSentinel, enqueued]
    · simp [SenderState.withRing, untilSentinel, queues]
    · simp [SenderState.withRing, queue, empty]
  · have counted : (config.shared.channels address).counter ≠ 0 := by
      rcases ring.2.wakes (.inr waits.waiting) empty with counted | someone
      · exact counted
      · exact absurd paid someone
    obtain ⟨steps, within, after, ran, rested, kept⟩ :=
      reader_rests lossless run waits unread counted settled unfailing rfl
    have only : OnlyRing address config.shared after := (OnlyRing.withRing _ _ _).trans kept
    have reached : (senderSystem sender).schedule config
        ([.start (.runtime address) (.poll address), .step (.runtime address) (choices 0)] ++
          (List.range' 1 steps).map fun n => .step (.reader address) (choices n)) =
          some ⟨after, Function.update config.pool (.reader address) (onRing address within)⟩ := by
      rw [schedule_append polled, ran]
    rw [Rested] at rested
    split at rested
    · rename_i closes
      obtain ⟨rfl, now⟩ := rested
      -- One more step, the reader's own note of its return.
      let last : Config SenderOp SenderTask SenderState :=
        ⟨after, Function.update config.pool (.reader address)
        (onRing address (.request (.note (.readerReturned true)) .done))⟩
      have made : address < last.shared.allocated := kept.allocated ▸ waits.made
      have returns :
          last.pool (.reader address) = onRing address
          (.request (.note (.readerReturned true)) .done) :=
        Function.update_self ..
      have commands :
        (List.range' 1 (steps + 1)).map
        (fun n => (.step (.reader address) (choices n) : SenderCommand)) =
          (List.range' 1 steps).map (fun n => .step (.reader address) (choices n)) ++
            [.step (.reader address) (choices (1 + steps))] := by
        rw [List.range'_1_concat, List.map_append, List.map_singleton]
      have ended := return_scheduled sender made (choices (1 + steps)) returns
      refine ⟨steps + 1, _, ?_, .returned unread passed closes now
        (return_closed (run.trans (schedule_reachable reached)) returns) only⟩
      rw [commands, ← List.append_assoc, schedule_append reached, ended, Function.update_idem]
    · rename_i continues
      obtain ⟨rfl, now⟩ := rested
      exact ⟨steps, _, reached, .parked waits passed continues now only⟩

/-- From every state a run can come to: if the reader of a ring is parked and nobody who wrote to
the ring still has to notify, then one poll by the runtime and steps of the reader lead to a state
in which it has decoded and queued, in order, everything that was unread in the ring up to a
sentinel, and is parked again or has returned. -/
theorem wake_delivers (lossless : sender.codecs.lz4.RoundTrips)
    (run : (senderSystem sender).Reachable (senderStart files) config)
    (parked : awaiting (config.pool (.reader address)) = some address)
    (idle : config.pool (.runtime address) = .done ())
    (paid : (config.shared.channels address).owing = [])
    (choices : Nat → SenderChoice) (bound : Nat)
    (settled : ∀ n, bound ≤ n → (choices n).interrupted = false)
    (unfailing : ∀ n, (choices n).failure = none) :
    ∃ items steps final, (config.shared.channels address).queue = itemsBytes items ∧
      (∀ item ∈ items, item.Valid) ∧ (senderSystem sender).schedule config
        ([.start (.runtime address) (.poll address), .step (.runtime address) (choices 0)] ++
          (List.range' 1 steps).map fun n => .step (.reader address) (choices n)) = some final ∧
      Delivered sender address items config final := by
  have waits := reader_waits run parked
  obtain ⟨items, n, unread⟩ := unread_of_waiting (waits.inv.wired.ring address).1 waits.waiting
  obtain ⟨steps, final, ran, delivered⟩ := woken lossless run parked idle paid unread
    settled unfailing
  exact ⟨items, steps, final, unread.queue, unread.valid, ran, delivered⟩

end

def subscribedParked : List SenderCommand :=
  [.start (.handler 0) (.subscribe sampleRequest)] ++ takes (.handler 0) 15 ++
    [.start (.reader 0) (.consume 0)] ++ takes (.reader 0) 8

theorem wake_delivers_pushed :
    ∃ config, (senderSystem sampleSender).Reachable (senderStart []) config ∧
      awaiting (config.pool (.reader 0)) = some 0 ∧ (config.shared.channels 0).queue ≠ [] ∧
      ∃ items steps final, (config.shared.channels 0).queue = itemsBytes items ∧
        (∀ item ∈ items, item.Valid) ∧ (senderSystem sampleSender).schedule config
          ([.start (.runtime 0) (.poll 0), .step (.runtime 0) {}] ++
            (List.range' 1 steps).map fun _ => .step (.reader 0) {}) = some final ∧
        Delivered sampleSender 0 items config final := by
  have ran : ((senderSystem sampleSender).schedule (senderStart []) (subscribedParked ++
      .start (.dispatcher .account) (.dispatch (.account sampleAccountUpdate)) :: takes
        (.dispatcher .account) 19)).any
      (fun config => awaiting (config.pool (.reader 0)) = some 0 ∧
        (config.shared.channels 0).queue ≠ [] ∧
        (config.pool (.runtime 0)).isDone ∧ (config.shared.channels 0).owing = []) = true := by
    decide +kernel
  obtain ⟨config, run, checked⟩ := schedule_finds ran
  obtain ⟨parked, pushed, idle, paid⟩ := of_decide_eq_true checked
  exact ⟨config, run, parked, pushed, wake_delivers literalLz4_roundTrips run parked
    (Program.eq_done idle) paid (fun _ => {}) 0 (fun _ _ => rfl) fun _ => rfl⟩

end Qlaster
