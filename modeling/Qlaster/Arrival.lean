import Qlaster.Delivering
import Qlaster.Tabling

/-!
From a published update to the client. A dispatch writes the frame behind what the reader has not
read yet; the reader, woken by the notification, queues the update after everything that was in
front of it.
-/

namespace Qlaster

open LittleEndian Interleaving Interleaving.System

/-! Items can be told apart in the bytes of a ring. -/

def nextItem (bytes : Bytes) : Item × Bytes :=
  let length := u32FromLeBytes (bytes.take 4)
  if length = closeSentinel then (.sentinel, bytes.drop 4)
  else (.frame ((bytes.drop 4).take length.toNat), (bytes.drop 4).drop length.toNat)

theorem nextItem_bytes {item : Item} (valid : item.Valid) (rest : Bytes) :
    nextItem (item.bytes ++ rest) = (item, rest) := by
  cases item with
  | sentinel =>
      have front : (sentinelBytes ++ rest).take 4 = sentinelBytes :=
        List.take_left' (by simp [sentinelBytes])
      have behind : (sentinelBytes ++ rest).drop 4 = rest :=
        List.drop_left' (by simp [sentinelBytes])
      simp only [nextItem, Item.bytes, front, behind]
      rw [sentinelBytes, u32FromLeBytes_toLeBytes, if_pos rfl]
  | frame body =>
      have front : (u32ToLeBytes (UInt32.ofNat body.length) ++ (body ++ rest)).take 4 =
          u32ToLeBytes (UInt32.ofNat body.length) := List.take_left' (by simp)
      have behind : (u32ToLeBytes (UInt32.ofNat body.length) ++ (body ++ rest)).drop 4 =
          body ++ rest :=
        List.drop_left' (by simp)
      simp only [nextItem, Item.bytes, List.append_assoc, front, behind]
      rw [if_neg (frameLen_ne_sentinel valid), frameLen_toNat valid, List.take_left, List.drop_left]

theorem itemsBytes_inj {items items' : List Item} (valid : ∀ item ∈ items, item.Valid)
    (valid' : ∀ item ∈ items', item.Valid) (same : itemsBytes items = itemsBytes items') :
    items = items' := by
  have split : ∀ item rest, itemsBytes (item :: rest) = item.bytes ++ itemsBytes rest :=
    fun _ _ => rfl
  induction items generalizing items' with
  | nil =>
      cases items' with
      | nil => rfl
      | cons item rest => simp [itemsBytes, item.bytes_ne_nil] at same
  | cons item rest ih =>
      cases items' with
      | nil => simp [itemsBytes, item.bytes_ne_nil] at same
      | cons item' rest' =>
          have read := congrArg nextItem same
          rw [split, split, nextItem_bytes (valid item (List.mem_cons_self ..)),
            nextItem_bytes (valid' item' (List.mem_cons_self ..))] at read
          obtain ⟨rfl, behind⟩ := Prod.mk.inj read
          rw [ih (fun other member => valid other (List.mem_cons_of_mem _ member))
            (fun other member => valid' other (List.mem_cons_of_mem _ member)) behind]

theorem itemsBytes_concat (items : List Item) (item : Item) :
    itemsBytes (items ++ [item]) = itemsBytes items ++ item.bytes := by
  simp [itemsBytes]

theorem untilSentinel_concat {items : List Item} (still : .sentinel ∉ items) (body : Bytes) :
    untilSentinel (items ++ [.frame body]) = untilSentinel items ++ [body] := by
  induction items with
  | nil => rfl
  | cons item rest ih =>
      cases item with
      | sentinel => simp at still
      | frame other =>
          have later : .sentinel ∉ rest := fun inside => still (List.mem_cons_of_mem _ inside)
          simp only [List.cons_append, untilSentinel, ih later]

theorem queueInto_last (queues : Kind → List Update) (updates : List Update) (update : Update) :
    ((updates ++ [update]).foldl queueInto queues update.kind).getLast? = some update := by
  rw [List.foldl_append]
  simp [queueInto, forcePushOnto, DropOldest.push_getLast?]

/-! The dispatch. -/

section
variable {sender : Sender} {choices : Nat → SenderChoice} {update : Update} {before after : Table}
  {index : SlotIndex} {view : SlotView}
  (dispatched : Dispatched choices (update.wantedBy sender) (encodeFrame sender.codecs update)
    (List.finRange _) none before after)
  (found : before.slot index = some view) (live : ∀ n, view.stale (choices n).now = false)
include dispatched found live

theorem Dispatched.pushed (wanted : update.wantedBy sender view.filter = true)
    (room : view.queue.length + (frameLenBytes + update.frameLength sender.codecs) ≤
      view.entry.sink.capacity) :
    ∃ nanos frame, encodeFrame sender.codecs update nanos = .ok frame ∧
      after.connections index = some view.entry ∧
      (after.channels view.entry.address).queue = view.queue ++ frame.item := by
  obtain ⟨frame, nanos, now, -, made, read, served⟩ := dispatched
  have encoded := made rfl
  have result := served.served index (List.mem_finRange _) view found
  obtain ⟨reading, moment⟩ := read index
  have taken : view.served (update.wantedBy sender) frame.item (now index) =
      (some view.entry, view.queue ++ frame.item) := by
    have fits : view.queue.length + frame.item.length ≤ view.entry.sink.capacity := by
      rw [encodeFrame_length encoded]
      exact room
    rw [SlotView.served, moment, live reading]
    simp [wanted, fits]
  exact ⟨nanos, frame, encoded, result.entry.trans (congrArg Prod.fst taken),
    result.queue.trans (congrArg Prod.snd taken)⟩

theorem Dispatched.spared (unwanted : update.wantedBy sender view.filter = false) :
    after.connections index = some view.entry ∧
      after.channels view.entry.address = before.channels view.entry.address := by
  obtain ⟨frame, nanos, now, -, -, read, served⟩ := dispatched
  have result := served.served index (List.mem_finRange _) view found
  obtain ⟨reading, moment⟩ := read index
  have fresh : view.stale (now index) = false := by rw [moment, live]
  have left : view.served (update.wantedBy sender) frame.item (now index) =
      (some view.entry, view.queue) := by
    rw [SlotView.served, fresh]
    simp [unwanted]
  exact ⟨result.entry.trans (congrArg Prod.fst left), (result.quiet fresh unwanted).1⟩

end

/-! A dispatch leaves alone what clients have queued. -/

section
variable {choice : SenderChoice} {task : SenderTask} {β : Type} {before after : SenderState}
  {reply : β}

end

section
variable {sender : Sender} {files : List Path} {config mid : Config SenderOp SenderTask SenderState}

/-! The reader. -/

theorem frame_arrives (lossless : sender.codecs.lz4.RoundTrips)
    (run : (senderSystem sender).Reachable (senderStart files) config)
    (run' : (senderSystem sender).Reachable (senderStart files) mid) {index : SlotIndex}
    {entry : ManagedConnection}
    (parked : awaiting (config.pool (.reader entry.address)) = some entry.address)
    (parked' : awaiting (mid.pool (.reader entry.address)) = some entry.address)
    (idle : ∀ task, Sends task → mid.pool task = .done ())
    (quiet : mid.pool (.runtime entry.address) = .done ())
    (kept : mid.shared.connections index = some entry) {update : Update} {nanos : UInt64}
    {frame : OutboundFrame} (encoded : encodeFrame sender.codecs update nanos = .ok frame)
    (queued :
      (mid.shared.channels entry.address).queue = (config.shared.channels entry.address).queue ++
      frame.item)
    {choices : Nat → SenderChoice} {bound : Nat}
    (settled : ∀ n, bound ≤ n → (choices n).interrupted = false)
    (unfailing : ∀ n, (choices n).failure = none) :
    ∃ items reading final, (config.shared.channels entry.address).queue = itemsBytes items ∧
      (senderSystem sender).schedule mid
        ([.start (.runtime entry.address) (.poll entry.address), .step (.runtime entry.address)
          (choices 0)] ++
          (List.range' 1 reading).map fun n => .step (.reader entry.address) (choices n)) =
            some final ∧
      (final.shared.channels entry.address).enqueued =
        (mid.shared.channels entry.address).enqueued ++
        (untilSentinel items).filterMap (decodeUpdate sender.codecs) ++ [update] ∧
      ((final.shared.channels entry.address).queues update.kind).getLast? = some update ∧
      (final.shared.channels entry.address).queue = [] ∧ final.pool = mid.pool ∧
      OnlyRing entry.address mid.shared final.shared := by
  -- What is unread now is what was unread before, and the frame.
  have waits := reader_waits run parked
  have waits' := reader_waits run' parked'
  obtain ⟨items, n, unread⟩ := unread_of_waiting (waits.inv.wired.ring entry.address).1
    waits.waiting
  obtain ⟨items', n', unread'⟩ := unread_of_waiting (waits'.inv.wired.ring entry.address).1
    waits'.waiting
  have valid := (encodeFrame_carries encoded).valid
  obtain rfl : items' = items ++ [.frame (frame.header ++ frame.payload)] := by
    refine itemsBytes_inj unread'.valid ?_ ?_
    · intro item member
      rcases List.mem_append.mp member with old | new
      · exact unread.valid item old
      · rw [List.mem_singleton.mp new]
        exact valid
    · rw [itemsBytes_concat, ← unread'.queue, queued, unread.queue]
      rfl
  have still : .sentinel ∉ items ++ [.frame (frame.header ++ frame.payload)] := by
    intro inside
    have closed : sentinelBytes ∈ (mid.shared.channels entry.address).sent.drop n' :=
      unread'.sent ▸ List.mem_map.mpr ⟨_, inside, rfl⟩
    exact never_closed run' idle kept (List.mem_of_mem_drop closed)
  obtain ⟨reading, final, woke, delivered⟩ :=
    woken lossless run' parked' quiet (all_notified run' idle _) unread' settled unfailing
  have before : .sentinel ∉ items := fun inside => still (List.mem_append_left _ inside)
  have updates : (untilSentinel (items ++ [.frame (frame.header ++ frame.payload)])).filterMap
    (decodeUpdate sender.codecs) =
      (untilSentinel items).filterMap (decodeUpdate sender.codecs) ++ [update] := by
    rw [untilSentinel_concat before, List.filterMap_append]
    simp [encodeFrame_decodes lossless encoded]
  refine ⟨items, reading, final, unread.queue, woke, ?_, ?_, ?_⟩
  · rw [delivered.enqueued, updates, List.append_assoc]
  · rw [delivered.queues, updates]
    exact queueInto_last _ _ update
  · rcases delivered.reader with ⟨same, empty⟩ | ⟨-, closed | gone⟩
    · refine ⟨empty, funext fun task => ?_, delivered.only⟩
      by_cases mine : task = .reader entry.address
      · rw [mine, same]
      · exact delivered.others task mine
    · exact absurd closed still
    · refine absurd ?_ gone
      exact waits'.inv.filed.present _ waits'.made (waits'.inv.owned.tabled index entry kept)

/-- From every reachable state in which the sender's tasks are idle and the reader of a connection
is parked: an update that the connection asks for, if its entry is live and its ring has room, is
dispatched into the ring, and one poll and steps of the reader later the client has it in the queue
of its kind, behind everything that was unread before. The connection stays in the table, and the
reader ends where it was, in front of an empty ring. -/
theorem update_reaches_client (lossless : sender.codecs.lz4.RoundTrips)
    (run : (senderSystem sender).Reachable (senderStart files) config)
    (idle : ∀ task, Sends task → config.pool task = .done ()) (update : Update) (index : SlotIndex)
    (view : SlotView) (found : config.shared.table.slot index = some view)
    (wanted : update.wantedBy sender view.filter = true)
    (parked : awaiting (config.pool (.reader view.entry.address)) = some view.entry.address)
    (quiet : config.pool (.runtime view.entry.address) = .done ())
    (choices : Nat → SenderChoice) (bound : Nat) (undisturbed : Undisturbed choices bound)
    (unfailing : ∀ n, (choices n).failure = none) (live : ∀ n, view.stale (choices n).now = false)
    (room : view.queue.length + (frameLenBytes + update.frameLength sender.codecs) ≤
      view.entry.sink.capacity) :
    ∃ items dispatching reading mid final, view.queue = itemsBytes items ∧
      (senderSystem sender).schedule config
        (.start (.dispatcher update.kind) (.dispatch update) ::
          (List.range dispatching).map fun n => .step (.dispatcher update.kind) (choices n)) =
            some mid ∧
      mid.shared.connections index = some view.entry ∧
      (senderSystem sender).schedule mid
        ([.start (.runtime view.entry.address) (.poll view.entry.address),
            .step (.runtime view.entry.address) (choices 0)] ++
          (List.range' 1 reading).map fun n => .step (.reader view.entry.address) (choices n)) =
            some final ∧
      (final.shared.channels view.entry.address).enqueued =
        (mid.shared.channels view.entry.address).enqueued ++
        (untilSentinel items).filterMap (decodeUpdate sender.codecs) ++ [update] ∧
      ((final.shared.channels view.entry.address).queues update.kind).getLast? = some update ∧
      (final.shared.channels view.entry.address).queue = [] ∧
      final.pool (.reader view.entry.address) = config.pool (.reader view.entry.address) := by
  let begun : Config SenderOp SenderTask SenderState := ⟨config.shared, Function.update config.pool
    (.dispatcher update.kind) (senderProgram sender (.dispatch update))⟩
  have started :
    (senderSystem sender).command config (.start (.dispatcher update.kind) (.dispatch update)) =
      some begun := by
    simp [begun, command, idle (.dispatcher update.kind) trivial, senderSystem, senderMayStart]
  have running : begun.pool (.dispatcher update.kind) = senderProgram sender (.dispatch update) :=
    Function.update_self ..
  have own : OwnRings config.shared.table := own_rings run
  obtain ⟨dispatching, mid, stepped, done, dispatched⟩ := dispatch_scheduled undisturbed running own
  obtain ⟨nanos, frame, encoded, kept, queued⟩ := dispatched.pushed found live wanted room
  have ran :
    (senderSystem sender).schedule config (.start (.dispatcher update.kind) (.dispatch update) ::
      (List.range dispatching).map fun n => .step (.dispatcher update.kind) (choices n)) =
        some mid := by
    rw [schedule, started, Option.bind_some, stepped]
  -- The dispatch leaves the other tasks where they were, so the state it ends in is as quiet as the
  -- first.
  have others : ∀ task, task ≠ .dispatcher update.kind → mid.pool task = config.pool task := by
    intro task other
    have named : ∀ command ∈ (.start (.dispatcher update.kind) (.dispatch update) ::
        (List.range dispatching).map fun n => .step (.dispatcher update.kind) (choices n) :
        List SenderCommand),
        command.task ∈ [SenderTask.dispatcher update.kind] := by
      simp [Command.task]
    exact schedule_outside ran named (by simpa using other)
  have run' := run.trans (schedule_reachable ran)
  have idle' : ∀ task, Sends task → mid.pool task = .done () := by
    intro task sends
    by_cases mine : task = .dispatcher update.kind
    · rw [mine, done]
    · rw [others task mine, idle task sends]
  have reader := others (.reader view.entry.address) (by simp)
  have parked' : awaiting (mid.pool (.reader view.entry.address)) = some view.entry.address := by
    rw [reader, parked]
  have quiet' : mid.pool (.runtime view.entry.address) = .done () := by
    rw [others _ (by simp), quiet]
  have shows := Table.slot_shows found
  have behind : (mid.shared.channels view.entry.address).queue =
      (config.shared.channels view.entry.address).queue ++ frame.item :=
    queued.trans (congrArg (· ++ _) shows.queue.symm)
  obtain ⟨items, reading, final, front, woke, enqueued, last, empty, same, -⟩ :=
    frame_arrives lossless run run' parked parked' idle' quiet' kept encoded behind
      undisturbed.settled unfailing
  exact ⟨items, dispatching, reading, mid, final, shows.queue.symm.trans front, ran, kept, woke,
    enqueued, last, empty, (congrFun same _).trans reader⟩

end

def wideSender : Sender := { sampleSender with ringCapacity := 256 }

/-- Two clients subscribe, the first one's reader waits, and a first update is in both rings. -/
def subscribedTwice : List SenderCommand :=
  [.start (.handler 0) (.subscribe sampleRequest)] ++ takes (.handler 0) 15 ++
    [.start (.handler 1) (.subscribe sampleRequest)] ++ takes (.handler 1) 19 ++
    [.start (.reader 0) (.consume 0)] ++ takes (.reader 0) 8 ++
    [.start (.dispatcher .account) (.dispatch (.account sampleAccountUpdate))] ++ takes
      (.dispatcher .account) 26

theorem undisturbed_default : Undisturbed (fun _ => {}) 0 := ⟨fun _ => rfl, fun _ _ => rfl⟩

-- The reader queues what was unread, and then the update of the dispatch.
theorem update_reaches_parked :
    ∃ config items dispatching reading mid final, (senderSystem wideSender).Reachable
      (senderStart []) config ∧
      (config.shared.channels 0).queue ≠ [] ∧ (config.shared.channels 0).queue = itemsBytes items ∧
      (senderSystem wideSender).schedule config
        (.start (.dispatcher .account) (.dispatch (.account sampleAccountUpdate)) ::
          (List.range dispatching).map fun _ => .step (.dispatcher .account) {}) = some mid ∧
      (senderSystem wideSender).schedule mid
        ([.start (.runtime 0) (.poll 0), .step (.runtime 0) {}] ++
          (List.range' 1 reading).map fun _ => .step (.reader 0) {}) = some final ∧
      (final.shared.channels 0).enqueued = (mid.shared.channels 0).enqueued ++
        (untilSentinel items).filterMap (decodeUpdate wideSender.codecs) ++
          [.account sampleAccountUpdate] ∧
      ((final.shared.channels 0).queues .account).getLast? = some
        (.account sampleAccountUpdate) := by
  have ran : ((senderSystem wideSender).schedule (senderStart []) subscribedTwice).any
    (fun config =>
      (∀ task ∈ [SenderTask.handler 0, .handler 1, .dispatcher .account],
        (config.pool task).isDone = true) ∧
        awaiting (config.pool (.reader 0)) = some 0 ∧ (config.shared.channels 0).queue ≠ [] ∧
        (config.shared.table.slot (0 : Fin 10)).any fun view => view.entry.address = 0 ∧
          (Update.account sampleAccountUpdate).wantedBy wideSender view.filter = true ∧
            view.stale 0 = false ∧
          view.queue.length +
            (frameLenBytes + (Update.account sampleAccountUpdate).frameLength wideSender.codecs) ≤
            view.entry.sink.capacity) = true := by
    decide +kernel
  obtain ⟨config, finished, checked⟩ := (Option.any_eq_true _ _).mp ran
  obtain ⟨done, parked, unread, slot⟩ := of_decide_eq_true checked
  obtain ⟨view, found, seen⟩ := (Option.any_eq_true _ _).mp slot
  obtain ⟨address, wanted, live, room⟩ := of_decide_eq_true seen
  have run := schedule_reachable finished
  have outside :
    ∀ task, task ∉ [SenderTask.handler 0, .handler 1, .dispatcher .account, .reader 0] →
      config.pool task = .done () :=
    fun task other => schedule_outside finished (by decide) other
  have idle : ∀ task, Sends task → config.pool task = .done () := by
    intro task sends
    by_cases named : task ∈ [SenderTask.handler 0, .handler 1, .dispatcher .account]
    · exact Program.eq_done (done task named)
    · refine outside task fun member => named ?_
      cases task <;> simp_all [Sends]
  rw [← address] at parked
  obtain ⟨items, dispatching, reading, mid, final, queue, dispatched, -, delivered, enqueued,
      queued, -⟩ :=
    update_reaches_client literalLz4_roundTrips run idle (.account sampleAccountUpdate) (0 : Fin 10)
      view found wanted
      parked (outside _ (by simp)) (fun _ => {}) 0 undisturbed_default (fun _ => rfl)
        (fun _ => live) room
  rw [address] at delivered enqueued queued
  refine ⟨config, items, dispatching, reading, mid, final, run, unread, ?_, dispatched, delivered,
    enqueued, queued⟩
  rw [← queue, ← (Table.slot_shows found).queue, address]
  rfl

end Qlaster
