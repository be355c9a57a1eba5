import Qlaster.Delivering

/-!
Where the updates are that a ring took from the dispatchers: with the client, in one of its queues,
in the hands of the reader or unread in the ring. On the way only a full queue loses some, and only
behind as many newer ones as it holds.
-/

namespace Qlaster

open Interleaving Interleaving.Discipline Interleaving.System

/-! The client's queues. -/

def KeepsNewest (channel : Channel SenderTask) : Prop :=
  ∀ kind, ∃ left, DropOldest.Account consumerUpdateQueueCapacity (ofKind kind channel.enqueued)
    (ofKind kind channel.received) (channel.queues kind) left

theorem KeepsNewest.created (capacity : Nat) : KeepsNewest (Channel.created SenderTask capacity) :=
  fun _ => ⟨[], .opened⟩

theorem ofKind_concat (kind : Kind) (updates : List Update) (update : Update) :
    ofKind kind (updates ++ [update]) = ofKind kind updates ++ if update.kind = kind then [update]
      else [] := by
  rw [ofKind, List.filter_append, ofKind]
  congr 1
  by_cases same : update.kind = kind <;> simp [same]

section
variable {channel : Channel SenderTask}

theorem KeepsNewest.forcePush (keeps : KeepsNewest channel) (update : Update) :
    KeepsNewest { channel with
      queues := queueInto channel.queues update
      enqueued := channel.enqueued ++ [update] } := by
  intro kind
  obtain ⟨left, account⟩ := keeps kind
  simp only [ofKind_concat]
  by_cases same : update.kind = kind
  · subst same
    rw [if_pos rfl, queueInto, Function.update_self]
    exact account.push (by decide) update
  · rw [if_neg same, List.append_nil, queueInto, Function.update_of_ne (Ne.symm same)]
    exact ⟨left, account⟩

theorem KeepsNewest.kind (keeps : KeepsNewest channel) {kind : Kind} {update : Update}
    (queued : update ∈ channel.queues kind) : update.kind = kind := by
  obtain ⟨left, account⟩ := keeps kind
  have entered : update ∈ ofKind kind channel.enqueued := by
    rw [account.order]
    exact List.mem_append_right _ queued
  simpa using (List.mem_filter.mp entered).2

theorem KeepsNewest.pop (keeps : KeepsNewest channel) {kind : Kind} {update : Update}
    {rest : List Update} (front : channel.queues kind = update :: rest) :
    KeepsNewest { channel with
      queues := Function.update channel.queues kind rest
      received := channel.received ++ [update] } := by
  have own : update.kind = kind := keeps.kind (front ▸ List.mem_cons_self ..)
  intro other
  obtain ⟨left, account⟩ := keeps other
  simp only [ofKind_concat, own]
  by_cases same : kind = other
  · subst same
    rw [if_pos rfl, Function.update_self]
    rw [front] at account
    exact ⟨_, account.pop⟩
  · rw [if_neg same, List.append_nil, Function.update_of_ne (Ne.symm same)]
    exact ⟨left, account⟩

theorem KeepsNewest.exec (keeps : KeepsNewest channel) {choice : ChannelChoice}
    {task : SenderTask} {β : Type} {op : ChannelOp β} {after : Channel SenderTask} {reply : β}
    (executed : channel.exec choice task op = some (reply, after)) : KeepsNewest after := by
  cases op with
  | forcePush update =>
      simp only [Channel.exec, Option.some.injEq, Prod.mk.injEq] at executed
      obtain ⟨-, rfl⟩ := executed
      exact keeps.forcePush update
  | pop kind =>
      simp only [Channel.exec] at executed
      split at executed <;> simp only [Option.some.injEq, Prod.mk.injEq] at executed <;>
        obtain ⟨-, rfl⟩ := executed
      · exact keeps
      · rename_i front
        exact keeps.pop front
  | tryWriteSlice bytes =>
      simp only [Channel.exec, Channel.markClose] at executed
      repeat' split at executed
      all_goals simp only [Option.some.injEq, Prod.mk.injEq] at executed
      all_goals obtain ⟨-, rfl⟩ := executed
      all_goals exact keeps
  | note note =>
      simp only [Channel.exec, Option.some.injEq, Prod.mk.injEq] at executed
      obtain ⟨-, rfl⟩ := executed
      unfold Channel.record
      repeat' split
      all_goals exact keeps
  | _ =>
      simp only [Channel.exec] at executed
      repeat' split at executed
      all_goals simp only [reduceCtorEq, Option.some.injEq, Prod.mk.injEq] at executed
      all_goals obtain ⟨-, rfl⟩ := executed
      all_goals exact keeps

end

/-! The reader's place in the ring. -/

/-- Everything before item `n` is queued, but for the update of an item the reader has just taken.
-/
structure InHand (decode : Bytes → Option Update) (channel : Channel SenderTask) (n : Nat)
    (held : Option Update) : Prop where
  counted : decodedBodies decode (channel.sent.take n) = channel.enqueued ++ held.toList
  placed : Reads channel.sent channel.taken n ∨
    held = none ∧ ∃ body, Inside channel.sent channel.taken n body
  resting : channel.phase = .checking ∨ channel.phase = .waiting →
    held = none ∧ Reads channel.sent channel.taken n

def Advances : {β : Type} → ChannelOp β → Prop
  | _, .reserveReadBatch _ => True
  | _, .forcePush _ => True
  | _, _ => False

section
variable {decode : Bytes → Option Update} {before after : Channel SenderTask} {n : Nat}
  {held : Option Update}

theorem InHand.created (capacity : Nat) :
    InHand decode (Channel.created SenderTask capacity) 0 none := by
  refine ⟨rfl, .inl ⟨Nat.zero_le _, rfl⟩, ?_⟩
  simp [Channel.created]

theorem InHand.within (inHand : InHand decode before n held) : n ≤ before.sent.length := by
  rcases inHand.placed with reads | ⟨-, body, inside⟩
  · exact reads.within
  · exact inside.lt.le

theorem InHand.grow (inHand : InHand decode before n held) (sent : before.sent <+: after.sent)
    (taken : after.taken = before.taken) (enqueued : after.enqueued = before.enqueued)
    (phase : after.phase = .checking ∨ after.phase = .waiting →
      before.phase = .checking ∨ before.phase = .waiting) : InHand decode after n held := by
  refine ⟨?_, ?_, fun rests => ?_⟩
  · rw [take_grown sent inHand.within, inHand.counted, enqueued]
  · rw [taken]
    refine inHand.placed.imp (fun reads => reads.grow sent) (And.imp_right ?_)
    exact Exists.imp fun body inside => inside.grow sent
  · obtain ⟨empty, reads⟩ := inHand.resting (phase rests)
    rw [taken]
    exact ⟨empty, reads.grow sent⟩

theorem InHand.exec_other {choice : ChannelChoice} {task : SenderTask} {β : Type} {op : ChannelOp β}
    {reply : β} (inHand : InHand decode before n held) (other : ¬ Advances op)
    (executed : before.exec choice task op = some (reply, after)) : InHand decode after n held := by
  cases op with
  | reserveReadBatch len => exact absurd trivial other
  | forcePush update => exact absurd trivial other
  | tryWriteSlice bytes =>
      have sent := Channel.write_sent executed
      refine inHand.grow (sent ▸ List.prefix_append _ _) ?_ ?_ ?_
      all_goals simp only [Channel.exec, Channel.markClose] at executed
      all_goals repeat' split at executed
      all_goals simp only [Option.some.injEq, Prod.mk.injEq] at executed
      all_goals obtain ⟨-, rfl⟩ := executed
      all_goals first | rfl | exact id
  | note note =>
      simp only [Channel.exec, Option.some.injEq, Prod.mk.injEq] at executed
      obtain ⟨-, rfl⟩ := executed
      unfold Channel.record
      repeat' split
      all_goals exact inHand.grow List.prefix_rfl rfl rfl (by simp [Channel.report])
  | pathExists =>
      simp only [Channel.exec] at executed
      repeat' split at executed
      all_goals simp only [reduceCtorEq, Option.some.injEq, Prod.mk.injEq] at executed
      all_goals obtain ⟨-, rfl⟩ := executed
      · refine inHand.grow List.prefix_rfl rfl rfl fun rests => ?_
        simp only [Channel.sawPath] at rests
        split at rests
        · exact .inl ‹_›
        · exact rests
      · exact inHand
  | _ =>
      simp only [Channel.exec] at executed
      repeat' split at executed
      all_goals simp only [reduceCtorEq, Option.some.injEq, Prod.mk.injEq] at executed
      all_goals obtain ⟨-, rfl⟩ := executed
      all_goals first
        | exact inHand
        | exact inHand.grow List.prefix_rfl rfl rfl id
        | exact inHand.grow List.prefix_rfl rfl rfl (by simp)

theorem decodedBodies_take_frame {sent : List Bytes} {body : Bytes}
    (found : sent[n]? = some (Item.frame body).bytes) :
    decodedBodies decode (sent.take (n + 1)) =
      decodedBodies decode (sent.take n) ++ (decode body).toList := by
  rw [decodedBodies, decodedBodies, bodies_take_frame found, List.filterMap_append]
  cases decoded : decode body <;> simp [decoded]

theorem Accounted.taken {body : Bytes} (accounted : Accounted .reading decode n before)
    (found : before.sent[n]? = some (Item.frame body).bytes) (sent : after.sent = before.sent)
    (enqueued : after.enqueued = before.enqueued) (busy : after.phase = .busy)
    (reads : Reads before.sent after.taken (n + 1)) :
    InHand decode after (n + 1) (decode body) := by
  have counts : before.enqueued = decodedBodies decode (before.sent.take n) := accounted.counts
  refine ⟨?_, .inl (sent ▸ reads), by simp [busy]⟩
  rw [sent, enqueued, decodedBodies_take_frame found, counts]

theorem InHand.reserve {allowed : SenderTask → Item → Prop}
    (valid : ∀ task item, allowed task item → item.Valid) (framed : Framed allowed decode before)
    {choice : ChannelChoice} {task : SenderTask} {len : Nat} {reply : Option Bytes}
    (place : (len = 4 ∧ ∃ n, AtItem .reading decode n before) ∨
      ∃ n body, len = body.length ∧ Accounted .reading decode n before ∧
        Inside before.sent before.taken n body)
    (executed : before.exec choice task (.reserveReadBatch len) = some (reply, after)) :
    ∃ n held, InHand decode after n held := by
  simp only [Channel.exec] at executed
  split at executed
  · rename_i empty
    simp only [Option.some.injEq, Prod.mk.injEq] at executed
    obtain ⟨-, rfl⟩ := executed
    rcases place with ⟨rfl, n, here⟩ | ⟨n, body, rfl, -, inside⟩
    · have counts : before.enqueued = decodedBodies decode (before.sent.take n) :=
        here.accounted.counts
      exact ⟨n, none, counts.symm.trans (List.append_nil _).symm, .inl here.reads, fun _ =>
        ⟨rfl, here.reads⟩⟩
    · exact absurd empty (inside.unread_ne_nil framed.flow)
  · rename_i nonempty
    simp only [Option.some.injEq, Prod.mk.injEq] at executed
    obtain ⟨-, rfl⟩ := executed
    rcases place with ⟨rfl, n, here⟩ | ⟨n, body, rfl, accounted, inside⟩
    · have counts : before.enqueued = decodedBodies decode (before.sent.take n) :=
        here.accounted.counts
      rcases framed.header valid here.reads nonempty with
        ⟨-, found, next⟩ | ⟨body, -, -, found, ⟨-, next⟩ | inside⟩
      · refine ⟨n + 1, none, ?_, .inl next, by simp⟩
        show decodedBodies decode (before.sent.take (n + 1)) = before.enqueued ++ []
        rw [List.append_nil, counts, decodedBodies, decodedBodies, bodies_take_sentinel found]
      · exact ⟨n + 1, decode body, here.accounted.taken found rfl rfl rfl next⟩
      · exact ⟨n, none, counts.symm.trans (List.append_nil _).symm,
          .inr ⟨rfl, body, inside⟩, by simp⟩
    · refine ⟨n + 1, decode body, accounted.taken inside.item rfl rfl rfl ?_⟩
      show Reads before.sent (before.taken ++ before.queue.take body.length) (n + 1)
      rw [inside.batch framed.flow]
      exact inside.next

theorem InHand.exec {reader : SenderTask} {allowed : SenderTask → Item → Prop}
    (valid : ∀ task item, allowed task item → item.Valid) {choice : ChannelChoice}
    {task : SenderTask}
    {β : Type} {op : ChannelOp β} {reply : β} (framed : Framed allowed decode before)
    (guarded : framingGuard reader allowed decode .reading task op before)
    (executed : before.exec choice task op = some (reply, after))
    (inHand : ∃ n held, InHand decode before n held) : ∃ n held, InHand decode after n held := by
  by_cases advances : Advances op
  · cases op with
    | reserveReadBatch len => exact InHand.reserve valid framed guarded.2 executed
    | forcePush update =>
        obtain ⟨-, n, counted, reads⟩ := guarded
        simp only [Channel.exec, Option.some.injEq, Prod.mk.injEq] at executed
        obtain ⟨-, rfl⟩ := executed
        exact ⟨n, none, counted.symm.trans (List.append_nil _).symm, .inl reads, fun _ =>
          ⟨rfl, reads⟩⟩
    | _ => exact advances.elim
  · obtain ⟨n, held, inHand⟩ := inHand
    exact ⟨n, held, inHand.exec_other advances executed⟩

end

/-! All that a ring took. -/

section
variable {sender : Sender} {files : List Path} {config : Config SenderOp SenderTask SenderState}

theorem ring_always {kept : Channel SenderTask → Prop}
    (created : ∀ capacity, kept (.created _ capacity))
    (unlinked : ∀ channel, kept channel → kept { channel with linked := false })
    (executes : ∀ {address : Nat} {choice : ChannelChoice} {task : SenderTask} {β : Type}
      {op : ChannelOp β} {before after : Channel SenderTask} {reply : β},
      Framed ringAllows (decodeUpdate sender.codecs) before →
      framingGuard (.reader address) ringAllows (decodeUpdate sender.codecs) .reading
        task op before →
      before.exec choice task op = some (reply, after) → kept before → kept after)
    (run : (senderSystem sender).Reachable (senderStart files) config) (address : Nat) :
    kept (config.shared.channels address) := by
  have persistent : (sending sender).Persistent fun state => kept (state.channels address) := by
    intro choice task β op before reply after inv guarded executed holds
    cases exec_ring guarded executed address with
    | same unchanged => rwa [unchanged]
    | exec choice' op' reply' bound guarded' ran =>
        obtain ⟨choice'', ran'⟩ := inv.ringExec bound ran
        exact executes (inv.wired.ring address).1 guarded'.1.1 ran' holds
    | unlink _ _ _ _ gone =>
        rw [gone]
        exact unlinked _ holds
    | create capacity _ fresh =>
        rw [fresh]
        exact created capacity
  exact Sound.always senderCall_triple persistent (sender_sound sender files) (created 0) run

theorem keepsNewest_always (run : (senderSystem sender).Reachable (senderStart files) config)
    (address : Nat) : KeepsNewest (config.shared.channels address) :=
  ring_always KeepsNewest.created (fun _ keeps => keeps) (fun _ _ ran keeps => keeps.exec ran)
    run address

theorem inHand_always (run : (senderSystem sender).Reachable (senderStart files) config)
    (address : Nat) :
    ∃ n held, InHand (decodeUpdate sender.codecs) (config.shared.channels address) n held :=
  ring_always (fun capacity => ⟨0, none, .created capacity⟩)
    (fun _ holds => holds.imp fun _ => Exists.imp fun _ inHand =>
      inHand.grow List.prefix_rfl rfl rfl id)
    (fun framed guarded ran holds => InHand.exec ringAllows_valid framed guarded ran holds)
      run address

/-- The bytes in a ring are those of whole items, the first one perhaps without its length. -/
def Remains (queue : Bytes) (held : Option Update) (unread : List Item) : Prop :=
  queue = itemsBytes unread ∨
    held = none ∧ ∃ body rest, unread = .frame body :: rest ∧ queue = body ++ itemsBytes rest

theorem InHand.remains {decode : Bytes → Option Update} {channel : Channel SenderTask} {n : Nat}
    {held : Option Update} (inHand : InHand decode channel n held)
    (framed : Framed ringAllows decode channel) :
    ∃ unread, channel.sent.drop n = unread.map Item.bytes ∧ Remains channel.queue held unread ∧
      (channel.phase = .waiting → held = none ∧ channel.queue = itemsBytes unread) := by
  obtain ⟨items, valid, same⟩ := items_of_framed framed ringAllows_valid
  have rest : ∀ m, channel.sent.drop m = (items.drop m).map Item.bytes := fun m => by
    rw [same, List.map_drop]
  have whole : Reads channel.sent channel.taken n → channel.queue = itemsBytes (items.drop n) := by
    intro reads
    rw [itemsBytes, ← rest, reads.unread framed.flow]
  by_cases reads : Reads channel.sent channel.taken n
  · refine ⟨items.drop n, rest n, .inl (whole reads), fun waiting => ?_⟩
    exact ⟨(inHand.resting (.inr waiting)).1, whole reads⟩
  · obtain ⟨empty, body, inside⟩ := inHand.placed.resolve_left reads
    refine ⟨.frame body :: items.drop (n + 1), ?_, .inr ⟨empty, body, _, rfl, ?_⟩,
      fun waiting => ?_⟩
    · rw [List.map_cons, ← rest, List.drop_eq_getElem_cons inside.lt,
        (List.getElem?_eq_some_iff.mp inside.item).2]
    · rw [inside.unread framed.flow, itemsBytes, ← rest]
    · exact absurd (inHand.resting (.inr waiting)).2 reads

/-- Where the updates of one kind are that a ring took from the dispatchers: with the client, or
lost from its queue behind as many newer ones as the queue holds; in the queue; in the reader's
hands; in the ring. -/
structure Whereabouts (codecs : Codecs) (state : SenderState) (address : Nat) (kind : Kind)
    (held : Option Update) (unread : List Item) (gone : List (Update × Bool)) : Prop where
  all : takenBy address (state.dispatched kind) =
    gone.map Prod.fst ++ (state.channels address).queues kind ++ ofKind kind held.toList ++
      ofKind kind (decodedBodies (decodeUpdate codecs) (unread.map Item.bytes))
  received : ofKind kind (state.channels address).received = (gone.filter Prod.snd).map Prod.fst
  bounded : ((state.channels address).queues kind).length ≤ consumerUpdateQueueCapacity
  lost : ∀ n update, gone[n]? = some (update, false) →
    n + consumerUpdateQueueCapacity < gone.length + ((state.channels address).queues kind).length

/-- In every reachable state, whatever the tasks are doing, every update that a ring took is
accounted for, in the order of the dispatches: the client has it or, where at least 2048 newer ones
of its kind were queued, may have lost it; or it is in the client's queue; or it is the one update
in the reader's hands; or it is in the ring, of which the bytes are exactly the unread frames. A
parked reader has nothing in its hands. -/
theorem updates_accounted_for (lossless : sender.codecs.lz4.RoundTrips)
    (run : (senderSystem sender).Reachable (senderStart files) config) (address : Nat) :
    ∃ held unread, Remains (config.shared.channels address).queue held unread ∧
      (∀ kind, ∃ gone, Whereabouts sender.codecs config.shared address kind held unread gone) ∧
      (awaiting (config.pool (.reader address)) = some address →
        held = none ∧ (config.shared.channels address).queue = itemsBytes unread) := by
  obtain ⟨n, held, inHand⟩ := inHand_always run address
  obtain ⟨unread, behind, remains, waits⟩ :=
    inHand.remains ((sender_inv run).wired.ring address).1
  refine ⟨held, unread, remains, fun kind => ?_, fun parked =>
    waits (reader_waits run parked).waiting⟩
  obtain ⟨gone, account⟩ := keepsNewest_always run address kind
  have carried := (outbox_faithful lossless run).carried address kind
  have split : decodedBodies (decodeUpdate sender.codecs) (config.shared.channels address).sent =
      (config.shared.channels address).enqueued ++ held.toList ++
        decodedBodies (decodeUpdate sender.codecs) (unread.map Item.bytes) := by
    rw [← inHand.counted, ← behind, decodedBodies, decodedBodies, decodedBodies, bodies, bodies,
      bodies, ← List.filterMap_append, ← List.filterMap_append, List.take_append_drop]
  refine ⟨gone, ?_, account.read, account.bounded, fun m update found => ?_⟩
  · refine carried.symm.trans ?_
    show ofKind kind (decodedBodies _ (config.shared.channels address).sent) = _
    rw [split, ← account.order]
    simp [ofKind]
  · have newer := account.lost m update found
    rwa [account.order, List.length_append, List.length_map] at newer

end

-- Four updates were taken: the client has one, one is in its queue, one in the reader's hands and
-- one in the ring.
theorem updates_accounted_for_midway :
    ∃ config, (senderSystem sampleSender).Reachable (senderStart []) config ∧
      takenBy 0 (config.shared.dispatched .account) = List.replicate 4
        (.account sampleAccountUpdate) ∧
      (config.shared.channels 0).received = [.account sampleAccountUpdate] ∧
      (config.shared.channels 0).queues .account = [.account sampleAccountUpdate] ∧
      ∃ held unread, Remains (config.shared.channels 0).queue held unread ∧
        (∀ kind, ∃ gone, Whereabouts sampleSender.codecs config.shared 0 kind held unread gone) ∧
        (awaiting (config.pool (.reader 0)) = some 0 →
          held = none ∧ (config.shared.channels 0).queue = itemsBytes unread) := by
  let dispatch : List SenderCommand :=
    .start (.dispatcher .account) (.dispatch (.account sampleAccountUpdate)) ::
      takes (.dispatcher .account) 19
  have ran : ((senderSystem sampleSender).schedule (senderStart [])
      ([.start (.handler 0) (.subscribe sampleRequest)] ++ takes (.handler 0) 15 ++ dispatch ++
        [.start (.reader 0) (.consume 0)] ++ takes (.reader 0) 7 ++
        [.start (.client 0) (.tryNext 0 .account)] ++ takes (.client 0) 1 ++ dispatch ++
        takes (.reader 0) 4 ++ dispatch ++ takes (.reader 0) 3 ++ dispatch)).any (fun config =>
          takenBy 0 (config.shared.dispatched .account) =
            List.replicate 4 (.account sampleAccountUpdate) ∧
          (config.shared.channels 0).received = [.account sampleAccountUpdate] ∧
          (config.shared.channels 0).queues .account = [.account sampleAccountUpdate]) = true := by
    decide +kernel
  obtain ⟨config, run, checked⟩ := schedule_finds ran
  obtain ⟨taken, received, queued⟩ := of_decide_eq_true checked
  exact ⟨config, run, taken, received, queued, updates_accounted_for literalLz4_roundTrips run 0⟩

end Qlaster
