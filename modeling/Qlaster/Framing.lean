import Mathlib.Data.List.Infix
import Qlaster.RelyGuarantee
import Qlaster.ChannelCore

/-!
The ring as a queue of whole items. Writers append items only, and the one reader
takes an item's length and then its body, so what is left unread is always the
rest of the item in hand followed by whole items.
-/

namespace Qlaster

open LittleEndian Interleaving Interleaving.Discipline

inductive Item
  | frame (body : Bytes)
  | sentinel
  deriving DecidableEq

def Item.bytes : Item → Bytes
  | .frame body => u32ToLeBytes (UInt32.ofNat body.length) ++ body
  | .sentinel => sentinelBytes

def Item.Valid : Item → Prop
  | .frame body => body.length < 2 ^ 32 - 1
  | .sentinel => True

def bodyOf (bytes : Bytes) : Option Bytes :=
  if bytes = sentinelBytes then none else some (bytes.drop 4)

theorem Item.frame_bytes_length (body : Bytes) :
    (Item.frame body).bytes.length = 4 + body.length := by
  simp [Item.bytes]

theorem Item.frame_ne_sentinel (body : Bytes) : (Item.frame body).bytes ≠ sentinelBytes := by
  intro same
  have lengths := congrArg List.length same
  rw [Item.frame_bytes_length, sentinelBytes, u32ToLeBytes_length] at lengths
  obtain rfl : body = [] := List.length_eq_zero_iff.mp (by omega)
  exact absurd same (by decide)

@[simp] theorem bodyOf_frame (body : Bytes) : bodyOf (Item.frame body).bytes = some body := by
  rw [bodyOf, if_neg (Item.frame_ne_sentinel body), Item.bytes, List.drop_left' (by simp)]

@[simp] theorem bodyOf_sentinel : bodyOf sentinelBytes = none := if_pos rfl

/-- The reader stands in front of item `n` of what was sent. -/
structure Reads (sent : List Bytes) (taken : Bytes) (n : Nat) : Prop where
  within : n ≤ sent.length
  taken : taken = (sent.take n).flatten

/-- The reader has taken the length of item `n` and not yet its body. -/
structure Inside (sent : List Bytes) (taken : Bytes) (n : Nat) (body : Bytes) : Prop where
  item : sent[n]? = some (Item.frame body).bytes
  taken : taken = (sent.take n).flatten ++ u32ToLeBytes (UInt32.ofNat body.length)
  nonempty : body ≠ []

def OpenUntil (sent : List Bytes) (n : Nat) : Prop := ∀ m < n, sent[m]? ≠ some sentinelBytes

def bodies (sent : List Bytes) : List Bytes := sent.filterMap bodyOf

def decodedBodies (decode : Bytes → Option Update) (sent : List Bytes) : List Update :=
  (bodies sent).filterMap decode

def ofKind (kind : Kind) (updates : List Update) : List Update :=
  updates.filter fun update => update.kind = kind

theorem take_grown {α : Type} {before after : List α} (grown : before <+: after) {n : Nat}
    (within : n ≤ before.length) : after.take n = before.take n := by
  obtain ⟨added, rfl⟩ := grown
  exact List.take_append_of_le_length within

theorem getElem?_grown {α : Type} {before after : List α} (grown : before <+: after) {n : Nat}
    (within : n < before.length) : after[n]? = before[n]? := by
  obtain ⟨added, rfl⟩ := grown
  exact List.getElem?_append_left within

theorem Reads.grow {before after : List Bytes} {taken : Bytes} {n : Nat}
    (reads : Reads before taken n) (grown : before <+: after) : Reads after taken n := by
  refine ⟨reads.within.trans grown.length_le, ?_⟩
  rw [reads.taken, take_grown grown reads.within]

theorem Inside.lt {sent : List Bytes} {taken : Bytes} {n : Nat} {body : Bytes}
    (inside : Inside sent taken n body) : n < sent.length :=
  (List.getElem?_eq_some_iff.mp inside.item).1

theorem Inside.grow {before after : List Bytes} {taken : Bytes} {n : Nat} {body : Bytes}
    (inside : Inside before taken n body) (grown : before <+: after) :
    Inside after taken n body := by
  refine ⟨?_, ?_, inside.nonempty⟩
  · rw [getElem?_grown grown inside.lt, inside.item]
  · rw [inside.taken, take_grown grown inside.lt.le]

theorem OpenUntil.grow {before after : List Bytes} {n : Nat} (openUntil : OpenUntil before n)
    (grown : before <+: after) (within : n ≤ before.length) : OpenUntil after n := by
  intro m bound
  rw [getElem?_grown grown (by omega)]
  exact openUntil m bound

theorem OpenUntil.succ {sent : List Bytes} {n : Nat} (openUntil : OpenUntil sent n)
    (frame : sent[n]? ≠ some sentinelBytes) : OpenUntil sent (n + 1) := by
  intro m bound
  rcases Nat.lt_succ_iff_lt_or_eq.mp bound with earlier | rfl
  · exact openUntil m earlier
  · exact frame

theorem Reads.unread {sent : List Bytes} {taken queue : Bytes} {n : Nat}
    (reads : Reads sent taken n) (flow : sent.flatten = taken ++ queue) :
    queue = (sent.drop n).flatten := by
  have split : sent.flatten = (sent.take n).flatten ++ (sent.drop n).flatten := by
    rw [← List.flatten_append, List.take_append_drop]
  rw [flow, reads.taken] at split
  exact List.append_cancel_left split

theorem Inside.unread {sent : List Bytes} {taken queue : Bytes} {n : Nat} {body : Bytes}
    (inside : Inside sent taken n body) (flow : sent.flatten = taken ++ queue) :
    queue = body ++ (sent.drop (n + 1)).flatten := by
  have split : sent.flatten = (sent.take n).flatten ++ (sent.drop n).flatten := by
    rw [← List.flatten_append, List.take_append_drop]
  have item := (List.getElem?_eq_some_iff.mp inside.item).2
  rw [List.drop_eq_getElem_cons inside.lt, item, List.flatten_cons, Item.bytes, flow, inside.taken]
    at split
  simp only [List.append_assoc, List.append_cancel_left_eq] at split
  exact split

theorem Inside.batch {sent : List Bytes} {taken queue : Bytes} {n : Nat} {body : Bytes}
    (inside : Inside sent taken n body) (flow : sent.flatten = taken ++ queue) :
    queue.take body.length = body := by
  rw [inside.unread flow, List.take_left]

theorem Inside.unread_ne_nil {sent : List Bytes} {taken queue : Bytes} {n : Nat} {body : Bytes}
    (inside : Inside sent taken n body) (flow : sent.flatten = taken ++ queue) : queue ≠ [] := by
  rw [inside.unread flow]
  simp [inside.nonempty]

theorem Reads.next {sent : List Bytes} {taken item : Bytes} {n : Nat} (reads : Reads sent taken n)
    (found : sent[n]? = some item) : Reads sent (taken ++ item) (n + 1) := by
  obtain ⟨bound, rfl⟩ := List.getElem?_eq_some_iff.mp found
  refine ⟨bound, ?_⟩
  rw [List.take_succ_eq_append_getElem bound, List.flatten_append, reads.taken]
  simp

theorem Inside.next {sent : List Bytes} {taken : Bytes} {n : Nat} {body : Bytes}
    (inside : Inside sent taken n body) : Reads sent (taken ++ body) (n + 1) := by
  have reads : Reads sent (sent.take n).flatten n := ⟨inside.lt.le, rfl⟩
  have next := reads.next inside.item
  rw [Item.bytes, ← List.append_assoc, ← inside.taken] at next
  exact next

section
variable {Task : Type}

def Channel.sent (channel : Channel Task) : List Bytes := channel.writes.map Prod.snd

/-- What holds of a ring in every state, whatever its tasks are doing. -/
structure Framed (allowed : Task → Item → Prop) (decode : Bytes → Option Update)
    (channel : Channel Task) : Prop where
  items : ∀ write ∈ channel.writes, ∃ item, write.2 = item.bytes ∧ allowed write.1 item
  flow : channel.sent.flatten = channel.taken ++ channel.queue
  placed : (∃ n, Reads channel.sent channel.taken n) ∨
    ∃ n body, Inside channel.sent channel.taken n body
  popped : channel.popped <+: bodies channel.sent
  enqueued : channel.enqueued <+: decodedBodies decode channel.sent
  received : ∀ kind, (ofKind kind channel.received ++ channel.queues kind).Sublist
    (ofKind kind channel.enqueued)
  marked : ∀ n, channel.sent[n]? = some sentinelBytes →
    ∃ mark, channel.closeMark = some mark ∧ mark ≤ n
  mark_within : ∀ mark, channel.closeMark = some mark → mark ≤ channel.sent.length
  waits : channel.phase = .waiting →
    ∃ n, Reads channel.sent channel.taken n ∧ OpenUntil channel.sent n

variable {allowed : Task → Item → Prop} {decode : Bytes → Option Update}

theorem Framed.created (capacity : Nat) :
    Framed allowed decode (Channel.created Task capacity) := by
  constructor <;> simp [Channel.created, Channel.sent, bodies, decodedBodies, ofKind]
  exact .inl ⟨0, by simp, by simp⟩

def Channel.stream (channel : Channel Task) :=
  (channel.writes, channel.queue, channel.taken, channel.popped, channel.enqueued,
    channel.received, channel.queues, channel.closeMark)

theorem Framed.unaffected {before after : Channel Task} (framed : Framed allowed decode before)
    (same : after.stream = before.stream)
    (phase : after.phase = .waiting → before.phase = .waiting) : Framed allowed decode after := by
  simp only [Channel.stream, Prod.mk.injEq] at same
  obtain ⟨writes, queue, taken, popped, enqueued, received, queues, mark⟩ := same
  have sent : after.sent = before.sent := by rw [Channel.sent, Channel.sent, writes]
  constructor
  · rw [writes]
    exact framed.items
  · rw [sent, taken, queue]
    exact framed.flow
  · rw [sent, taken]
    exact framed.placed
  · rw [sent, popped]
    exact framed.popped
  · rw [sent, enqueued]
    exact framed.enqueued
  · rw [received, queues, enqueued]
    exact framed.received
  · rw [sent, mark]
    exact framed.marked
  · rw [sent, mark]
    exact framed.mark_within
  · intro waiting
    rw [sent, taken]
    exact framed.waits (phase waiting)

theorem Framed.front {channel : Channel Task} (framed : Framed allowed decode channel)
    (valid : ∀ task item, allowed task item → item.Valid) {n : Nat}
    (reads : Reads channel.sent channel.taken n) :
    (channel.queue = [] ∧ n = channel.sent.length) ∨
    (∃ rest, channel.queue = sentinelBytes ++ rest ∧ channel.sent[n]? = some sentinelBytes) ∨
    ∃ body rest, channel.queue = u32ToLeBytes (UInt32.ofNat body.length) ++ (body ++ rest) ∧
      channel.sent[n]? = some (Item.frame body).bytes ∧ body.length < 2 ^ 32 - 1 := by
  have unread := reads.unread framed.flow
  rcases Nat.lt_or_ge n channel.sent.length with bound | beyond
  · right
    have front : channel.sent[n]? = some channel.sent[n] := List.getElem?_eq_getElem bound
    have member : channel.sent[n] ∈ channel.sent := List.getElem_mem bound
    obtain ⟨write, written, same⟩ := List.mem_map.mp member
    obtain ⟨item, bytes, permitted⟩ := framed.items write written
    rw [List.drop_eq_getElem_cons bound, List.flatten_cons, ← same, bytes] at unread
    rw [← same, bytes] at front
    cases item with
    | sentinel => exact .inl ⟨_, unread, front⟩
    | frame body =>
        rw [Item.bytes, List.append_assoc] at unread
        exact .inr ⟨body, _, unread, front, valid _ _ permitted⟩
  · have last : n = channel.sent.length := Nat.le_antisymm reads.within beyond
    rw [last, List.drop_length, List.flatten_nil] at unread
    exact .inl ⟨unread, last⟩

theorem Framed.header {channel : Channel Task} (framed : Framed allowed decode channel)
    (valid : ∀ task item, allowed task item → item.Valid) {n : Nat}
    (reads : Reads channel.sent channel.taken n) (nonempty : channel.queue ≠ []) :
    (channel.queue.take 4 = sentinelBytes ∧ channel.sent[n]? = some sentinelBytes ∧
      Reads channel.sent (channel.taken ++ channel.queue.take 4) (n + 1)) ∨
    ∃ body, channel.queue.take 4 = u32ToLeBytes (UInt32.ofNat body.length) ∧
      body.length < 2 ^ 32 - 1 ∧ channel.sent[n]? = some (Item.frame body).bytes ∧
      (body = [] ∧ Reads channel.sent (channel.taken ++ channel.queue.take 4) (n + 1) ∨
        Inside channel.sent (channel.taken ++ channel.queue.take 4) n body) := by
  rcases framed.front valid reads with ⟨empty, _⟩ | ⟨rest, queue, front⟩ |
    ⟨body, rest, queue, front, bound⟩
  · contradiction
  · have batch : channel.queue.take 4 = sentinelBytes := by
      rw [queue]
      exact List.take_left' (by simp [sentinelBytes])
    rw [batch]
    exact .inl ⟨rfl, front, reads.next front⟩
  · have batch : channel.queue.take 4 = u32ToLeBytes (UInt32.ofNat body.length) := by
      rw [queue]
      exact List.take_left' (by simp)
    rw [batch]
    refine .inr ⟨body, rfl, bound, front, ?_⟩
    by_cases blank : body = []
    · subst blank
      have next := reads.next front
      rw [Item.bytes, List.append_nil] at next
      exact .inl ⟨rfl, next⟩
    · exact .inr ⟨front, by rw [reads.taken], blank⟩

/-! One step at a time. -/

theorem Framed.markClose {channel : Channel Task} (framed : Framed allowed decode channel)
    (bytes : Bytes) : Framed allowed decode (channel.markClose bytes) := by
  unfold Channel.markClose
  split
  · refine ⟨framed.items, framed.flow, framed.placed, framed.popped, framed.enqueued,
      framed.received, ?_, ?_, framed.waits⟩
    · intro n found
      obtain ⟨mark, marked, bound⟩ := framed.marked n found
      exact ⟨mark, by simp [marked], bound⟩
    · intro mark marked
      cases previous : channel.closeMark with
      | none =>
          have fresh : channel.writes.length = mark := by simpa [previous] using marked
          simp [Channel.sent, fresh]
      | some earlier =>
          have same : earlier = mark := by simpa [previous] using marked
          exact framed.mark_within mark (by rw [previous, same])
  · exact framed

theorem bodies_grow {before after : List Bytes} (grown : before <+: after) :
    bodies before <+: bodies after :=
  grown.filterMap bodyOf

theorem decodedBodies_grow (decode : Bytes → Option Update) {before after : List Bytes}
    (grown : before <+: after) : decodedBodies decode before <+: decodedBodies decode after :=
  (bodies_grow grown).filterMap decode

theorem Framed.append {channel : Channel Task} (framed : Framed allowed decode channel)
    {task : Task} {item : Item} (permitted : allowed task item) :
    Framed allowed decode ((channel.markClose item.bytes).append task item.bytes) := by
  have marking := framed.markClose item.bytes
  generalize marked : channel.markClose item.bytes = before at *
  have sent : (before.append task item.bytes).sent = before.sent ++ [item.bytes] := by
    simp [Channel.append, Channel.sent]
  have grown : before.sent <+: (before.append task item.bytes).sent := by
    rw [sent]
    exact List.prefix_append _ _
  constructor
  · intro write member
    rcases List.mem_append.mp member with old | new
    · exact marking.items write old
    · obtain rfl := List.mem_singleton.mp new
      exact ⟨item, rfl, permitted⟩
  · rw [sent]
    simp only [List.flatten_append, marking.flow, Channel.append]
    simp
  · rcases marking.placed with ⟨n, reads⟩ | ⟨n, body, inside⟩
    · exact .inl ⟨n, reads.grow grown⟩
    · exact .inr ⟨n, body, inside.grow grown⟩
  · exact marking.popped.trans (bodies_grow grown)
  · exact marking.enqueued.trans (decodedBodies_grow decode grown)
  · exact marking.received
  · intro n found
    rw [sent] at found
    rcases Nat.lt_or_ge n before.sent.length with old | new
    · rw [List.getElem?_append_left old] at found
      exact marking.marked n found
    · -- The new write is the sentinel, and attempting it has set the mark.
      rw [List.getElem?_append_right new] at found
      have only : n - before.sent.length = 0 := by
        by_contra past
        rw [List.getElem?_eq_none (by simp; omega)] at found
        simp at found
      have sentinel : item.bytes = sentinelBytes := by simpa [only] using found
      have set : ∃ mark, before.closeMark = some mark := by
        rw [← marked, Channel.markClose, if_pos sentinel]
        exact ⟨_, rfl⟩
      obtain ⟨mark, set⟩ := set
      exact ⟨mark, set, (marking.mark_within mark set).trans new⟩
  · intro mark set
    exact (marking.mark_within mark set).trans grown.length_le
  · intro waiting
    obtain ⟨n, reads, openUntil⟩ := marking.waits waiting
    exact ⟨n, reads.grow grown, openUntil.grow grown reads.within⟩

theorem Framed.forcePush {channel : Channel Task} (framed : Framed allowed decode channel)
    {update : Update}
    (next : channel.enqueued ++ [update] <+: decodedBodies decode channel.sent) :
    Framed allowed decode { channel with
      queues := Function.update channel.queues update.kind
        (forcePushOnto consumerUpdateQueueCapacity (channel.queues update.kind) update)
      enqueued := channel.enqueued ++ [update] } := by
  refine ⟨framed.items, framed.flow, framed.placed, framed.popped, next, ?_, framed.marked,
    framed.mark_within, framed.waits⟩
  intro kind
  by_cases same : kind = update.kind
  · subst same
    have kept := DropOldest.push_sublist consumerUpdateQueueCapacity update
      (framed.received update.kind)
    simpa [ofKind, forcePushOnto] using kept
  · have kept := framed.received kind
    simpa [ofKind, same, Ne.symm same] using kept

theorem Framed.pop {channel : Channel Task} (framed : Framed allowed decode channel) {kind : Kind}
    {update : Update} {rest : List Update} (front : channel.queues kind = update :: rest) :
    Framed allowed decode { channel with
      queues := Function.update channel.queues kind rest
      received := channel.received ++ [update] } := by
  have ofFront : update.kind = kind := by
    have kept := framed.received kind
    rw [front] at kept
    have member : update ∈ ofKind kind channel.enqueued := kept.subset (by simp)
    simpa [ofKind] using (List.mem_filter.mp member).2
  refine ⟨framed.items, framed.flow, framed.placed, framed.popped, framed.enqueued, ?_,
    framed.marked, framed.mark_within, framed.waits⟩
  intro other
  have kept := framed.received other
  by_cases same : other = kind
  · subst same
    rw [front] at kept
    simpa [ofKind, ofFront] using kept
  · have different : update.kind ≠ other := by
      rw [ofFront]
      exact Ne.symm same
    simpa [ofKind, same, different] using kept

theorem Framed.reserve {channel : Channel Task} (framed : Framed allowed decode channel) {len : Nat}
    (placed : (∃ n, Reads channel.sent (channel.taken ++ channel.queue.take len) n) ∨
      ∃ n body, Inside channel.sent (channel.taken ++ channel.queue.take len) n body) :
    Framed allowed decode { channel with
      queue := channel.queue.drop len
      taken := channel.taken ++ channel.queue.take len
      phase := .busy } := by
  refine ⟨framed.items, ?_, placed, framed.popped, framed.enqueued, framed.received,
    framed.marked, framed.mark_within, by simp⟩
  show channel.sent.flatten = (channel.taken ++ channel.queue.take len) ++ channel.queue.drop len
  rw [framed.flow, List.append_assoc, List.take_append_drop]

/-- Whose progress the reader keeps: the frames a caller of `try_pop` got, or the
updates `run_reader` queued. -/
inductive Tally
  | popping
  | reading

def Tally.Counts (tally : Tally) (decode : Bytes → Option Update) (seen : List Bytes)
    (channel : Channel Task) : Prop :=
  match tally with
  | .popping => channel.popped = bodies seen
  | .reading => channel.enqueued = decodedBodies decode seen

/-- The reader's caller has seen everything before item `n`. -/
structure Accounted (tally : Tally) (decode : Bytes → Option Update) (n : Nat)
    (channel : Channel Task) : Prop where
  within : n ≤ channel.sent.length
  counts : tally.Counts decode (channel.sent.take n) channel
  closed : channel.closed = true → ∃ m < n, channel.sent[m]? = some sentinelBytes
  opened : channel.closed = false → OpenUntil channel.sent n

structure AtItem (tally : Tally) (decode : Bytes → Option Update) (n : Nat)
    (channel : Channel Task) : Prop where
  accounted : Accounted tally decode n channel
  reads : Reads channel.sent channel.taken n

structure ReaderFrame (before after : Channel Task) : Prop where
  sent : before.sent <+: after.sent
  taken : after.taken = before.taken
  closed : after.closed = before.closed
  phase : after.phase = before.phase
  popped : after.popped = before.popped
  enqueued : after.enqueued = before.enqueued
  linked : before.linked = false → after.linked = false

theorem ReaderFrame.refl (channel : Channel Task) : ReaderFrame channel channel :=
  ⟨List.prefix_rfl, rfl, rfl, rfl, rfl, rfl, id⟩

theorem Accounted.frame {tally : Tally} {decode : Bytes → Option Update} {n : Nat}
    {before after : Channel Task} (accounted : Accounted tally decode n before)
    (frame : ReaderFrame before after) : Accounted tally decode n after := by
  have within := accounted.within
  constructor
  · exact within.trans frame.sent.length_le
  · have counts := accounted.counts
    rw [take_grown frame.sent within]
    cases tally with
    | popping => exact frame.popped.trans counts
    | reading => exact frame.enqueued.trans counts
  · intro closed
    rw [frame.closed] at closed
    obtain ⟨m, bound, sentinel⟩ := accounted.closed closed
    exact ⟨m, bound, by rw [getElem?_grown frame.sent (by omega), sentinel]⟩
  · intro opened
    rw [frame.closed] at opened
    exact (accounted.opened opened).grow frame.sent within

theorem AtItem.frame {tally : Tally} {decode : Bytes → Option Update} {n : Nat}
    {before after : Channel Task} (place : AtItem tally decode n before)
    (frame : ReaderFrame before after) : AtItem tally decode n after := by
  refine ⟨place.accounted.frame frame, ?_⟩
  rw [frame.taken]
  exact place.reads.grow frame.sent

end

/-! What the programs execute. -/

def Pops : {β : Type} → ChannelOp β → Prop
  | _, .reserveReadBatch _ => True
  | _, .storeClosed => True
  | _, .trace (.partialFrame _ _) => True
  | _, _ => False

theorem readExact_pops (len : Nat) : (readExact len).Only Pops := by
  refine (Program.Only.perform trivial).bind fun reserved => ?_
  cases reserved with
  | none => trivial
  | some batch =>
      simp only
      split
      · exact (Program.Only.perform trivial).bind fun _ => trivial
      · trivial

theorem tryPop_pops : tryPop.Only Pops := by
  refine (readExact_pops _).bind fun lenBytes => ?_
  cases lenBytes with
  | none => trivial
  | some lenBytes =>
      simp only
      split
      · unfold popBody
        simp only
        split
        · exact (Program.Only.perform trivial).bind fun _ => trivial
        · split
          · trivial
          · exact readExact_pops _
      · trivial

def Writes (permitted : Item → Prop) : {β : Type} → ChannelOp β → Prop
  | _, .tryWriteSlice bytes => ∃ item, bytes = item.bytes ∧ permitted item
  | _, .fetchAddDropped => True
  | _, .writeEventfd => True
  | _, .trace (.notifyFailed _) => True
  | _, .note (.pushReturned _ _) => True
  | _, .note .closeReturned => True
  | _, _ => False

theorem framed_eq (parts : List Bytes) :
    framed (UInt32.ofNat (parts.map List.length).sum) parts = (Item.frame parts.flatten).bytes := by
  rw [framed, Item.bytes, List.length_flatten]

theorem ringTryPush_writes (capacity : Nat) (parts : List Bytes) {permitted : Item → Prop}
    (permission : permitted (.frame parts.flatten)) :
    (ringTryPush capacity parts).Only (Writes permitted) := by
  unfold ringTryPush
  simp only
  split
  · trivial
  · split
    · trivial
    · refine (Program.Only.perform ⟨_, framed_eq parts, permission⟩).bind fun accepted => ?_
      cases accepted with
      | true => trivial
      | false => exact (Program.Only.perform trivial).bind fun _ => trivial

theorem ringClose_writes {permitted : Item → Prop} (permission : permitted .sentinel) :
    ringClose.Only (Writes permitted) :=
  (Program.Only.perform ⟨.sentinel, rfl, permission⟩).bind fun _ => trivial

section
variable {Task : Type} [DecidableEq Task]

def channelSystem {Call : Type} (program : Call → Program ChannelOp Unit)
    (mayStart : Task → Call → Bool) :
    System ChannelOp Task (Channel Task) ChannelChoice Call where
  exec choice task _ op channel := channel.exec choice task op
  program := program
  mayStart := mayStart

def Undecodable (decode : Bytes → Option Update) (channel : Channel Task) : Prop :=
  ∃ body ∈ bodies channel.sent, decode body = none

/-- What each operation requires of the task that executes it. -/
def framingGuard (reader : Task) (allowed : Task → Item → Prop) (decode : Bytes → Option Update)
    (tally : Tally) (task : Task) : {β : Type} → ChannelOp β → Channel Task → Prop
  | _, .tryWriteSlice bytes, _ => ∃ item, bytes = item.bytes ∧ allowed task item
  | _, .reserveReadBatch len, channel => task = reader ∧
      ((len = 4 ∧ ∃ n, AtItem tally decode n channel) ∨
        ∃ n body, len = body.length ∧ Accounted tally decode n channel ∧
          Inside channel.sent channel.taken n body)
  | _, .storeClosed, _ => task = reader
  | _, .pathExists, channel => task = reader ∧ channel.phase = .checking ∧
      ∃ n, Reads channel.sent channel.taken n ∧ OpenUntil channel.sent n
  | _, .readEventfd, _ => task = reader
  | _, .registerEventfd, _ => task = reader
  | _, .readable, channel => task = reader ∧ channel.phase = .waiting
  | _, .clearReady _, _ => task = reader
  | _, .forcePush update, channel => task = reader ∧ ∃ n,
      channel.enqueued ++ [update] = decodedBodies decode (channel.sent.take n) ∧
        Reads channel.sent channel.taken n
  | _, .trace (.partialFrame _ _), _ => False
  | _, .trace (.nonUpdateFrame _), channel => Undecodable decode channel
  | _, .trace (.decodeFailed _), channel => Undecodable decode channel
  | _, .panicked, channel => Undecodable decode channel
  | _, .note (.popReturned (some body)), channel => task = reader ∧
      channel.popped ++ [body] <+: bodies channel.sent
  | _, .note (.popReturned none), channel => task = reader ∧
      (channel.phase = .checking ∨ channel.closed = true ∧
        ∃ n, Reads channel.sent channel.taken (n + 1) ∧ channel.sent[n]? = some sentinelBytes)
  | _, .note (.readerReturned closed), channel => task = reader ∧
      (closed = true → ∃ n, AtItem .reading decode n channel ∧
        (channel.closed = true ∨ channel.linked = false ∧ channel.phase = .checking))
  | _, _, _ => True

omit [DecidableEq Task] in
theorem Writes.guard {reader : Task} {allowed : Task → Item → Prop}
    {decode : Bytes → Option Update} {tally : Tally} {permitted : Item → Prop} {task : Task}
    (permits : ∀ item, permitted item → allowed task item) {β : Type} {op : ChannelOp β}
    (writes : Writes permitted op) (channel : Channel Task) :
    framingGuard reader allowed decode tally task op channel := by
  cases op with
  | tryWriteSlice bytes =>
      obtain ⟨item, same, permission⟩ := writes
      exact ⟨item, same, permits item permission⟩
  | trace event =>
      cases event with
      | notifyFailed kind => trivial
      | _ => exact writes.elim
  | note note =>
      cases note with
      | pushReturned parts result => trivial
      | closeReturned => trivial
      | _ => exact writes.elim
  | fetchAddDropped => trivial
  | writeEventfd => trivial
  | _ => exact writes.elim

theorem Framed.exec {reader : Task} {allowed : Task → Item → Prop}
    {decode : Bytes → Option Update} {tally : Tally}
    (valid : ∀ task item, allowed task item → item.Valid)
    {choice : ChannelChoice} {task : Task} {β : Type} {op : ChannelOp β}
    {before after : Channel Task} {reply : β} (framed : Framed allowed decode before)
    (guarded : framingGuard reader allowed decode tally task op before)
    (executed : before.exec choice task op = some (reply, after)) :
    Framed allowed decode after := by
  cases op with
  | tryWriteSlice bytes =>
      obtain ⟨item, rfl, permitted⟩ := guarded
      simp only [Channel.exec] at executed
      split at executed <;> simp only [Option.some.injEq, Prod.mk.injEq] at executed <;>
        obtain ⟨-, rfl⟩ := executed
      · exact framed.append permitted
      · exact framed.markClose _
  | reserveReadBatch len =>
      simp only [Channel.exec] at executed
      split at executed <;> simp only [Option.some.injEq, Prod.mk.injEq] at executed <;>
        obtain ⟨-, rfl⟩ := executed
      · exact framed.unaffected rfl (by simp)
      · rename_i nonempty
        refine framed.reserve ?_
        rcases guarded.2 with ⟨rfl, n, place⟩ | ⟨n, body, rfl, -, inside⟩
        · rcases framed.header valid place.reads nonempty with
            ⟨-, -, next⟩ | ⟨body, -, -, -, ⟨-, next⟩ | inside⟩
          · exact .inl ⟨n + 1, next⟩
          · exact .inl ⟨n + 1, next⟩
          · exact .inr ⟨n, body, inside⟩
        · rw [inside.batch framed.flow]
          exact .inl ⟨n + 1, inside.next⟩
  | pathExists =>
      obtain ⟨-, checking, n, reads, openUntil⟩ := guarded
      simp only [Channel.exec] at executed
      split at executed
      · simp only [Option.some.injEq, Prod.mk.injEq] at executed
        obtain ⟨-, rfl⟩ := executed
        exact ⟨framed.items, framed.flow, framed.placed, framed.popped, framed.enqueued,
          framed.received, framed.marked, framed.mark_within, fun _ => ⟨n, reads, openUntil⟩⟩
      · split at executed
        · simp at executed
        · simp only [Option.some.injEq, Prod.mk.injEq] at executed
          obtain ⟨-, rfl⟩ := executed
          exact framed
  | forcePush update =>
      simp only [Channel.exec, Option.some.injEq, Prod.mk.injEq] at executed
      obtain ⟨-, rfl⟩ := executed
      obtain ⟨-, n, counted, -⟩ := guarded
      refine framed.forcePush ?_
      rw [counted]
      exact decodedBodies_grow _ (List.take_prefix _ _)
  | pop kind =>
      simp only [Channel.exec] at executed
      split at executed <;> simp only [Option.some.injEq, Prod.mk.injEq] at executed <;>
        obtain ⟨-, rfl⟩ := executed
      · exact framed
      · rename_i front
        exact framed.pop front
  | note note =>
      simp only [Channel.exec, Option.some.injEq, Prod.mk.injEq] at executed
      obtain ⟨-, rfl⟩ := executed
      cases note with
      | popReturned result =>
          cases result with
          | none => exact framed
          | some body =>
              exact ⟨framed.items, framed.flow, framed.placed, guarded.2, framed.enqueued,
                framed.received, framed.marked, framed.mark_within, framed.waits⟩
      | pushReturned parts result =>
          simp only [Channel.record]
          split
          all_goals exact framed.unaffected rfl id
      | closeReturned => exact framed.unaffected rfl id
      | readerReturned closed => exact framed.unaffected rfl (by simp [Channel.record])
  | _ =>
      simp only [Channel.exec] at executed
      repeat' split at executed
      all_goals simp only [reduceCtorEq, Option.some.injEq, Prod.mk.injEq] at executed
      all_goals obtain ⟨-, rfl⟩ := executed
      all_goals first | exact framed | exact framed.unaffected rfl (by simp)

theorem ReaderFrame.exec {reader : Task} {allowed : Task → Item → Prop}
    {decode : Bytes → Option Update} {tally : Tally} {choice : ChannelChoice} {task : Task}
    {β : Type} {op : ChannelOp β} {before after : Channel Task} {reply : β}
    (different : task ≠ reader) (guarded : framingGuard reader allowed decode tally task op before)
    (executed : before.exec choice task op = some (reply, after)) : ReaderFrame before after := by
  cases op with
  | tryWriteSlice bytes =>
      simp only [Channel.exec] at executed
      split at executed <;> simp only [Option.some.injEq, Prod.mk.injEq] at executed <;>
        obtain ⟨-, rfl⟩ := executed
      · unfold Channel.markClose
        split
        all_goals
          refine ⟨?_, rfl, rfl, rfl, rfl, rfl, id⟩
          simp only [Channel.append, Channel.sent, List.map_append]
          exact List.prefix_append _ _
      · unfold Channel.markClose
        split
        · exact ⟨List.prefix_rfl, rfl, rfl, rfl, rfl, rfl, id⟩
        · exact .refl _
  | note note =>
      simp only [Channel.exec, Option.some.injEq, Prod.mk.injEq] at executed
      obtain ⟨-, rfl⟩ := executed
      cases note with
      | popReturned result =>
          cases result with
          | none => exact absurd guarded.1 different
          | some body => exact absurd guarded.1 different
      | pushReturned parts result =>
          simp only [Channel.record]
          split
          all_goals exact ⟨List.prefix_rfl, rfl, rfl, rfl, rfl, rfl, id⟩
      | closeReturned => exact ⟨List.prefix_rfl, rfl, rfl, rfl, rfl, rfl, id⟩
      | readerReturned closed => exact absurd guarded.1 different
  | reserveReadBatch len => exact absurd guarded.1 different
  | pathExists => exact absurd guarded.1 different
  | readable => exact absurd guarded.1 different
  | forcePush update => exact absurd guarded.1 different
  | storeClosed => exact absurd guarded different
  | readEventfd => exact absurd guarded different
  | registerEventfd => exact absurd guarded different
  | clearReady tick => exact absurd guarded different
  | _ =>
      simp only [Channel.exec] at executed
      repeat' split at executed
      all_goals simp only [reduceCtorEq, Option.some.injEq, Prod.mk.injEq] at executed
      all_goals obtain ⟨-, rfl⟩ := executed
      all_goals first | exact .refl _ | exact ⟨List.prefix_rfl, rfl, rfl, rfl, rfl, rfl, by simp⟩

section
variable {Call : Type} (program : Call → Program ChannelOp Unit) (mayStart : Task → Call → Bool)
  (reader : Task) (allowed : Task → Item → Prop) (decode : Bytes → Option Update)
  (tally : Tally) (valid : ∀ task item, allowed task item → item.Valid)

def framing : Discipline (channelSystem program mayStart) where
  inv := Framed allowed decode
  guard task _ op channel := framingGuard reader allowed decode tally task op channel
  rest task channel := task = reader → ∃ n, AtItem tally decode n channel
  preserved := fun framed guarded executed => framed.exec valid guarded executed
  rest_stable := by
    intro _ task other _ _ _ _ _ different _ guarded executed rest isReader
    subst isReader
    obtain ⟨n, place⟩ := rest rfl
    exact ⟨n, place.frame (ReaderFrame.exec different guarded executed)⟩

variable {program mayStart reader allowed decode tally valid}

theorem framing_frame {before after : Channel Task}
    (step : (framing program mayStart reader allowed decode tally valid).Interferes reader before
      after) : ReaderFrame before after := by
  obtain ⟨-, other, choice, β, op, reply, different, guarded, executed⟩ := step
  exact ReaderFrame.exec different guarded executed

theorem framing_stable {assertion : Channel Task → Prop}
    (kept : ∀ before after, ReaderFrame before after → assertion before → assertion after) :
    (framing program mayStart reader allowed decode tally valid).Stable reader assertion :=
  fun before after step => kept before after (framing_frame step)

theorem writer_triple {task : Task} (different : task ≠ reader) {permitted : Item → Prop}
    (permits : ∀ item, permitted item → allowed task item) {α : Type}
    {body : Program ChannelOp α} (only : body.Only (Writes permitted)) :
    (framing program mayStart reader allowed decode tally valid).Triple task
      (fun channel => task = reader → ∃ n, AtItem tally decode n channel) body
      fun _ channel => task = reader → ∃ n, AtItem tally decode n channel := by
  refine triple_only only stable_rest ?_ ?_
  · exact fun writes _ _ => writes.guard permits _
  · exact fun _ _ _ _ same => absurd same different

end

end

end Qlaster
