import Qlaster.Progress
import Qlaster.Reading

/-!
The reader of a ring while nobody else steps. Woken from its wait it takes one pass over the ring,
queues what it finds, and comes to rest: parked at the eventfd again, or returned.
-/

namespace Qlaster

open LittleEndian Interleaving Interleaving.System

/-! One pass over the ring. -/

def untilSentinel : List Item → List Bytes
  | [] => []
  | .sentinel :: _ => []
  | .frame body :: rest => body :: untilSentinel rest

def itemsBytes (items : List Item) : Bytes := (items.map Item.bytes).flatten

section
variable {Task : Type}

def queueInto (queues : Kind → List Update) (update : Update) : Kind → List Update :=
  Function.update queues update.kind
    (forcePushOnto consumerUpdateQueueCapacity (queues update.kind) update)

def Channel.queueUpdate (channel : Channel Task) (update : Update) : Channel Task :=
  { channel with queues := queueInto channel.queues update, enqueued := channel.enqueued ++ [update] }

def Channel.skipItem (channel : Channel Task) (item : Item) (rest : List Item) : Channel Task :=
  { channel with
    queue := itemsBytes rest
    taken := channel.taken ++ item.bytes
    phase := .busy }

def Channel.drained (decode : Bytes → Option Update) : List Item → Channel Task → Channel Task
  | [], channel => { channel with phase := .checking }
  | .sentinel :: rest, channel => { channel.skipItem .sentinel rest with closed := true }
  | .frame body :: rest, channel =>
      let read := channel.skipItem (.frame body) rest
      Channel.drained decode rest (((decode body).map read.queueUpdate).getD read)

/-- What a pass over the items has done: their updates are queued in order, and the wakeups left
alone. -/
structure Passed (decode : Bytes → Option Update) (items : List Item)
    (before after : Channel Task) : Prop where
  enqueued : after.enqueued = before.enqueued ++ (untilSentinel items).filterMap decode
  queues : after.queues = ((untilSentinel items).filterMap decode).foldl queueInto before.queues
  queue : .sentinel ∉ items → after.queue = []
  closed : .sentinel ∈ items → after.closed = true
  writes : after.writes = before.writes
  wakeups : after.ready = before.ready ∧ after.counter = before.counter
  linked : after.linked = before.linked

theorem drained_passed (decode : Bytes → Option Update) (items : List Item) (channel : Channel Task)
    (queue : channel.queue = itemsBytes items) :
    Passed decode items channel (channel.drained decode items) := by
  induction items generalizing channel with
  | nil => exact ⟨by simp [Channel.drained, untilSentinel], rfl, fun _ => queue, by simp, rfl, ⟨rfl, rfl⟩, rfl⟩
  | cons item rest ih =>
      cases item with
      | sentinel =>
          refine ⟨?_, rfl, fun open' => absurd (List.mem_cons_self ..) open', fun _ => rfl, rfl,
            ⟨rfl, rfl⟩, rfl⟩
          simp [Channel.drained, Channel.skipItem, untilSentinel]
      | frame body =>
          have inRest : Item.sentinel ∈ .frame body :: rest → .sentinel ∈ rest := by simp
          simp only [Channel.drained]
          cases decoded : decode body with
          | none =>
              have passed := ih (channel.skipItem (.frame body) rest) rfl
              refine ⟨?_, ?_, fun open' => passed.queue fun inside =>
                open' (List.mem_cons_of_mem _ inside),
                fun inside => passed.closed (inRest inside), passed.writes, passed.wakeups,
                  passed.linked⟩
              · rw [untilSentinel, List.filterMap_cons_none decoded]
                exact passed.enqueued
              · rw [untilSentinel, List.filterMap_cons_none decoded]
                exact passed.queues
          | some update =>
              have passed := ih ((channel.skipItem (.frame body) rest).queueUpdate update) rfl
              refine ⟨?_, ?_, fun open' => passed.queue fun inside =>
                open' (List.mem_cons_of_mem _ inside),
                fun inside => passed.closed (inRest inside), passed.writes, passed.wakeups,
                  passed.linked⟩
              · simpa [untilSentinel, decoded, Channel.queueUpdate,
                  Channel.skipItem] using passed.enqueued
              · simpa [untilSentinel, decoded, Channel.queueUpdate,
                  Channel.skipItem] using passed.queues

end

section
variable {Task : Type} [DecidableEq Task] {reader : Task} {choices : Nat → ChannelChoice}
  {tick : Nat} {channel : Channel Task}

abbrev loneRing (Task : Type) [DecidableEq Task] :
    System ChannelOp Task (Channel Task) ChannelChoice Empty :=
  channelSystem Empty.elim fun _ => Empty.elim

theorem readExact_alone {len : Nat} {batch rest : Bytes} (queue : channel.queue = batch ++ rest)
    (length : batch.length = len) (nonempty : channel.queue ≠ []) :
    (loneRing Task).Alone reader choices (readExact len) tick channel fun result _ after =>
      result = some batch ∧
        after = { channel with queue := rest, taken := channel.taken ++ batch, phase := .busy } := by
  have taken : channel.queue.take len = batch := by rw [queue, List.take_left' length]
  have left : channel.queue.drop len = rest := by rw [queue, List.drop_left' length]
  have executed : channel.exec (choices tick) reader (.reserveReadBatch len) =
      some (some batch,
        { channel with queue := rest, taken := channel.taken ++ batch, phase := .busy }) := by
    simp only [Channel.exec, if_neg nonempty, taken, left]
  refine .request executed ?_
  simp only [Program.pure_eq, Program.bind_eq, Program.bind, length, ne_eq,
    not_true_eq_false, if_false]
  exact .done ⟨rfl, rfl⟩

theorem tryPop_empty (empty : channel.queue = []) :
    (loneRing Task).Alone reader choices tryPop tick channel fun result _ after =>
      result = none ∧ after = { channel with phase := .checking } := by
  have executed : channel.exec (choices tick) reader (.reserveReadBatch frameLenBytes) =
      some (none, { channel with phase := .checking }) := by
    simp only [Channel.exec, if_pos empty]
  exact .request executed (.done ⟨rfl, rfl⟩)

theorem tryPop_sentinel {rest : List Item}
    (queue : channel.queue = itemsBytes (.sentinel :: rest)) :
    (loneRing Task).Alone reader choices tryPop tick channel fun result _ after =>
      result = none ∧ after = { channel.skipItem .sentinel rest with closed := true } := by
  have length : sentinelBytes.length = frameLenBytes := by simp [sentinelBytes, frameLenBytes]
  have nonempty : channel.queue ≠ [] := by
    rw [queue]
    exact List.ne_nil_of_length_pos (by simp [itemsBytes, Item.bytes, sentinelBytes])
  refine (readExact_alone queue length nonempty).bind ?_
  rintro _ later after ⟨rfl, rfl⟩
  exact .request rfl (.done ⟨rfl, rfl⟩)

theorem tryPop_frame {body : Bytes} {rest : List Item} (bound : body.length < 2 ^ 32 - 1)
    (queue : channel.queue = itemsBytes (.frame body :: rest)) :
    (loneRing Task).Alone reader choices tryPop tick channel fun result _ after =>
      result = some body ∧ after = channel.skipItem (.frame body) rest := by
  have split : channel.queue = u32ToLeBytes (UInt32.ofNat body.length) ++
      (body ++ itemsBytes rest) := by
    rw [queue]
    simp [itemsBytes, Item.bytes]
  have length : (u32ToLeBytes (UInt32.ofNat body.length)).length = frameLenBytes := by
    simp [frameLenBytes]
  have nonempty : channel.queue ≠ [] := by
    rw [split]
    exact List.ne_nil_of_length_pos (by simp)
  refine (readExact_alone split length nonempty).bind ?_
  rintro _ later after ⟨rfl, rfl⟩
  simp only [length, frameLenBytes, if_true, popBody, if_neg (frameLen_ne_sentinel bound),
    frameLen_toNat bound]
  by_cases blank : body = []
  · subst blank
    simp only [List.length_nil, if_true]
    exact .done ⟨rfl, by simp [Channel.skipItem, Item.bytes]⟩
  · have positive : body.length ≠ 0 := fun zero => blank (List.length_eq_zero_iff.mp zero)
    simp only [if_neg positive]
    refine (readExact_alone rfl rfl ?_).mono ?_
    · simp [blank]
    · rintro _ _ after ⟨rfl, rfl⟩
      exact ⟨rfl, by simp [Channel.skipItem, Item.bytes]⟩

def drainTurn (codecs : Codecs) : Program ChannelOp (Sum Unit Unit) := do
  let popped ← tryPop
  match popped with
  | some bytes =>
      handleFrame codecs bytes
      return .inl ()
  | none => return .inr ()

theorem drainRing_turns (codecs : Codecs) : drainRing codecs = .iterate () fun _ =>
    drainTurn codecs := rfl

theorem drainTurn_frame {codecs : Codecs} {body : Bytes} {update : Update} {rest : List Item}
    (bound : body.length < 2 ^ 32 - 1) (decoded : decodeUpdate codecs body = some update)
    (queue : channel.queue = itemsBytes (.frame body :: rest)) :
    (loneRing Task).Alone reader choices (drainTurn codecs) tick channel fun outcome _ after =>
      outcome = .inl () ∧ after = (channel.skipItem (.frame body) rest).queueUpdate update := by
  refine (tryPop_frame bound queue).bind ?_
  rintro _ later after ⟨rfl, rfl⟩
  simp only [handleFrame_eq decoded]
  exact .request rfl (.done ⟨rfl, rfl⟩)

theorem drainRing_alone {codecs : Codecs} {items : List Item} (valid : ∀ item ∈ items, item.Valid)
    (decodes : ∀ body ∈ untilSentinel items, decodeUpdate codecs body ≠ none)
    (queue : channel.queue = itemsBytes items) :
    (loneRing Task).Alone reader choices (drainRing codecs) tick channel fun _ _ after =>
      after = channel.drained (decodeUpdate codecs) items := by
  rw [drainRing_turns]
  induction items generalizing tick channel with
  | nil =>
      have turn : (loneRing Task).Alone reader choices (drainTurn codecs) (tick + 1) channel
        fun outcome _ after =>
          outcome = .inr () ∧ after = { channel with phase := .checking } := by
        refine (tryPop_empty queue).bind ?_
        rintro _ later after ⟨rfl, rfl⟩
        exact .done ⟨rfl, rfl⟩
      refine .loop (turn.bind ?_)
      rintro _ later after ⟨rfl, rfl⟩
      exact .done rfl
  | cons item rest ih =>
      cases item with
      | sentinel =>
          have turn : (loneRing Task).Alone reader choices (drainTurn codecs) (tick + 1) channel
            fun outcome _ after =>
              outcome = .inr () ∧
                after = { channel.skipItem .sentinel rest with closed := true } := by
            refine (tryPop_sentinel queue).bind ?_
            rintro _ later after ⟨rfl, rfl⟩
            exact .done ⟨rfl, rfl⟩
          refine .loop (turn.bind ?_)
          rintro _ later after ⟨rfl, rfl⟩
          exact .done rfl
      | frame body =>
          obtain ⟨update, decoded⟩ := Option.ne_none_iff_exists'.mp
            (decodes body (List.mem_cons_self ..))
          have bound : body.length < 2 ^ 32 - 1 := valid (.frame body) (List.mem_cons_self ..)
          refine .loop ((drainTurn_frame bound decoded queue).bind ?_)
          rintro _ later after ⟨rfl, rfl⟩
          refine (ih ?_ ?_ rfl).mono ?_
          · exact fun item member => valid item (List.mem_cons_of_mem _ member)
          · exact fun body member => decodes body (List.mem_cons_of_mem _ member)
          · rintro _ _ after rfl
            simp [Channel.drained, decoded]

/-! The file, the counter and the readiness event. -/

/-- The environment of a reader that runs alone: interruptions end, nothing fails, and the ring's
path does or does not exist. -/
structure Steadied (choices : Nat → ChannelChoice) (bound : Nat) (present : Bool) : Prop where
  settled : ∀ n, bound ≤ n → (choices n).interrupted = false
  unfailing : ∀ n, (choices n).failure = none
  present : ∀ n, (choices n).present = present

variable {bound : Nat} {present : Bool}

def Channel.takeCount (channel : Channel Task) :
    Channel Task := { channel with counter := 0, phase := .busy }

theorem drain_takes (steadied : Steadied choices bound present) :
    (loneRing Task).Alone reader choices drain tick channel fun result _ after =>
      result = .ok channel.counter ∧ after = if channel.counter = 0 then channel
        else channel.takeCount := by
  refine Alone.iterate bound (· = channel) ?_ rfl
  intro tick now same
  rw [show now = channel from same]
  by_cases interrupted : (choices tick).interrupted = true
  · have executed :
      channel.exec (choices tick) reader .readEventfd = some (.interrupted, channel) := by
      simp only [Channel.exec, if_pos interrupted]
    refine .request executed (.done ⟨?_, by omega, rfl⟩)
    by_contra late
    rw [steadied.settled tick (by omega)] at interrupted
    cases interrupted
  · by_cases zero : channel.counter = 0
    · have executed :
        channel.exec (choices tick) reader .readEventfd = some (.wouldBlock, channel) := by
        simp only [Channel.exec, if_neg interrupted, if_pos zero]
      refine .request executed (.done ⟨by rw [zero], ?_⟩)
      rw [if_pos zero]
    · have executed : channel.exec (choices tick) reader .readEventfd =
          some (.done channel.counter, channel.takeCount) := by
        simp only [Channel.exec, if_neg interrupted, if_neg zero, Channel.takeCount]
      refine .request executed (.done ⟨rfl, ?_⟩)
      rw [if_neg zero]

def afterReadable : Except IoErrorKind Nat → Program ChannelOp (Sum Unit (Except IoErrorKind Nat))
  | .error kind => return .inr (.error kind)
  | .ok tick => do
      let drained ← drain
      match drained with
      | .ok 0 =>
          .perform (.clearReady tick)
          return .inl ()
      | .ok (count + 1) => return .inr (.ok (count + 1))
      | .error .wouldBlock =>
          .perform (.clearReady tick)
          return .inl ()
      | .error kind => return .inr (.error kind)

def waitTurn : Program ChannelOp (Sum Unit (Except IoErrorKind Nat)) :=
  (Program.perform .readable).bind afterReadable

theorem readable_then {α : Type} {next : Except IoErrorKind Nat → Program ChannelOp α}
    {post : α → Nat → Channel Task → Prop} (steadied : Steadied choices bound present)
    (ready : channel.ready = true)
    (rest : (loneRing Task).Alone reader choices (next (.ok channel.tick)) (tick + 1)
      channel post) :
    (loneRing Task).Alone reader choices ((Program.perform .readable).bind next) tick
      channel post := by
  have executed :
      channel.exec (choices tick) reader .readable = some (.ok channel.tick, channel) := by
    simp only [Channel.exec, steadied.unfailing tick, ready, if_true]
  exact .request executed rest

theorem waitTurn_counted (steadied : Steadied choices bound present) (ready : channel.ready = true)
    (counted : channel.counter ≠ 0) :
    (loneRing Task).Alone reader choices waitTurn tick channel fun outcome _ after =>
      outcome = .inr (.ok channel.counter) ∧ after = channel.takeCount := by
  refine readable_then steadied ready ((drain_takes steadied).bind ?_)
  rintro _ later after ⟨rfl, rfl⟩
  rw [if_neg counted]
  obtain ⟨count, same⟩ := Nat.exists_eq_succ_of_ne_zero counted
  simp only [same]
  exact .done ⟨rfl, rfl⟩

theorem waitTurn_spent (steadied : Steadied choices bound present) (ready : channel.ready = true)
    (zero : channel.counter = 0) :
    (loneRing Task).Alone reader choices waitTurn tick channel fun outcome _ after =>
      outcome = .inl () ∧ after = { channel with ready := false } := by
  refine readable_then steadied ready ((drain_takes steadied).bind ?_)
  rintro _ later after ⟨rfl, rfl⟩
  have nothing : (.ok channel.counter : Except IoErrorKind Nat) = .ok 0 := by rw [zero]
  rw [if_pos zero, nothing]
  have executed : channel.exec (choices later) reader (.clearReady channel.tick) =
      some ((), { channel with ready := false }) := by
    simp only [Channel.exec, if_true]
  exact .request executed (.done ⟨rfl, rfl⟩)

theorem isClosed_alone (steadied : Steadied choices bound present)
    (gone : present = false → channel.linked = false) :
    (loneRing Task).Alone reader choices isClosed tick channel fun closed _ after =>
      closed = (channel.closed || !present) ∧
        after = if channel.closed || !present then channel else channel.sawPath := by
  refine .request rfl ?_
  cases closed : channel.closed with
  | true => exact .done ⟨rfl, rfl⟩
  | false =>
      cases there : present with
      | true =>
          have executed : channel.exec (choices (tick + 1)) reader .pathExists = some
              (true, channel.sawPath) := by
            simp only [Channel.exec, steadied.present, there, if_true]
          exact .request executed (.done ⟨rfl, rfl⟩)
      | false =>
          have executed : channel.exec (choices (tick + 1)) reader .pathExists = some
              (false, channel) := by
            simp [Channel.exec, steadied.present, there, gone there]
          exact .request executed (.done ⟨rfl, rfl⟩)

/-! From one rest to the next. -/

def afterWait : Except IoErrorKind Nat → Program ChannelOp (Sum Unit Unit)
  | .error kind => do
      .perform (.trace (.waitFailed kind))
      .perform (.note (.readerReturned false))
      return .inr ()
  | .ok _ => return .inl ()

def afterTurn (codecs : Codecs) : Sum Unit Unit → Program ChannelOp Unit
  | .inl again => .loop again (fun _ => readTurn codecs) .done
  | .inr result => .done result

/-- What is left of the reader when it is parked at its eventfd. -/
def parkedReader (codecs : Codecs) : Program ChannelOp Unit :=
  ((Program.unrolled () (fun _ => waitTurn) .done).bind afterWait).bind (afterTurn codecs)

theorem readTurn_eq (codecs : Codecs) : readTurn codecs = (drainRing codecs).bind fun _ =>
    isClosed.bind fun closed =>
    if closed then (Program.perform (.note (.readerReturned true))).bind fun _ => .done (.inr ())
    else wait.bind afterWait := rfl

theorem readTurn_unrolled (codecs : Codecs) : Program.unrolled () (fun _ => readTurn codecs) .done =
    (drainRing codecs).bind fun _ => isClosed.bind fun closed =>
      if closed then .request (.note (.readerReturned true)) .done
      else (wait.bind afterWait).bind (afterTurn codecs) := by
  have unrolls : Program.unrolled () (fun _ => readTurn codecs) .done = (readTurn codecs).bind
      (afterTurn codecs) := by
    unfold Program.unrolled
    congr 1
    funext outcome
    cases outcome <;> rfl
  rw [unrolls, readTurn_eq, Program.bind_assoc]
  congr 1
  funext _
  rw [Program.bind_assoc]
  congr 1
  funext closed
  cases closed <;> rfl

/-- Where the reader comes to after a pass over the items: it is about to return, or parked again.
-/
def Rested (codecs : Codecs) (items : List Item) (present : Bool) (before : Channel Task)
    (rest : Program ChannelOp Unit) (after : Channel Task) : Prop :=
  let drained := before.takeCount.drained (decodeUpdate codecs) items
  if drained.closed || !present then rest = .request (.note (.readerReturned true)) .done ∧
    after = drained
  else rest = parkedReader codecs ∧ after = { drained.sawPath with ready := false }

theorem wait_loops (codecs : Codecs) : (wait.bind afterWait).bind (afterTurn codecs) =
    .loop () (fun _ => waitTurn) fun result => (afterWait result).bind (afterTurn codecs) := rfl

theorem wait_unrolled (codecs : Codecs) :
    Program.unrolled () (fun _ => waitTurn)
      (fun result => (afterWait result).bind (afterTurn codecs)) = parkedReader codecs := by
  rw [parkedReader, unrolled_bind, unrolled_bind]
  rfl

theorem wait_parks {codecs : Codecs} {goal : Program ChannelOp Unit → Nat → Channel Task → Prop}
    (steadied : Steadied choices bound present) (ready : channel.ready = true)
    (zero : channel.counter = 0)
    (parks : ∀ later, goal (parkedReader codecs) later { channel with ready := false }) :
    (loneRing Task).Until reader choices goal ((wait.bind afterWait).bind (afterTurn codecs)) tick
      channel := by
  rw [wait_loops]
  refine .loop ((waitTurn_spent steadied ready zero).until ?_)
  rintro _ later after ⟨rfl, rfl⟩
  refine .loop (.here ?_)
  rw [wait_unrolled]
  exact parks _

theorem parkedReader_rests {codecs : Codecs} {items : List Item}
    (steadied : Steadied choices bound present) (valid : ∀ item ∈ items, item.Valid)
    (decodes : ∀ body ∈ untilSentinel items, decodeUpdate codecs body ≠ none)
    (queue : channel.queue = itemsBytes items) (ready : channel.ready = true)
    (counted : channel.counter ≠ 0) (gone : present = false → channel.linked = false) :
    (loneRing Task).Until reader choices
      (fun rest _ after => Rested codecs items present channel rest after)
      (parkedReader codecs) tick channel := by
  have passed := drained_passed (decodeUpdate codecs) items channel.takeCount queue
  rw [parkedReader, Program.unrolled, Program.bind_assoc, Program.bind_assoc]
  refine (waitTurn_counted steadied ready counted).until ?_
  rintro _ later after ⟨rfl, rfl⟩
  have unread : channel.takeCount.queue = itemsBytes items := queue
  refine .loop ?_
  rw [readTurn_unrolled]
  refine (drainRing_alone valid decodes unread).until ?_
  rintro _ later after rfl
  refine (isClosed_alone steadied fun absent => passed.linked.trans (gone absent)).until ?_
  rintro _ later after ⟨rfl, rfl⟩
  by_cases closes :
    ((channel.takeCount.drained (decodeUpdate codecs) items).closed || !present) = true
  · simp only [if_pos closes]
    refine .here ?_
    rw [Rested, if_pos closes]
    exact ⟨rfl, rfl⟩
  · simp only [if_neg closes]
    refine wait_parks steadied ?_ ?_ fun _ => ?_
    · exact passed.wakeups.1.trans ready
    · exact passed.wakeups.2
    · rw [Rested, if_neg closes]
      exact ⟨rfl, rfl⟩

end

/-! The only place where a reader waits. -/

def IsReadable : {β : Type} → ChannelOp β → Prop
  | _, .readable => True
  | _, _ => False

abbrev Deaf {α : Type} (program : Program ChannelOp α) : Prop := program.Only fun op =>
    ¬ IsReadable op

theorem readExact_deaf (len : Nat) : Deaf (readExact len) := by
  refine Program.Only.bind (.perform id) fun reserved => ?_
  cases reserved with
  | none => trivial
  | some batch =>
      simp only
      split
      · exact Program.Only.bind (.perform id) fun _ => trivial
      · trivial

theorem tryPop_deaf : Deaf tryPop := by
  refine Program.Only.bind (readExact_deaf _) fun lenBytes => ?_
  cases lenBytes with
  | none => trivial
  | some lenBytes =>
      simp only
      split
      · unfold popBody
        simp only
        split
        · exact Program.Only.bind (.perform id) fun _ => trivial
        · split
          · trivial
          · exact readExact_deaf _
      · trivial

theorem handleFrame_deaf (codecs : Codecs) (bytes : Bytes) : Deaf (handleFrame codecs bytes) := by
  unfold handleFrame
  split <;> exact .perform id

theorem drainRing_deaf (codecs : Codecs) : Deaf (drainRing codecs) := by
  refine .iterate fun _ => Program.Only.bind tryPop_deaf fun popped => ?_
  cases popped with
  | none => trivial
  | some bytes => exact Program.Only.bind (handleFrame_deaf codecs bytes) fun _ => trivial

theorem isClosed_deaf : Deaf isClosed := by
  refine Program.Only.bind (.perform id) fun closed => ?_
  cases closed with
  | true => trivial
  | false => exact Program.Only.bind (.perform id) fun _ => trivial

theorem drain_deaf : Deaf drain := by
  refine .iterate fun _ => Program.Only.bind (.perform id) fun reply => ?_
  cases reply <;> trivial

theorem afterWait_deaf (waited : Except IoErrorKind Nat) : Deaf (afterWait waited) := by
  cases waited with
  | error kind =>
    exact Program.Only.bind (.perform id) fun _ => Program.Only.bind (.perform id) fun _ => trivial
  | ok count => trivial

theorem afterReadable_deaf (ready : Except IoErrorKind Nat) : Deaf (afterReadable ready) := by
  cases ready with
  | error kind => trivial
  | ok tick =>
      have clears : Deaf ((Program.perform (.clearReady tick)).bind fun _ =>
          (.done (.inl ()) : Program ChannelOp (Sum Unit (Except IoErrorKind Nat)))) :=
        Program.Only.bind (.perform id) fun _ => trivial
      refine Program.Only.bind drain_deaf fun drained => ?_
      split
      · exact clears
      · trivial
      · exact clears
      · trivial

def Listens {α : Type} (program : Program ChannelOp α) :
    Prop := ∃ next, program = .request .readable next

theorem Listens.notDeaf {α : Type} {program : Program ChannelOp α} (listens : Listens program) :
    ¬ Deaf program := by
  obtain ⟨next, rfl⟩ := listens
  exact fun deaf => deaf.1 trivial

theorem Listens.ofBind {α β : Type} {program : Program ChannelOp α} {rest : α → Program ChannelOp β}
    (listens : Listens (program.bind rest)) : Listens program ∨ ∃ value, program = .done value ∧
      Listens (rest value) := by
  obtain ⟨next, shape⟩ := listens
  cases program with
  | done value => exact .inr ⟨value, rfl, next, shape⟩
  | request op following =>
      cases shape
      exact .inl ⟨following, rfl⟩
  | loop turn body following => cases shape

theorem waitTurn_listens {program : Program ChannelOp (Sum Unit (Except IoErrorKind Nat))}
    (residual : waitTurn.Residual program) (listens : Listens program) : program = waitTurn := by
  rcases residual.ofBind with ⟨within, inner, rfl⟩ | ⟨ready, inner⟩
  · rcases inner.ofPerform with rfl | ⟨ready, rfl⟩
    · rfl
    · exact absurd (afterReadable_deaf ready) listens.notDeaf
  · exact absurd (inner.only (afterReadable_deaf ready)) listens.notDeaf

theorem wait_listens {program : Program ChannelOp (Except IoErrorKind Nat)}
    (residual : wait.Residual program)
    (listens : Listens program) : program = .unrolled () (fun _ => waitTurn) .done := by
  rcases residual.ofLoop with ⟨again, rfl⟩ | ⟨again, within, inner, rfl⟩ | ⟨result, inner⟩
  · obtain ⟨next, shape⟩ := listens
    cases shape
  · rcases listens.ofBind with listens | ⟨outcome, rfl, listens⟩
    · rw [waitTurn_listens inner listens]
      rfl
    · obtain ⟨next, shape⟩ := listens
      cases outcome <;> cases shape
  · obtain ⟨next, shape⟩ := listens
    rw [inner.ofDone] at shape
    cases shape

theorem readTurn_listens {codecs : Codecs} {program : Program ChannelOp (Sum Unit Unit)}
    (residual : (readTurn codecs).Residual program) (listens : Listens program) :
    program = (Program.unrolled () (fun _ => waitTurn) .done).bind afterWait := by
  have returns : Deaf (Program.perform (.note (.readerReturned true))) := .perform id
  rw [readTurn_eq] at residual
  obtain ⟨next, rfl⟩ := id listens
  obtain ⟨_, residual⟩ := residual.past (drainRing_deaf codecs) trivial
  obtain ⟨closed, residual⟩ := residual.past isClosed_deaf trivial
  cases closed with
  | true =>
      obtain ⟨_, residual⟩ := residual.past returns trivial
      cases residual.ofDone
  | false =>
      rcases residual.ofBind with ⟨within, inner, shape⟩ | ⟨waited, inner⟩
      · rw [shape] at listens ⊢
        rcases listens.ofBind with listens | ⟨waited, rfl, listens⟩
        · rw [wait_listens inner listens]
        · exact absurd (afterWait_deaf waited) listens.notDeaf
      · exact absurd (inner.only (afterWait_deaf waited)) listens.notDeaf

theorem runReader_listens {codecs : Codecs} {program : Program ChannelOp Unit}
    (residual : (runReader codecs).Residual program) (listens : Listens program) :
    program = parkedReader codecs := by
  have registers : Deaf (Program.perform .registerEventfd) := .perform id
  obtain ⟨next, rfl⟩ := id listens
  obtain ⟨registered, residual⟩ := residual.past registers trivial
  cases registered with
  | error kind =>
      have deaf : Deaf ((Program.perform (.trace (.asyncSetupFailed kind))).bind fun _ =>
          Program.perform (.note (.readerReturned false))) := Program.Only.bind (.perform id)
            fun _ => .perform id
      exact absurd (residual.only deaf) listens.notDeaf
  | ok _ =>
      rcases residual.ofLoop with ⟨again, shape⟩ | ⟨again, within, inner, shape⟩ | ⟨result, inner⟩
      · cases shape
      · rw [shape] at listens ⊢
        rcases listens.ofBind with listens | ⟨outcome, rfl, listens⟩
        · rw [readTurn_listens inner listens, parkedReader]
          congr 1
          funext outcome
          cases outcome <;> rfl
        · obtain ⟨next, shape⟩ := listens
          cases outcome <;> cases shape
      · cases inner.ofDone

end Qlaster
