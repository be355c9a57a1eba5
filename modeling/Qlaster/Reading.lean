import Qlaster.Framing

/-! The reader keeps to the framing discipline: `try_pop` takes exactly one item, and `run_reader` queues what it takes. -/

namespace Qlaster

open LittleEndian Interleaving Interleaving.Discipline

section
variable {Task : Type}

def HeaderRead (tally : Tally) (decode : Bytes → Option Update) (n : Nat) (reply : Option Bytes)
    (channel : Channel Task) : Prop :=
  match reply with
  | none => AtItem tally decode n channel ∧ channel.phase = .checking
  | some lenBytes => Accounted tally decode n channel ∧
      ((lenBytes = sentinelBytes ∧ channel.sent[n]? = some sentinelBytes ∧
          Reads channel.sent channel.taken (n + 1)) ∨
        ∃ body, lenBytes = u32ToLeBytes (UInt32.ofNat body.length) ∧ body.length < 2 ^ 32 - 1 ∧
          channel.sent[n]? = some (Item.frame body).bytes ∧
          (body = [] ∧ Reads channel.sent channel.taken (n + 1) ∨
            Inside channel.sent channel.taken n body))

/-- After a pop that started in front of item `n`. -/
def Popped (tally : Tally) (decode : Bytes → Option Update) (n : Nat) (result : Option Bytes)
    (channel : Channel Task) : Prop :=
  match result with
  | some body => Accounted tally decode n channel ∧ Reads channel.sent channel.taken (n + 1) ∧
      channel.sent[n]? = some (Item.frame body).bytes
  | none => (AtItem tally decode n channel ∧ channel.phase = .checking) ∨
      (AtItem tally decode (n + 1) channel ∧ channel.closed = true ∧
        channel.sent[n]? = some sentinelBytes)

theorem found_frame {before after : Channel Task} (frame : ReaderFrame before after) {n : Nat}
    {item : Bytes} (found : before.sent[n]? = some item) : after.sent[n]? = some item := by
  rw [getElem?_grown frame.sent (List.getElem?_eq_some_iff.mp found).1, found]

theorem HeaderRead.frame {tally : Tally} {decode : Bytes → Option Update} {n : Nat}
    {reply : Option Bytes} {before after : Channel Task}
    (header : HeaderRead tally decode n reply before) (frame : ReaderFrame before after) :
    HeaderRead tally decode n reply after := by
  cases reply with
  | none => exact ⟨header.1.frame frame, frame.phase.trans header.2⟩
  | some lenBytes =>
      refine ⟨header.1.frame frame, ?_⟩
      rw [frame.taken]
      rcases header.2 with ⟨same, found, reads⟩ | ⟨body, same, bound, found, rest⟩
      · exact .inl ⟨same, found_frame frame found, reads.grow frame.sent⟩
      · refine .inr ⟨body, same, bound, found_frame frame found, ?_⟩
        rcases rest with ⟨blank, reads⟩ | inside
        · exact .inl ⟨blank, reads.grow frame.sent⟩
        · exact .inr (inside.grow frame.sent)

theorem Popped.frame {tally : Tally} {decode : Bytes → Option Update} {n : Nat}
    {result : Option Bytes} {before after : Channel Task}
    (popped : Popped tally decode n result before) (frame : ReaderFrame before after) :
    Popped tally decode n result after := by
  cases result with
  | none =>
      rcases popped with ⟨place, checking⟩ | ⟨place, closed, found⟩
      · exact .inl ⟨place.frame frame, frame.phase.trans checking⟩
      · exact .inr ⟨place.frame frame, frame.closed.trans closed, found_frame frame found⟩
  | some body =>
      refine ⟨popped.1.frame frame, ?_, found_frame frame popped.2.2⟩
      rw [frame.taken]
      exact popped.2.1.grow frame.sent

theorem bodies_take_sentinel {sent : List Bytes} {n : Nat} (found : sent[n]? = some sentinelBytes) :
    bodies (sent.take (n + 1)) = bodies (sent.take n) := by
  rw [List.take_add_one, found]
  simp [bodies]

theorem bodies_take_frame {sent : List Bytes} {n : Nat} {body : Bytes}
    (found : sent[n]? = some (Item.frame body).bytes) :
    bodies (sent.take (n + 1)) = bodies (sent.take n) ++ [body] := by
  rw [List.take_add_one, found]
  simp [bodies]

theorem Accounted.closing {tally : Tally} {decode : Bytes → Option Update} {n : Nat}
    {channel : Channel Task} (accounted : Accounted tally decode n channel)
    (found : channel.sent[n]? = some sentinelBytes) :
    Accounted tally decode (n + 1) { channel with closed := true } := by
  -- Taking the sentinel and storing the flag leaves the reader in front of the next item.
  have bound := (List.getElem?_eq_some_iff.mp found).1
  refine ⟨bound, ?_, fun _ => ⟨n, by omega, found⟩, by simp⟩
  have counts := accounted.counts
  cases tally with
  | popping => exact counts.trans (bodies_take_sentinel found).symm
  | reading =>
      refine counts.trans ?_
      simp only [decodedBodies]
      exact congrArg _ (bodies_take_sentinel found).symm

end

section
variable {Task : Type} [DecidableEq Task] {Call : Type} {program : Call → Program ChannelOp Unit}
  {mayStart : Task → Call → Bool} {reader : Task} {allowed : Task → Item → Prop}
  {decode : Bytes → Option Update} {tally : Tally}
  {valid : ∀ task item, allowed task item → item.Valid}

theorem header_triple (n : Nat) :
    (framing program mayStart reader allowed decode tally valid).Triple reader
      (AtItem tally decode n) (.perform (.reserveReadBatch 4)) (HeaderRead tally decode n) := by
  refine triple_perform (framing_stable fun _ _ frame place => place.frame frame)
    (fun _ => framing_stable fun _ _ frame header => header.frame frame) ?_ ?_
  · intro channel _ place
    exact ⟨rfl, .inl ⟨rfl, n, place⟩⟩
  · intro choice channel reply after framed place executed
    simp only [channelSystem, Channel.exec] at executed
    split at executed <;> simp only [Option.some.injEq, Prod.mk.injEq] at executed <;>
      obtain ⟨rfl, rfl⟩ := executed
    · exact ⟨⟨⟨place.accounted.within, place.accounted.counts, place.accounted.closed,
        place.accounted.opened⟩, place.reads⟩, rfl⟩
    · rename_i nonempty
      have accounted := place.accounted
      refine ⟨⟨accounted.within, accounted.counts, accounted.closed, accounted.opened⟩, ?_⟩
      exact framed.header valid place.reads nonempty

theorem readHeader_triple (n : Nat) :
    (framing program mayStart reader allowed decode tally valid).Triple reader
      (AtItem tally decode n) (readExact frameLenBytes) (HeaderRead tally decode n) := by
  refine triple_bind (header_triple n) fun reply => ?_
  have stable : (framing program mayStart reader allowed decode tally valid).Stable reader
      (HeaderRead tally decode n reply) :=
    framing_stable fun _ _ frame header => header.frame frame
  cases reply with
  | none => exact triple_done stable fun _ _ header => header
  | some batch =>
      simp only
      split
      · rename_i short
        refine triple_absurd fun channel _ header => short ?_
        rcases header.2 with ⟨same, _⟩ | ⟨body, same, _⟩
        · simp [same, sentinelBytes, frameLenBytes]
        · simp [same, frameLenBytes]
      · exact triple_done stable fun _ _ header => header

theorem readBody_triple (n : Nat) (body : Bytes) :
    (framing program mayStart reader allowed decode tally valid).Triple reader
      (fun channel => Accounted tally decode n channel ∧ Inside channel.sent channel.taken n body)
      (readExact body.length) (Popped tally decode n) := by
  have reserve : (framing program mayStart reader allowed decode tally valid).Triple reader
      (fun channel => Accounted tally decode n channel ∧ Inside channel.sent channel.taken n body)
      (.perform (.reserveReadBatch body.length))
      fun reply channel => reply = some body ∧ Popped tally decode n (some body) channel := by
    refine triple_perform (framing_stable ?_) (fun _ => framing_stable ?_) ?_ ?_
    · intro before after frame place
      rw [frame.taken]
      exact ⟨place.1.frame frame, place.2.grow frame.sent⟩
    · intro before after frame popped
      exact ⟨popped.1, popped.2.frame frame⟩
    · intro channel _ place
      exact ⟨rfl, .inr ⟨n, body, rfl, place⟩⟩
    · intro choice channel reply after framed place executed
      obtain ⟨accounted, inside⟩ := place
      simp only [channelSystem, Channel.exec, if_neg (inside.unread_ne_nil framed.flow),
        inside.batch framed.flow, Option.some.injEq, Prod.mk.injEq] at executed
      obtain ⟨rfl, rfl⟩ := executed
      exact ⟨rfl, ⟨accounted.within, accounted.counts, accounted.closed, accounted.opened⟩,
        inside.next, inside.item⟩
  refine triple_bind reserve fun reply => ?_
  have stable : (framing program mayStart reader allowed decode tally valid).Stable reader
      (Popped tally decode n (some body)) :=
    framing_stable fun _ _ frame popped => popped.frame frame
  cases reply with
  | none => exact triple_absurd fun _ _ popped => by simp at popped
  | some batch =>
      simp only
      split
      · rename_i short
        refine triple_absurd fun channel _ popped => short ?_
        rw [Option.some.inj popped.1]
      · refine triple_done (framing_stable ?_) ?_
        · exact fun _ _ frame popped => popped.frame frame
        · intro channel _ popped
          rw [Option.some.inj popped.1]
          exact popped.2

theorem frameLen_toNat {body : Bytes} (bound : body.length < 2 ^ 32 - 1) :
    (u32FromLeBytes (u32ToLeBytes (UInt32.ofNat body.length))).toNat = body.length := by
  rw [u32FromLeBytes_toLeBytes]
  exact UInt32.toNat_ofNat_of_lt' (show body.length < 2 ^ 32 by omega)

theorem frameLen_ne_sentinel {body : Bytes} (bound : body.length < 2 ^ 32 - 1) :
    u32FromLeBytes (u32ToLeBytes (UInt32.ofNat body.length)) ≠ closeSentinel := by
  intro same
  have length := frameLen_toNat bound
  rw [same] at length
  have value : closeSentinel.toNat = 2 ^ 32 - 1 := rfl
  omega

theorem popSentinel_triple (n : Nat) :
    (framing program mayStart reader allowed decode tally valid).Triple reader
      (fun channel => Accounted tally decode n channel ∧
        channel.sent[n]? = some sentinelBytes ∧ Reads channel.sent channel.taken (n + 1))
      (do .perform .storeClosed; return none) (Popped tally decode n) := by
  have store : (framing program mayStart reader allowed decode tally valid).Triple reader
      (fun channel => Accounted tally decode n channel ∧
        channel.sent[n]? = some sentinelBytes ∧ Reads channel.sent channel.taken (n + 1))
      (.perform .storeClosed) fun _ => Popped tally decode n none := by
    refine triple_perform (framing_stable ?_) (fun _ => framing_stable ?_) (fun _ _ _ => rfl) ?_
    · intro before after frame place
      rw [frame.taken]
      exact ⟨place.1.frame frame, found_frame frame place.2.1, place.2.2.grow frame.sent⟩
    · exact fun _ _ frame popped => popped.frame frame
    · intro choice channel reply after _ place executed
      simp only [channelSystem, Channel.exec, Option.some.injEq, Prod.mk.injEq] at executed
      obtain ⟨-, rfl⟩ := executed
      exact .inr ⟨⟨place.1.closing place.2.1, place.2.2⟩, rfl, place.2.1⟩
  refine triple_bind store fun _ => ?_
  exact triple_done (framing_stable fun _ _ frame popped => popped.frame frame) fun _ _ popped =>
    popped

theorem popBody_triple (n : Nat) (lenBytes : Bytes) :
    (framing program mayStart reader allowed decode tally valid).Triple reader
      (HeaderRead tally decode n (some lenBytes)) (popBody lenBytes) (Popped tally decode n) := by
  unfold popBody
  simp only
  split
  · rename_i closing
    refine triple_weaken (popSentinel_triple n) ?_ fun _ _ _ popped => popped
    rintro channel - ⟨accounted, ⟨-, found, reads⟩ | ⟨body, rfl, bound, -⟩⟩
    · exact ⟨accounted, found, reads⟩
    · exact absurd closing (frameLen_ne_sentinel bound)
  · rename_i notClosing
    have frameOnly : ∀ channel : Channel Task, HeaderRead tally decode n (some lenBytes) channel →
        ∃ body, (u32FromLeBytes lenBytes).toNat = body.length ∧ Accounted tally decode n channel ∧
          channel.sent[n]? = some (Item.frame body).bytes ∧
          (body = [] ∧ Reads channel.sent channel.taken (n + 1) ∨
            Inside channel.sent channel.taken n body) := by
      rintro channel ⟨accounted, ⟨rfl, -⟩ | ⟨body, rfl, bound, found, rest⟩⟩
      · exact absurd (u32FromLeBytes_toLeBytes closeSentinel) notClosing
      · exact ⟨body, frameLen_toNat bound, accounted, found, rest⟩
    split
    · rename_i zero
      refine triple_done (framing_stable fun _ _ frame popped => popped.frame frame) ?_
      intro channel _ header
      obtain ⟨body, length, accounted, found, rest⟩ := frameOnly channel header
      obtain rfl : body = [] := List.length_eq_zero_iff.mp (length.symm.trans zero)
      rcases rest with ⟨-, reads⟩ | inside
      · exact ⟨accounted, reads, found⟩
      · exact absurd rfl inside.nonempty
    · rename_i positive
      have each : ∀ body, (framing program mayStart reader allowed decode tally valid).Triple reader
          (fun channel => (u32FromLeBytes lenBytes).toNat = body.length ∧
            Accounted tally decode n channel ∧ Inside channel.sent channel.taken n body)
          (readExact (u32FromLeBytes lenBytes).toNat) (Popped tally decode n) := by
        intro body
        by_cases length : (u32FromLeBytes lenBytes).toNat = body.length
        · rw [length]
          exact triple_weaken (readBody_triple n body) (fun _ _ place => place.2)
            fun _ _ _ popped => popped
        · exact triple_absurd fun _ _ place => length place.1
      refine triple_weaken (triple_exists each) ?_ fun _ _ _ popped => popped
      intro channel _ header
      obtain ⟨body, length, accounted, -, rest⟩ := frameOnly channel header
      rcases rest with ⟨rfl, -⟩ | inside
      · exact absurd length positive
      · exact ⟨body, length, accounted, inside⟩

theorem tryPop_triple (n : Nat) :
    (framing program mayStart reader allowed decode tally valid).Triple reader
      (AtItem tally decode n) tryPop (Popped tally decode n) := by
  refine triple_bind (readHeader_triple n) fun reply => ?_
  cases reply with
  | none =>
      refine triple_done (framing_stable fun _ _ frame popped => popped.frame frame) ?_
      exact fun _ _ header => .inl header
  | some lenBytes =>
      simp only
      split
      · exact popBody_triple n lenBytes
      · rename_i short
        refine triple_absurd fun channel _ header => short ?_
        rcases header.2 with ⟨same, _⟩ | ⟨body, same, _⟩
        · simp [same, sentinelBytes]
        · simp [same]

end

/-! `run_reader`. -/

def decodeUpdate (codecs : Codecs) (body : Bytes) : Option Update :=
  match decodeServerFrameOwnedWithMeta codecs body with
  | .ok (.accountUpdate update _) => some (.account update)
  | .ok (.transactionUpdate update _) => some (.transaction update)
  | .ok (.slotUpdate update _) => some (.slot update)
  | _ => none

theorem handleFrame_eq {codecs : Codecs} {body : Bytes} {update : Update}
    (decoded : decodeUpdate codecs body = some update) :
    handleFrame codecs body = .perform (.forcePush update) := by
  unfold decodeUpdate at decoded
  unfold handleFrame
  split at decoded <;> simp_all

theorem handleFrame_undecodable {codecs : Codecs} {body : Bytes}
    (undecoded : decodeUpdate codecs body = none) :
    (∃ frame, handleFrame codecs body = .perform (.trace (.nonUpdateFrame frame))) ∨
      (∃ error, handleFrame codecs body = .perform (.trace (.decodeFailed error))) ∨
      handleFrame codecs body = .perform .panicked := by
  unfold decodeUpdate at undecoded
  unfold handleFrame
  split
  · simp_all
  · simp_all
  · simp_all
  · exact .inl ⟨_, rfl⟩
  · exact .inr (.inl ⟨_, rfl⟩)
  · exact .inr (.inr rfl)

theorem Item.eq_frame {item : Item} {body : Bytes} (same : (Item.frame body).bytes = item.bytes) :
    item = .frame body := by
  cases item with
  | sentinel => exact absurd same (Item.frame_ne_sentinel body)
  | frame other =>
      have bodies := congrArg bodyOf same
      simp only [bodyOf_frame, Option.some.injEq] at bodies
      rw [bodies]

section
variable {Task : Type}

def Between (decode : Bytes → Option Update) (channel : Channel Task) : Prop :=
  ∃ n, AtItem .reading decode n channel

def Waiting (decode : Bytes → Option Update) (channel : Channel Task) : Prop :=
  Between decode channel ∧ channel.phase = .waiting

theorem Between.frame {decode : Bytes → Option Update} {before after : Channel Task}
    (between : Between decode before) (frame : ReaderFrame before after) :
    Between decode after := by
  obtain ⟨n, place⟩ := between
  exact ⟨n, place.frame frame⟩

theorem Waiting.frame {decode : Bytes → Option Update} {before after : Channel Task}
    (waiting : Waiting decode before) (frame : ReaderFrame before after) : Waiting decode after :=
  ⟨waiting.1.frame frame, frame.phase.trans waiting.2⟩

theorem Accounted.enqueue {decode : Bytes → Option Update} {n : Nat} {channel : Channel Task}
    {body : Bytes} {update : Update} (accounted : Accounted .reading decode n channel)
    (found : channel.sent[n]? = some (Item.frame body).bytes)
    (decoded : decode body = some update) :
    channel.enqueued ++ [update] = decodedBodies decode (channel.sent.take (n + 1)) := by
  have counts : channel.enqueued = decodedBodies decode (channel.sent.take n) := accounted.counts
  rw [counts, decodedBodies, decodedBodies, bodies_take_frame found]
  simp [decoded]

theorem Accounted.skip {decode : Bytes → Option Update} {n : Nat} {channel : Channel Task}
    {body : Bytes} (accounted : Accounted .reading decode n channel)
    (found : channel.sent[n]? = some (Item.frame body).bytes) (undecoded : decode body = none) :
    channel.enqueued = decodedBodies decode (channel.sent.take (n + 1)) := by
  have counts : channel.enqueued = decodedBodies decode (channel.sent.take n) := accounted.counts
  rw [counts, decodedBodies, decodedBodies, bodies_take_frame found]
  simp [undecoded]

theorem Accounted.past {decode : Bytes → Option Update} {n : Nat} {before after : Channel Task}
    {body : Bytes} (accounted : Accounted .reading decode n before)
    (found : before.sent[n]? = some (Item.frame body).bytes) (within : n + 1 ≤ before.sent.length)
    (sent : after.sent = before.sent) (closed : after.closed = before.closed)
    (counts : after.enqueued = decodedBodies decode (before.sent.take (n + 1))) :
    Accounted .reading decode (n + 1) after := by
  rw [← sent] at within counts
  refine ⟨within, counts, ?_, ?_⟩
  · intro isClosed
    rw [closed] at isClosed
    obtain ⟨m, bound, sentinel⟩ := accounted.closed isClosed
    exact ⟨m, by omega, by rw [sent, sentinel]⟩
  · intro opened
    rw [closed] at opened
    rw [sent]
    refine (accounted.opened opened).succ ?_
    rw [found]
    exact fun same => Item.frame_ne_sentinel body (Option.some.inj same)

end

section
variable {Task : Type} [DecidableEq Task] {Call : Type} {program : Call → Program ChannelOp Unit}
  {mayStart : Task → Call → Bool} {reader : Task} {allowed : Task → Item → Prop} {codecs : Codecs}
  {valid : ∀ task item, allowed task item → item.Valid}

theorem undecodable_triple {op : ChannelOp Unit} {n : Nat} {body : Bytes}
    (undecoded : decodeUpdate codecs body = none)
    (permitted : ∀ channel, Undecodable (decodeUpdate codecs) channel →
      framingGuard reader allowed (decodeUpdate codecs) .reading reader op channel)
    (same : ∀ choice channel reply after,
      Channel.exec choice reader op channel = some (reply, after) → after = channel) :
    (framing program mayStart reader allowed (decodeUpdate codecs) .reading valid).Triple reader
      (Popped .reading (decodeUpdate codecs) n (some body)) (.perform op)
      fun _ => Between (decodeUpdate codecs) := by
  refine triple_perform (framing_stable fun _ _ frame popped => popped.frame frame)
    (fun _ => framing_stable fun _ _ frame between => between.frame frame) ?_ ?_
  · rintro channel - ⟨-, -, found⟩
    refine permitted channel ⟨body, List.mem_filterMap.mpr ?_, undecoded⟩
    exact ⟨_, List.mem_of_getElem? found, bodyOf_frame body⟩
  · rintro choice channel reply after - ⟨accounted, reads, found⟩ executed
    obtain rfl := same choice channel reply after executed
    exact ⟨n + 1, accounted.past found reads.within rfl rfl (accounted.skip found undecoded), reads⟩

theorem handleFrame_triple (n : Nat) (body : Bytes) :
    (framing program mayStart reader allowed (decodeUpdate codecs) .reading valid).Triple reader
      (Popped .reading (decodeUpdate codecs) n (some body)) (handleFrame codecs body)
      fun _ => Between (decodeUpdate codecs) := by
  cases decoded : decodeUpdate codecs body with
  | none =>
      rcases handleFrame_undecodable decoded with ⟨frame, traced⟩ | ⟨error, traced⟩ | panics
      · rw [traced]
        exact undecodable_triple decoded (fun _ => id) fun _ _ _ _ executed => by
          simp_all [Channel.exec]
      · rw [traced]
        exact undecodable_triple decoded (fun _ => id) fun _ _ _ _ executed => by
          simp_all [Channel.exec]
      · rw [panics]
        exact undecodable_triple decoded (fun _ => id) fun _ _ _ _ executed => by
          simp [Channel.exec] at executed
  | some update =>
      rw [handleFrame_eq decoded]
      refine triple_perform (framing_stable fun _ _ frame popped => popped.frame frame)
        (fun _ => framing_stable fun _ _ frame between => between.frame frame) ?_ ?_
      · rintro channel - ⟨accounted, reads, found⟩
        exact ⟨rfl, n + 1, accounted.enqueue found decoded, reads⟩
      · rintro choice channel reply after - ⟨accounted, reads, found⟩ executed
        simp only [channelSystem, Channel.exec, Option.some.injEq, Prod.mk.injEq] at executed
        obtain ⟨-, rfl⟩ := executed
        exact ⟨n + 1, accounted.past found reads.within rfl rfl (accounted.enqueue found decoded),
          reads⟩

theorem drainRing_triple :
    (framing program mayStart reader allowed (decodeUpdate codecs) .reading valid).Triple reader
      (Between (decodeUpdate codecs)) (drainRing codecs)
      fun _ channel => Between (decodeUpdate codecs) channel ∧
        (channel.phase = .checking ∨ channel.closed = true) := by
  have stable :
    (framing program mayStart reader allowed (decodeUpdate codecs) .reading valid).Stable
      reader fun channel => Between (decodeUpdate codecs) channel ∧
        (channel.phase = .checking ∨ channel.closed = true) := by
    refine framing_stable fun before after frame holds => ?_
    rw [frame.phase, frame.closed]
    exact ⟨holds.1.frame frame, holds.2⟩
  refine triple_loop (fun _ => stable) ?_
  refine triple_exists fun n => triple_bind (tryPop_triple n) fun result => ?_
  cases result with
  | some body =>
      refine triple_bind (handleFrame_triple n body) fun _ => ?_
      exact triple_done (framing_stable fun _ _ frame between => between.frame frame)
        fun _ _ between => between
  | none =>
      refine triple_done stable ?_
      rintro channel - (⟨place, checking⟩ | ⟨place, closed, -⟩)
      · exact ⟨⟨n, place⟩, .inl checking⟩
      · exact ⟨⟨n + 1, place⟩, .inr closed⟩

end

section
variable {Task : Type} [DecidableEq Task] {Call : Type} {program : Call → Program ChannelOp Unit}
  {mayStart : Task → Call → Bool} {reader : Task} {allowed : Task → Item → Prop}
  {decode : Bytes → Option Update} {valid : ∀ task item, allowed task item → item.Valid}

theorem between_stable :
    (framing program mayStart reader allowed decode .reading valid).Stable reader
      (Between decode) :=
  framing_stable fun _ _ frame holds => holds.frame frame

theorem waiting_stable :
    (framing program mayStart reader allowed decode .reading valid).Stable reader
      (Waiting decode) :=
  framing_stable fun _ _ frame holds => holds.frame frame

theorem drain_triple :
    (framing program mayStart reader allowed decode .reading valid).Triple reader
      (Waiting decode) drain
      fun drained channel => Between decode channel ∧
        (drained = .ok 0 → channel.phase = .waiting) ∧ ∀ kind, drained ≠ .error kind := by
  have stable : ∀ drained : Except IoErrorKind Nat,
      (framing program mayStart reader allowed decode .reading valid).Stable reader
        fun channel => Between decode channel ∧
          (drained = .ok 0 → channel.phase = .waiting) ∧ ∀ kind, drained ≠ .error kind := by
    intro drained
    refine framing_stable fun before after frame holds => ?_
    rw [frame.phase]
    exact ⟨holds.1.frame frame, holds.2⟩
  have read : (framing program mayStart reader allowed decode .reading valid).Triple
      reader (Waiting decode) (.perform .readEventfd) fun reply channel => Between decode channel ∧
        match reply with
        | .done count => count ≠ 0
        | .failed _ => False
        | _ => channel.phase = .waiting := by
    refine triple_perform waiting_stable ?_ (fun _ _ _ => rfl) ?_
    · intro reply
      refine framing_stable fun before after frame holds => ?_
      refine ⟨holds.1.frame frame, ?_⟩
      cases reply <;> simp only [frame.phase] <;> exact holds.2
    · rintro choice channel reply after - ⟨⟨n, place⟩, phase⟩ executed
      simp only [channelSystem, Channel.exec] at executed
      split at executed
      · simp only [Option.some.injEq, Prod.mk.injEq] at executed
        obtain ⟨rfl, rfl⟩ := executed
        exact ⟨⟨n, place⟩, phase⟩
      · split at executed
        · simp only [Option.some.injEq, Prod.mk.injEq] at executed
          obtain ⟨rfl, rfl⟩ := executed
          exact ⟨⟨n, place⟩, phase⟩
        · rename_i nonzero
          simp only [Option.some.injEq, Prod.mk.injEq] at executed
          obtain ⟨rfl, rfl⟩ := executed
          have accounted := place.accounted
          exact ⟨⟨n, ⟨accounted.within, accounted.counts, accounted.closed, accounted.opened⟩,
            place.reads⟩, nonzero⟩
  refine triple_loop stable (triple_bind read fun reply => ?_)
  cases reply with
  | done count =>
      refine triple_done (stable _) fun channel _ holds => ⟨holds.1, ?_, by simp⟩
      exact fun zero => absurd (Except.ok.inj zero) holds.2
  | wouldBlock =>
      exact triple_done (stable _) fun channel _ holds => ⟨holds.1, fun _ => holds.2, by simp⟩
  | interrupted => exact triple_done waiting_stable fun channel _ holds => holds
  | failed kind => exact triple_absurd fun channel _ holds => holds.2

theorem clearReady_triple (tick : Nat) :
    (framing program mayStart reader allowed decode .reading valid).Triple reader
      (Waiting decode) (.perform (.clearReady tick)) fun _ => Waiting decode := by
  refine triple_perform waiting_stable (fun _ => waiting_stable) (fun _ _ _ => rfl) ?_
  rintro choice channel reply after - waiting executed
  simp only [channelSystem, Channel.exec] at executed
  split at executed <;> simp only [Option.some.injEq, Prod.mk.injEq] at executed <;>
    obtain ⟨-, rfl⟩ := executed
  · exact waiting.frame ⟨List.prefix_rfl, rfl, rfl, rfl, rfl, rfl, id⟩
  · exact waiting

theorem wait_triple :
    (framing program mayStart reader allowed decode .reading valid).Triple reader
      (Waiting decode) wait fun _ => Between decode := by
  have ready : (framing program mayStart reader allowed decode .reading valid).Triple reader
      (Waiting decode) (.perform .readable) fun _ => Waiting decode := by
    refine triple_perform waiting_stable (fun _ => waiting_stable)
      (fun _ _ holds => ⟨rfl, holds.2⟩) ?_
    rintro choice channel reply after - holds executed
    simp only [channelSystem, Channel.exec] at executed
    repeat' split at executed
    all_goals simp only [reduceCtorEq, Option.some.injEq, Prod.mk.injEq] at executed
    all_goals obtain ⟨-, rfl⟩ := executed
    all_goals exact holds
  refine triple_loop (fun _ => between_stable) (triple_bind ready fun reply => ?_)
  cases reply with
  | error kind => exact triple_done between_stable fun _ _ holds => holds.1
  | ok tick =>
      refine triple_bind drain_triple fun drained => ?_
      cases drained with
      | error kind => exact triple_absurd fun _ _ holds => holds.2.2 kind rfl
      | ok count =>
          cases count with
          | zero =>
              refine triple_bind
                (triple_weaken (clearReady_triple tick) ?_ fun _ _ _ holds => holds)
                fun _ => triple_done waiting_stable fun _ _ holds => holds
              exact fun _ _ holds => ⟨holds.1, holds.2.1 rfl⟩
          | succ count => exact triple_done between_stable fun _ _ holds => holds.1

def FoundClosed (decode : Bytes → Option Update) (channel : Channel Task) : Prop :=
  ∃ n, AtItem .reading decode n channel ∧
    (channel.closed = true ∨ channel.linked = false ∧ channel.phase = .checking)

omit [DecidableEq Task] in
theorem FoundClosed.frame {before after : Channel Task} (found : FoundClosed decode before)
    (frame : ReaderFrame before after) : FoundClosed decode after := by
  obtain ⟨n, place, reason⟩ := found
  refine ⟨n, place.frame frame, ?_⟩
  rw [frame.closed, frame.phase]
  exact reason.imp_right fun gone => ⟨frame.linked gone.1, gone.2⟩

theorem isClosed_triple :
    (framing program mayStart reader allowed decode .reading valid).Triple reader
      (fun channel => Between decode channel ∧ (channel.phase = .checking ∨ channel.closed = true))
      isClosed
      fun closed channel => if closed then FoundClosed decode channel else Waiting decode
        channel := by
  have found : (framing program mayStart reader allowed decode .reading valid).Stable reader
      (FoundClosed decode) :=
    framing_stable fun before after frame holds => holds.frame frame
  have load : (framing program mayStart reader allowed decode .reading valid).Triple reader
      (fun channel => Between decode channel ∧ (channel.phase = .checking ∨ channel.closed = true))
      (.perform .loadClosed) fun closed channel => Between decode channel ∧
        channel.closed = closed ∧ (closed = false → channel.phase = .checking) := by
    refine triple_perform ?_ (fun _ => ?_) (fun _ _ _ => trivial) ?_
    · refine framing_stable fun before after frame holds => ?_
      rw [frame.phase, frame.closed]
      exact ⟨holds.1.frame frame, holds.2⟩
    · refine framing_stable fun before after frame holds => ?_
      rw [frame.phase, frame.closed]
      exact ⟨holds.1.frame frame, holds.2⟩
    · rintro choice channel reply after - ⟨between, reason⟩ executed
      simp only [channelSystem, Channel.exec, Option.some.injEq, Prod.mk.injEq] at executed
      obtain ⟨rfl, rfl⟩ := executed
      refine ⟨between, rfl, fun opened => reason.resolve_right ?_⟩
      simp [opened]
  refine triple_bind load fun closed => ?_
  cases closed with
  | true =>
      refine triple_done found ?_
      rintro channel - ⟨⟨n, place⟩, closed, -⟩
      exact ⟨n, place, .inl closed⟩
  | false =>
      have look : (framing program mayStart reader allowed decode .reading valid).Triple reader
          (fun channel => Between decode channel ∧ channel.closed = false ∧
            (false = false → channel.phase = .checking))
          (.perform .pathExists) fun present channel =>
            if present then Waiting decode channel else FoundClosed decode channel := by
        refine triple_perform ?_ ?_ ?_ ?_
        · refine framing_stable fun before after frame holds => ?_
          rw [frame.phase, frame.closed]
          exact ⟨holds.1.frame frame, holds.2⟩
        · intro present
          cases present with
          | true => exact waiting_stable
          | false => exact found
        · rintro channel - ⟨⟨n, place⟩, opened, checking⟩
          exact ⟨rfl, checking rfl, n, place.reads, place.accounted.opened opened⟩
        · rintro choice channel reply after - ⟨⟨n, place⟩, opened, checking⟩ executed
          have accounted := place.accounted
          simp only [channelSystem, Channel.exec] at executed
          split at executed
          · simp only [Option.some.injEq, Prod.mk.injEq] at executed
            obtain ⟨rfl, rfl⟩ := executed
            exact ⟨⟨n, ⟨accounted.within, accounted.counts, accounted.closed, accounted.opened⟩,
              place.reads⟩, by simp [Channel.sawPath, checking rfl]⟩
          · split at executed
            · simp at executed
            · rename_i gone
              simp only [Option.some.injEq, Prod.mk.injEq] at executed
              obtain ⟨rfl, rfl⟩ := executed
              exact ⟨n, place, .inr ⟨by simpa using gone, checking rfl⟩⟩
      refine triple_bind look fun present => ?_
      cases present with
      | true => exact triple_done waiting_stable fun _ _ holds => holds
      | false => exact triple_done found fun _ _ holds => holds

theorem readerReturned_triple (closed : Bool) :
    (framing program mayStart reader allowed decode .reading valid).Triple reader
      (fun channel => Between decode channel ∧ (closed = true → FoundClosed decode channel))
      (.perform (.note (.readerReturned closed))) fun _ => Between decode := by
  refine triple_perform ?_ ?_ ?_ ?_
  · refine framing_stable fun before after frame holds => ?_
    exact ⟨holds.1.frame frame, fun isClosed => (holds.2 isClosed).frame frame⟩
  · exact fun _ => framing_stable fun before after frame holds => holds.frame frame
  · exact fun _ _ holds => ⟨rfl, holds.2⟩
  · rintro choice channel reply after - ⟨⟨n, place⟩, -⟩ executed
    have accounted := place.accounted
    simp only [channelSystem, Channel.exec, Option.some.injEq, Prod.mk.injEq] at executed
    obtain ⟨-, rfl⟩ := executed
    exact ⟨n, ⟨accounted.within, accounted.counts, accounted.closed, accounted.opened⟩, place.reads⟩

theorem trace_triple {event : TraceEvent}
    (harmless : ∀ channel, framingGuard reader allowed decode .reading reader
      (.trace event) channel) :
    (framing program mayStart reader allowed decode .reading valid).Triple reader
      (Between decode) (.perform (.trace event)) fun _ => Between decode := by
  refine triple_perform between_stable (fun _ => between_stable)
    (fun channel _ _ => harmless channel) ?_
  intro choice channel reply after _ holds executed
  simp only [channelSystem, Channel.exec, Option.some.injEq, Prod.mk.injEq] at executed
  obtain ⟨-, rfl⟩ := executed
  exact holds

end

section
variable {Task : Type} [DecidableEq Task] {Call : Type} {program : Call → Program ChannelOp Unit}
  {mayStart : Task → Call → Bool} {reader : Task} {allowed : Task → Item → Prop} {codecs : Codecs}
  {valid : ∀ task item, allowed task item → item.Valid}

theorem readTurn_triple :
    (framing program mayStart reader allowed (decodeUpdate codecs) .reading valid).Triple reader
      (Between (decodeUpdate codecs)) (readTurn codecs) fun _ => Between (decodeUpdate codecs) := by
  refine triple_bind drainRing_triple fun _ => ?_
  refine triple_bind isClosed_triple fun closed => ?_
  cases closed with
  | true =>
      refine triple_bind (triple_weaken (readerReturned_triple true) ?_ fun _ _ _ holds => holds)
        fun _ => triple_done between_stable fun _ _ holds => holds
      intro channel _ found
      obtain ⟨n, place, -⟩ := id found
      exact ⟨⟨n, place⟩, fun _ => found⟩
  | false =>
      refine triple_bind wait_triple fun waited => ?_
      cases waited with
      | ok count => exact triple_done between_stable fun _ _ holds => holds
      | error kind =>
          refine triple_bind (trace_triple fun _ => trivial) fun _ => ?_
          refine triple_bind
            (triple_weaken (readerReturned_triple false) ?_ fun _ _ _ holds => holds)
            fun _ => triple_done between_stable fun _ _ holds => holds
          exact fun _ _ holds => ⟨holds, by simp⟩

theorem runReader_triple :
    (framing program mayStart reader allowed (decodeUpdate codecs) .reading valid).Triple reader
      (Between (decodeUpdate codecs)) (runReader codecs) fun _ =>
        Between (decodeUpdate codecs) := by
  have register : (framing program mayStart reader allowed (decodeUpdate codecs) .reading
      valid).Triple reader (Between (decodeUpdate codecs)) (.perform .registerEventfd)
        fun _ => Between (decodeUpdate codecs) := by
    refine triple_perform between_stable (fun _ => between_stable) (fun _ _ _ => rfl) ?_
    intro choice channel reply after _ holds executed
    simp only [channelSystem, Channel.exec] at executed
    split at executed <;> simp only [Option.some.injEq, Prod.mk.injEq] at executed <;>
      obtain ⟨-, rfl⟩ := executed
    · exact holds
    · exact holds.frame ⟨List.prefix_rfl, rfl, rfl, rfl, rfl, rfl, id⟩
  refine triple_bind register fun registered => ?_
  cases registered with
  | ok _ =>
      refine triple_loop (fun _ => between_stable) ?_
      refine triple_weaken readTurn_triple (fun _ _ holds => holds) fun turn _ _ holds => ?_
      cases turn <;> exact holds
  | error kind =>
      refine triple_bind (trace_triple fun _ => trivial) fun _ => ?_
      refine triple_weaken (readerReturned_triple false) ?_ fun _ _ _ holds => holds
      exact fun _ _ holds => ⟨holds, by simp⟩

end

end Qlaster
