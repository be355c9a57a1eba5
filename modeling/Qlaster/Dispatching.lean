import Qlaster.Filter
import Qlaster.Evicting

/-!
The dispatchers: a frame is pushed to a ring at most once per call, and only after
the dispatcher has seen the ring's filter ask for the update it carries.
-/

namespace Qlaster

open Interleaving Interleaving.Discipline

/-- A frame made from the update, short enough for its length not to be taken for the sentinel. -/
structure CarriesUpdate (codecs : Codecs) (update : Update) (frame : OutboundFrame) : Prop where
  encoded : ∃ nanos, encodeFrame codecs update nanos = .ok frame
  valid : (Item.frame (frame.header ++ frame.payload)).Valid

theorem encodeAccountFrame_valid {codecs : Codecs} {update : AccountUpdate} {nanos : UInt64}
    {frame : OutboundFrame} (made : encodeAccountFrame codecs update nanos = .ok frame) :
    (Item.frame (frame.header ++ frame.payload)).Valid := by
  have encoded := update.encodePartsAt_eq codecs.lz4 nanos
  simp only [encodeAccountFrame, encoded, ok_bind, pure_ok, Except.ok.injEq] at made
  subst frame
  have short := AccountUpdate.encoded_length encoded
  have bounded := update.payload.bounded
  unfold accountUpdateFixedBytes at short
  unfold maxAccountPayloadBytes at bounded
  simp only [Item.Valid]
  omega

theorem encodeTransactionFrame_valid {update : TransactionUpdate} {nanos : UInt64}
    {frame : OutboundFrame} (made : encodeTransactionFrame update nanos = .ok frame) :
    (Item.frame (frame.header ++ frame.payload)).Valid := by
  have encoded := update.encodePartsAt_eq nanos
  simp only [encodeTransactionFrame, encoded, ok_bind, pure_ok, Except.ok.injEq] at made
  subst frame
  have bounded := update.payload.bounded
  unfold maxTransactionPayloadBytes at bounded
  simp only [Item.Valid, List.length_append, TransactionUpdate.header_length,
    transactionUpdateFixedBytes]
  omega

theorem encodeSlotFrame_valid {update : SlotUpdate} {nanos : UInt64} {frame : OutboundFrame}
    (made : encodeSlotFrame update nanos = .ok frame) :
    (Item.frame (frame.header ++ frame.payload)).Valid := by
  have encoded : update.encodePartsAt nanos = .ok (update.header nanos, []) := rfl
  simp only [encodeSlotFrame, encoded, ok_bind, pure_ok, Except.ok.injEq] at made
  subst frame
  simp [Item.Valid, SlotUpdate.header]

theorem encodeFrame_carries {codecs : Codecs} {update : Update} {nanos : UInt64}
    {frame : OutboundFrame} (made : encodeFrame codecs update nanos = .ok frame) :
    CarriesUpdate codecs update frame := by
  refine ⟨⟨nanos, made⟩, ?_⟩
  cases update with
  | account update => exact encodeAccountFrame_valid made
  | transaction update => exact encodeTransactionFrame_valid made
  | slot update => exact encodeSlotFrame_valid made

def Wanted (kind : Kind) (address : Nat) (state : SenderState) : Prop :=
  kind = .slot ∨ ∃ dispatch rest, state.dispatched kind = dispatch :: rest ∧
    address ∈ dispatch.subscribed

theorem dispatcher_sends (kind : Kind) : Sends (.dispatcher kind) := trivial

def Belongings.working (own : Belongings) (update : Update) (pushed : List Nat) : Belongings :=
  { own with current := some (update, pushed) }

def AfterPush (kind : Kind) (own : Belongings) (update : Update) (pushed : List Nat) (address : Nat)
    (result : Except QlasterError Unit) (state : SenderState) : Prop :=
  match result with
  | .ok _ => Owns (.dispatcher kind) (own.working update (address :: pushed))
      { debt := some address } state
  | .error _ => Owns (.dispatcher kind) (own.working update pushed) {} state

section
variable {sender : Sender} {kind : Kind}

theorem wanted_stable (address : Nat) :
    (sending sender).Stable (.dispatcher kind) (Wanted kind address) :=
  sending_stable fun before after untouched _ wanted => by
    rw [Wanted, untouched.dispatched kind rfl]
    exact wanted

theorem currentOf_eq {dispatched : Kind → List Dispatch} {update : Update} {pushed : List Nat}
    (working : currentOf dispatched (.dispatcher kind) = some (update, pushed)) :
    ∃ dispatch rest, dispatched kind = dispatch :: rest ∧ dispatch.update = update ∧
      dispatch.pushed = pushed := by
  obtain ⟨dispatch, first, same⟩ := Option.map_eq_some_iff.mp working
  obtain ⟨rest, found⟩ := List.head?_eq_some_iff.mp first
  obtain ⟨updates, pushes⟩ := Prod.mk.inj same
  exact ⟨dispatch, rest, found, updates, pushes⟩

theorem wants_triple (asks : SubscriptionFilter → Bool) {update : Update}
    (honest : ∀ filter, asks filter = true → filter.subscribes update = true)
    (entry : ManagedConnection) (own : Belongings) (pushed : List Nat)
    (working : own.current = some (update, pushed)) :
    (sending sender).Triple (.dispatcher kind) (Owns (.dispatcher kind) own {})
      ((ask (.loadFilter entry)).bind fun filter => .done (asks filter)) fun wanted state =>
        Owns (.dispatcher kind) own {} state ∧
          (wanted = true → Wanted kind entry.address state) := by
  have wantedStable : ∀ wanted : Bool, (sending sender).Stable (.dispatcher kind) fun state =>
      Owns (.dispatcher kind) own {} state ∧ (wanted = true → Wanted kind entry.address state) :=
    fun wanted before after step holds =>
      ⟨owns_stable own {} before after step holds.1,
        fun yes => wanted_stable entry.address before after step (holds.2 yes)⟩
  have look : (sending sender).Triple (.dispatcher kind) (Owns (.dispatcher kind) own {})
      (ask (.loadFilter entry)) fun filter state => Owns (.dispatcher kind) own {} state ∧
        (asks filter = true → Wanted kind entry.address state) := by
    refine ask_triple (owns_stable own {}) (fun filter => wantedStable (asks filter))
      (fun _ _ _ => trivial) ?_
    intro choice state reply after _ owns executed
    simp only [SenderState.execManager] at executed
    split at executed
    · simp at executed
    · rename_i filter _
      simp only [Option.some.injEq, Prod.mk.injEq] at executed
      obtain ⟨rfl, rfl⟩ := executed
      obtain ⟨dispatch, rest, found, same, pushes⟩ := currentOf_eq (owns.current.trans working)
      have observed : ∃ seen, state.observed (.dispatcher kind) entry filter kind = seen :: rest ∧
          seen.update = update ∧ seen.pushed = pushed ∧
          (filter.subscribes update = true → entry.address ∈ seen.subscribed) := by
        simp only [SenderState.observed, SenderState.currentDispatch, Function.update_self, found,
          List.modifyHead_cons, same]
        split
        · exact ⟨_, rfl, rfl, pushes, fun _ => List.mem_cons_self ..⟩
        · rename_i unasked
          exact ⟨_, rfl, same, pushes, fun yes => absurd yes unasked⟩
      obtain ⟨seen, now, update', pushed', asked⟩ := observed
      refine ⟨⟨owns.claim, owns.fresh, owns.held, ?_, owns.creating, owns.dying, owns.paid⟩, ?_⟩
      · rw [working]
        simp only [currentOf, now, List.head?_cons, Option.map_some, update', pushed']
      · exact fun yes => .inr ⟨seen, rest, now, asked (honest filter yes)⟩
  exact triple_bind look fun filter => triple_done (wantedStable (asks filter)) fun _ _ holds =>
    holds

/-! Pushing to one ring. -/

theorem ringStep_triple (sender : Sender) (task : SenderTask) (own : Belongings) (address : Nat)
    {β : Type} (op : ChannelOp β)
    (framed : ∀ channel, framingGuard (.reader address) ringAllows
      (decodeUpdate sender.codecs) .reading task op channel)
    (waits : ∀ channel, waitGuard (.reader address) task op channel)
    (produces : ∀ state, producerGuard sender task address op state) (notWrite : ¬ IsWrite op) :
    (sending sender).Triple task (Owns task own {}) (.perform (.channel address op))
      fun _ => Owns task own {} := by
  refine triple_perform (owns_stable own {}) (fun _ => owns_stable own {}) ?_ ?_
  · intro state _ owns
    exact ⟨⟨framed _, fun owes => absurd owes (owns.paid address (by simp)), waits _⟩,
      produces state⟩
  · exact fun choice state reply after inv owns executed => owns.onRing inv notWrite executed

theorem onRing_ite {α : Type} (address : Nat) (condition : Prop) [Decidable condition]
    (first second : Program ChannelOp α) :
    onRing address (if condition then first else second) =
      if condition then onRing address first else onRing address second := by
  split <;> rfl

theorem Channel.exec_refused {choice : ChannelChoice} {task : SenderTask} {bytes : Bytes}
    {before after : Channel SenderTask}
    (executed : before.exec choice task (.tryWriteSlice bytes) = some (false, after)) :
    after.owing = before.owing := by
  simp only [Channel.exec] at executed
  split at executed
  · simp at executed
  · simp only [Option.some.injEq, Prod.mk.injEq, true_and] at executed
    subst after
    unfold Channel.markClose
    split <;> rfl

section
variable {update : Update} {frame : OutboundFrame}
  (carries : CarriesUpdate sender.codecs update frame) {own : Belongings} {pushed : List Nat}
  {address : Nat} (holding : address ∈ own.held) (unpushed : address ∉ pushed)
include carries holding unpushed

theorem writeFrame_triple :
    (sending sender).Triple (.dispatcher kind)
      (fun state => Owns (.dispatcher kind) (own.working update pushed) {} state ∧
        Wanted kind address state)
      (.perform (.channel address
        (.tryWriteSlice (Item.frame (frame.header ++ frame.payload)).bytes)))
      fun accepted => Owns (.dispatcher kind)
        (own.working update (if accepted then address :: pushed else pushed))
        { debt := if accepted then some address else none } := by
  refine triple_perform (Stable.and (owns_stable _ _) (wanted_stable address))
    (fun _ => owns_stable _ _) ?_ ?_
  · rintro state - ⟨owns, wanted⟩
    refine ⟨⟨⟨_, rfl, carries.valid⟩,
      fun owes => absurd owes (owns.paid address (by simp)), trivial⟩, owns.holds holding, .inr ?_⟩
    obtain ⟨dispatch, rest, found, same, pushes⟩ := currentOf_eq owns.current
    refine ⟨kind, dispatch, rest, rfl, found, ?_, ?_, pushes ▸ unpushed⟩
    · rw [same]
      obtain ⟨nanos, encoded⟩ := carries.encoded
      exact ⟨nanos, frame, encoded, rfl⟩
    · rcases wanted with isSlot | ⟨other, others, found', asked⟩
      · exact .inl isSlot
      · rw [found, List.cons.injEq] at found'
        exact .inr (found'.1 ▸ asked)
  · rintro choice state accepted after inv ⟨owns, -⟩ executed
    obtain ⟨-, choice', channel, ran, rfl⟩ := SenderState.execChannel_exec inv executed
    obtain ⟨dispatch, rest, found, same, pushes⟩ := currentOf_eq owns.current
    refine ⟨owns.claim, owns.fresh, owns.held, ?_, owns.creating, owns.dying, ?_⟩
    · cases accepted with
      | true =>
          have notSentinel := Item.frame_ne_sentinel (frame.header ++ frame.payload)
          simp [currentOf, SenderState.recordPush, SenderState.currentDispatch, notSentinel, found,
            same, pushes, Belongings.working]
      | false => simpa [SenderState.recordPush] using owns.current
    · intro ring clear owes
      by_cases here : ring = address
      · subst here
        simp only [Function.update_self] at owes
        cases accepted with
        | true => exact clear rfl
        | false =>
            rw [Channel.exec_refused ran] at owes
            exact owns.paid ring (by simp) owes
      · simp only [ne_eq, here, not_false_eq_true, Function.update_of_ne] at owes
        exact owns.paid ring (by simp) owes

theorem ringTryPush_triple (capacity : Nat) :
    (sending sender).Triple (.dispatcher kind)
      (fun state => Owns (.dispatcher kind) (own.working update pushed) {} state ∧
        Wanted kind address state)
      (onRing address (ringTryPush capacity [frame.header, frame.payload]))
      (AfterPush kind own update pushed address) := by
  have refused : ∀ {error : QlasterError} {pre : SenderState → Prop}, (∀ state, pre state →
      Owns (.dispatcher kind) (own.working update pushed) {} state) →
      (sending sender).Triple (.dispatcher kind) pre (.done (Except.error error))
        (AfterPush kind own update pushed address) :=
    fun owned => triple_done (owns_stable _ _) fun state _ holds => owned state holds
  have bytes : framed (UInt32.ofNat ([frame.header, frame.payload].map List.length).sum)
      [frame.header, frame.payload] = (Item.frame (frame.header ++ frame.payload)).bytes := by
    rw [framed_eq]
    simp
  unfold ringTryPush
  simp only [onRing_ite, bytes]
  split
  · exact refused fun _ holds => holds.1
  · split
    · exact refused fun _ holds => holds.1
    · refine triple_bind (writeFrame_triple carries holding unpushed) fun accepted => ?_
      cases accepted with
      | true => exact triple_done (owns_stable _ _) fun _ _ owns => owns
      | false =>
          have counted := ringStep_triple sender (.dispatcher kind)
            (own.working update pushed) address
            .fetchAddDropped (fun _ => trivial) (fun _ => trivial) (fun _ => trivial) id
          exact triple_bind counted fun _ => refused fun _ owns => owns

theorem sinkTryPush_triple (capacity : Nat) :
    (sending sender).Triple (.dispatcher kind)
      (fun state => Owns (.dispatcher kind) (own.working update pushed) {} state ∧
        Wanted kind address state)
      (onRing address (sinkTryPush capacity frame)) fun _ state => ∃ pushed',
        Owns (.dispatcher kind) (own.working update pushed') {} state ∧
          pushed' ⊆ address :: pushed := by
  have finished : ∀ {result : Except OutboundFrame Unit} {pushed' : List Nat},
      pushed' ⊆ address :: pushed →
      (sending sender).Triple (.dispatcher kind)
        (Owns (.dispatcher kind) (own.working update pushed') {}) (.done result) fun _ state =>
          ∃ pushed', Owns (.dispatcher kind) (own.working update pushed') {} state ∧
            pushed' ⊆ address :: pushed := by
    intro result pushed' small
    refine triple_done ?_ fun _ _ owns => ⟨pushed', owns, small⟩
    rintro before after step ⟨pushed', owns, small⟩
    exact ⟨pushed', owns_stable _ _ before after step owns, small⟩
  simp only [sinkTryPush, Program.bind_eq, onRing_bind]
  refine triple_bind (ringTryPush_triple carries holding unpushed capacity) fun result => ?_
  cases result with
  | error error => exact finished (List.subset_cons_self _ _)
  | ok _ =>
      simp only [onRing_bind]
      refine triple_bind (notify_triple (dispatcher_sends kind) _ holding) fun notified => ?_
      cases notified with
      | ok _ => exact finished (List.Subset.refl _)
      | error failure =>
          have traced := ringStep_triple sender (.dispatcher kind)
            (own.working update (address :: pushed)) address (.trace (.notifyFailed failure))
            (fun _ => trivial) (fun _ => trivial) (fun _ => trivial) id
          exact triple_bind traced fun _ => finished (List.Subset.refl _)

theorem pushToEntry_triple {entry : ManagedConnection} (same : entry.address = address) :
    (sending sender).Triple (.dispatcher kind)
      (fun state => Owns (.dispatcher kind) (own.working update pushed) {} state ∧
        Wanted kind address state)
      (pushToEntry entry frame) fun _ state => ∃ pushed',
        Owns (.dispatcher kind) (own.working update pushed') {} state ∧
          pushed' ⊆ address :: pushed := by
  subst same
  refine triple_bind (sinkTryPush_triple carries holding unpushed entry.sink.capacity)
    fun result => triple_exists fun pushed' => triple_fact fun small => ?_
  have stable : (sending sender).Stable (.dispatcher kind) fun state => ∃ pushed',
      Owns (.dispatcher kind) (own.working update pushed') {} state ∧
        pushed' ⊆ entry.address :: pushed := by
    rintro before after step ⟨pushed', owns, small⟩
    exact ⟨pushed', owns_stable _ _ before after step owns, small⟩
  cases result with
  | ok _ => exact triple_done stable fun _ _ owns => ⟨pushed', owns, small⟩
  | error refused =>
      exact triple_weaken (cleanupIfSame_triple (dispatcher_sends kind) _ _ _)
        (fun _ _ owns => owns) fun _ _ _ owns => ⟨pushed', owns, small⟩

end

theorem harmless_wanted {β : Type} (op : ManagerOp β) (harmless : Harmless op) (own : Belongings)
    (address : Nat) :
    (sending sender).Triple (.dispatcher kind)
      (fun state => Owns (.dispatcher kind) own {} state ∧ Wanted kind address state) (ask op)
      fun _ state => Owns (.dispatcher kind) own {} state ∧ Wanted kind address state :=
  harmless_keeps op harmless (Stable.and (owns_stable own {}) (wanted_stable address))

theorem sharedFrame_triple {update : Update} {encode : UInt64 → Outcome OutboundFrame}
    (encodes : ∀ nanos frame, encode nanos = .ok frame → CarriesUpdate sender.codecs update frame)
    {shared : Option OutboundFrame}
    (shares : ∀ frame, shared = some frame → CarriesUpdate sender.codecs update frame)
    (own : Belongings) (address : Nat) :
    (sending sender).Triple (.dispatcher kind)
      (fun state => Owns (.dispatcher kind) own {} state ∧ Wanted kind address state)
      (sharedFrame encode shared) fun framed state =>
        (Owns (.dispatcher kind) own {} state ∧ Wanted kind address state) ∧
          ∀ frame, framed = some frame → CarriesUpdate sender.codecs update frame := by
  have finished : ∀ framed : Option OutboundFrame,
      (∀ frame, framed = some frame → CarriesUpdate sender.codecs update frame) →
      (sending sender).Triple (.dispatcher kind)
        (fun state => Owns (.dispatcher kind) own {} state ∧ Wanted kind address state)
        (.done framed) fun framed state =>
          (Owns (.dispatcher kind) own {} state ∧ Wanted kind address state) ∧
            ∀ frame, framed = some frame → CarriesUpdate sender.codecs update frame := by
    intro framed carried
    refine triple_done (Stable.and (Stable.and (owns_stable own {}) (wanted_stable address))
      (Stable.const _)) fun _ _ holds => ⟨holds, carried⟩
  cases shared with
  | some frame => exact finished (some frame) shares
  | none =>
      refine triple_bind (harmless_wanted .unixTimeNanos trivial own address) fun nanos => ?_
      cases encoded : encode nanos with
      | ok frame =>
          refine finished (some frame) fun other same => ?_
          obtain rfl := Option.some.inj same
          exact encodes nanos frame encoded
      | error abort =>
          cases abort with
          | error error =>
              exact triple_bind (harmless_wanted (.encodeFailed error) trivial own address)
                fun _ => finished none (by simp)
          | panic =>
              exact triple_bind (harmless_wanted .panicked trivial own address)
                fun _ => finished none (by simp)

/-! The loop over the slots. -/

/-- Rings that took the update belong to slots the loop is done with. -/
def Visited (remaining : List SlotIndex) (pushed : List Nat) (state : SenderState) : Prop :=
  ∀ address ∈ pushed, ∃ entry ∈ state.installed, entry.address = address ∧
    entry.slotIndex ∉ remaining

theorem visited_persistent (remaining : List SlotIndex) (pushed : List Nat) :
    (sending sender).Persistent (Visited remaining pushed) :=
  sending_persistent fun _ _ grows visited address member => by
    obtain ⟨entry, installed, found⟩ := visited address member
    exact ⟨entry, grows.installed.subset installed, found⟩

theorem Visited.next {index : SlotIndex} {rest : List SlotIndex} {pushed : List Nat}
    {state : SenderState} (visited : Visited (index :: rest) pushed state) :
    Visited rest pushed state := by
  intro address member
  obtain ⟨entry, installed, same, apart⟩ := visited address member
  exact ⟨entry, installed, same, fun later => apart (List.mem_cons_of_mem _ later)⟩

theorem Visited.unpushed {rest : List SlotIndex} {pushed : List Nat} {state : SenderState}
    {entry : ManagedConnection} (visited : Visited (entry.slotIndex :: rest) pushed state)
    (inv : SenderInv sender state) (installed : entry ∈ state.installed) :
    entry.address ∉ pushed := by
  -- The entry of the slot at hand has not taken the update in this call.
  intro member
  obtain ⟨other, installed', same, apart⟩ := visited _ member
  rw [inv.tabled.unique other installed' entry installed same] at apart
  exact apart (List.mem_cons_self ..)

theorem Visited.push {rest : List SlotIndex} {pushed pushed' : List Nat} {state : SenderState}
    {entry : ManagedConnection} (visited : Visited (entry.slotIndex :: rest) pushed state)
    (installed : entry ∈ state.installed) (distinct : entry.slotIndex ∉ rest)
    (small : pushed' ⊆ entry.address :: pushed) : Visited rest pushed' state := by
  intro address member
  rcases List.mem_cons.mp (small member) with rfl | old
  · exact ⟨entry, installed, rfl, distinct⟩
  · exact visited.next address old

def AtEntry (entry : ManagedConnection) (rest : List SlotIndex) (pushed : List Nat)
    (state : SenderState) : Prop :=
  entry ∈ state.installed ∧ Visited (entry.slotIndex :: rest) pushed state

theorem atEntry_persistent (entry : ManagedConnection) (rest : List SlotIndex) (pushed : List Nat) :
    (sending sender).Persistent (AtEntry entry rest pushed) :=
  fun _ _ _ _ _ _ _ inv guarded executed holds =>
    ⟨installed_persistent entry inv guarded executed holds.1,
      visited_persistent _ _ inv guarded executed holds.2⟩

theorem dispatchLoad_triple (own : Belongings) (index : SlotIndex) (rest : List SlotIndex)
    (pushed : List Nat) :
    (sending sender).Triple (.dispatcher kind)
      (fun state => Owns (.dispatcher kind) own {} state ∧ Visited (index :: rest) pushed state)
      (ask (.loadSlot index)) fun loaded state =>
        match loaded with
        | none => Owns (.dispatcher kind) own {} state ∧ Visited (index :: rest) pushed state
        | some entry => (Owns (.dispatcher kind) (own.plus entry.address) {} state ∧
            AtEntry entry rest pushed state) ∧ entry.slotIndex = index ∧
              entry.address ∉ pushed := by
  refine triple_weaken ((load_triple own index).persist (visited_persistent (index :: rest) pushed))
    (fun _ _ holds => holds) ?_
  rintro loaded state inv ⟨⟨⟨owns, found⟩, placed⟩, visited⟩
  cases loaded with
  | none => exact ⟨owns, visited⟩
  | some entry =>
      obtain rfl := placed entry rfl
      exact ⟨⟨owns, found entry rfl, visited⟩, rfl, visited.unpushed inv (found entry rfl)⟩

theorem cleanUpAt_triple (own : Belongings) (entry : ManagedConnection) (rest : List SlotIndex)
    (pushed : List Nat) :
    (sending sender).Triple (.dispatcher kind)
      (fun state => Owns (.dispatcher kind) (own.plus entry.address) {} state ∧
        AtEntry entry rest pushed state)
      (maybeCleanupStaleSlot entry.slotIndex entry) fun _ state =>
        Owns (.dispatcher kind) (own.plus entry.address) {} state ∧
          AtEntry entry rest pushed state :=
  triple_weaken ((maybeCleanupStaleSlot_triple (dispatcher_sends kind) (own.plus entry.address)
    (List.mem_cons_self ..)).persist (atEntry_persistent entry rest pushed))
    (fun _ _ holds => ⟨⟨holds.1, holds.2.1⟩, holds.2⟩) fun _ _ _ holds => ⟨holds.1.1, holds.2⟩

theorem pushAt_triple {update : Update} {frame : OutboundFrame}
    (carries : CarriesUpdate sender.codecs update frame) (own : Belongings)
    {entry : ManagedConnection} {rest : List SlotIndex} (once : entry.slotIndex ∉ rest)
    {pushed : List Nat} (unpushed : entry.address ∉ pushed) :
    (sending sender).Triple (.dispatcher kind)
      (fun state =>
        (Owns (.dispatcher kind) ((own.working update pushed).plus entry.address) {} state ∧
        Wanted kind entry.address state) ∧ AtEntry entry rest pushed state)
      (pushToEntry entry frame) fun _ state => ∃ pushed',
        (Owns (.dispatcher kind) ((own.working update pushed').plus entry.address) {} state ∧
          entry ∈ state.installed) ∧ Visited rest pushed' state := by
  have holding : entry.address ∈ (own.plus entry.address).held := List.mem_cons_self ..
  refine triple_weaken ((pushToEntry_triple carries holding unpushed rfl).persist
    (atEntry_persistent entry rest pushed)) (fun _ _ holds => holds) ?_
  rintro _ state - ⟨⟨pushed', owns, small⟩, installed, visited⟩
  exact ⟨pushed', ⟨owns, installed⟩, visited.push installed once small⟩

theorem dispatchSlots_triple {update : Update}
    {wants : ManagedConnection → Program SenderOp Bool}
    (looks : ∀ entry own pushed, own.current = some (update, pushed) →
      (sending sender).Triple (.dispatcher kind) (Owns (.dispatcher kind) own {}) (wants entry)
        fun wanted state => Owns (.dispatcher kind) own {} state ∧
          (wanted = true → Wanted kind entry.address state))
    {encode : UInt64 → Outcome OutboundFrame}
    (encodes : ∀ nanos frame, encode nanos = .ok frame → CarriesUpdate sender.codecs update frame)
    (own : Belongings) {slots : List SlotIndex} (distinct : slots.Nodup)
    {shared : Option OutboundFrame}
    (shares : ∀ frame, shared = some frame → CarriesUpdate sender.codecs update frame) :
    (sending sender).Triple (.dispatcher kind)
      (fun state => ∃ pushed, Owns (.dispatcher kind) (own.working update pushed) {} state ∧
        Visited slots pushed state)
      (dispatchSlots wants encode slots shared) fun _ state =>
        ∃ pushed, Owns (.dispatcher kind) (own.working update pushed) {} state := by
  have stable : (sending sender).Stable (.dispatcher kind) fun state =>
      ∃ pushed, Owns (.dispatcher kind) (own.working update pushed) {} state := by
    rintro before after step ⟨pushed, owns⟩
    exact ⟨pushed, owns_stable _ _ before after step owns⟩
  induction slots generalizing shared with
  | nil => exact triple_done stable fun _ _ ⟨pushed, owns, _⟩ => ⟨pushed, owns⟩
  | cons idx rest ih =>
      obtain ⟨once, further⟩ := List.nodup_cons.mp distinct
      refine triple_exists fun pushed => ?_
      refine triple_bind (dispatchLoad_triple (own.working update pushed) idx rest pushed)
        fun loaded => ?_
      cases loaded with
      | none =>
          exact triple_weaken (ih further shares)
            (fun _ _ holds => ⟨pushed, holds.1, holds.2.next⟩) fun _ _ _ holds => holds
      | some entry =>
          refine triple_fact fun found => ?_
          obtain ⟨rfl, unpushed⟩ := found
          have onwards : ∀ {shared : Option OutboundFrame} (pushed : List Nat),
              (∀ frame, shared = some frame → CarriesUpdate sender.codecs update frame) →
              (sending sender).Triple (.dispatcher kind)
                (fun state => (Owns (.dispatcher kind)
                  ((own.working update pushed).plus entry.address) {} state ∧
                  entry ∈ state.installed) ∧ Visited rest pushed state)
                ((dropArc entry.sink).bind fun _ => dispatchSlots wants encode rest shared)
                  fun _ state =>
                  ∃ pushed, Owns (.dispatcher kind) (own.working update pushed) {} state := by
            intro shared pushed shares
            refine triple_bind ((dropEntry_triple (own.working update pushed) entry).persist
              (visited_persistent rest pushed)) fun _ => ?_
            exact triple_weaken (ih further shares) (fun _ _ holds => ⟨pushed, holds⟩)
              fun _ _ _ holds => holds
          refine triple_bind (cleanUpAt_triple (own.working update pushed) entry rest pushed)
            fun cleaned => ?_
          cases cleaned with
          | true =>
              exact triple_weaken (onwards pushed shares)
                (fun _ _ holds => ⟨⟨holds.1, holds.2.1⟩, holds.2.2.next⟩) fun _ _ _ holds => holds
          | false =>
              refine triple_bind
                ((looks entry ((own.working update pushed).plus entry.address) pushed
                rfl).persist (atEntry_persistent entry rest pushed)) fun wanted => ?_
              cases wanted with
              | false =>
                  exact triple_weaken (onwards pushed shares)
                    (fun _ _ holds => ⟨⟨holds.1.1, holds.2.1⟩, holds.2.2.next⟩) fun _ _ _ holds =>
                      holds
              | true =>
                  refine triple_weaken (triple_bind ((sharedFrame_triple encodes shares
                    ((own.working update pushed).plus entry.address) entry.address).persist
                    (atEntry_persistent entry rest pushed)) fun framed => ?_)
                    (fun _ _ holds => ⟨⟨holds.1.1, holds.1.2 rfl⟩, holds.2⟩) fun _ _ _ holds =>
                      holds
                  cases framed with
                  | none =>
                      exact triple_weaken (dropEntry_triple (own.working update pushed) entry)
                        (fun _ _ holds => ⟨holds.1.1.1, holds.2.1⟩) fun _ _ _ owns => ⟨pushed, owns⟩
                  | some frame =>
                      refine triple_weaken (triple_fact fun carried => triple_bind (pushAt_triple
                        (carried frame rfl) own once unpushed) fun _ => triple_exists fun pushed' =>
                        onwards pushed' carried)
                        (fun _ _ holds => ⟨⟨holds.1.1, holds.2⟩, holds.1.2⟩) fun _ _ _ holds =>
                          holds

/-! The three dispatchers. -/

theorem dispatchAll_triple {update : Update}
    {wants : ManagedConnection → Program SenderOp Bool}
    (looks : ∀ entry own pushed, own.current = some (update, pushed) →
      (sending sender).Triple (.dispatcher kind) (Owns (.dispatcher kind) own {}) (wants entry)
        fun wanted state => Owns (.dispatcher kind) own {} state ∧
          (wanted = true → Wanted kind entry.address state))
    {encode : UInt64 → Outcome OutboundFrame}
    (encodes : ∀ nanos frame, encode nanos = .ok frame → CarriesUpdate sender.codecs update frame)
    (own : Belongings) :
    (sending sender).Triple (.dispatcher kind) (Owns (.dispatcher kind) (own.working update []) {})
      (dispatchSlots wants encode (List.finRange _) none) fun _ state =>
        ∃ pushed, Owns (.dispatcher kind) (own.working update pushed) {} state :=
  triple_weaken (dispatchSlots_triple looks encodes own (List.nodup_finRange _) (by simp))
    (fun _ _ owns => ⟨[], owns, by simp [Visited]⟩) fun _ _ _ holds => holds

theorem dispatchUpdate_triple (update : Update)
    (own : Belongings) :
    (sending sender).Triple (.dispatcher update.kind)
      (Owns (.dispatcher update.kind) (own.working update []) {}) (dispatchUpdate sender update)
      fun _ state => ∃ pushed,
        Owns (.dispatcher update.kind) (own.working update pushed) {} state := by
  cases update with
  | account update =>
      refine dispatchAll_triple (wants_triple
        (fun filter => filter.matchesAccount sender.contains update) fun filter matched => ?_)
        (fun _ _ made => encodeFrame_carries made) own
      exact decide_eq_true (SubscriptionFilter.matchesAccount_subscribed matched)
  | transaction update =>
      exact dispatchAll_triple (wants_triple SubscriptionFilter.matchesTransaction fun _ => id)
        (fun _ _ made => encodeFrame_carries made) own
  | slot update =>
      refine dispatchAll_triple (fun entry own pushed _ => ?_)
        (fun _ _ made => encodeFrame_carries made) own
      -- Slot updates go to every connection.
      refine triple_done ?_ fun _ _ owns => ⟨owns, fun _ => .inl rfl⟩
      exact Stable.and (owns_stable own {}) fun _ _ _ _ _ => .inl rfl

theorem dispatchBegan_triple (own : Belongings) (update : Update) :
    (sending sender).Triple (.dispatcher update.kind) (Owns (.dispatcher update.kind) own {})
      (ask (.note (.dispatchBegan update))) fun _ =>
        Owns (.dispatcher update.kind) (own.working update []) {} := by
  refine ask_triple (owns_stable _ _) (fun _ => owns_stable _ _) (fun _ _ _ => rfl) ?_
  intro choice state reply after _ owns executed
  simp only [SenderState.execManager, Option.some.injEq, Prod.mk.injEq] at executed
  obtain ⟨-, rfl⟩ := executed
  refine ⟨owns.claim, owns.fresh, owns.held, ?_, owns.creating, owns.dying, owns.paid⟩
  simp [currentOf, SenderState.record, Belongings.working]

theorem dispatch_triple (update : Update)
    (own : Belongings) :
    (sending sender).Triple (.dispatcher update.kind) (Owns (.dispatcher update.kind) own {})
      (senderProgram sender (.dispatch update)) fun _ state => ∃ pushed,
        Owns (.dispatcher update.kind) (own.working update pushed) {} state :=
  triple_bind (dispatchBegan_triple own update) fun _ => dispatchUpdate_triple update own

end

end Qlaster
