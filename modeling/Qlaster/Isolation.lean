import Qlaster.Handshake
import Qlaster.Serving

/-!
A dispatch with no concurrent step serves all ten slots, each for itself: every recipient gets
the same frame, and no slot's fate depends on another's.
-/

namespace Qlaster

open Interleaving Interleaving.System

/-! All slots. -/

/-- What one slot has become at the end of a dispatch. -/
structure SlotResult (wanted : SubscriptionFilter → Bool) (item : Bytes) (now : UInt64)
    (view : SlotView) (index : SlotIndex) (before after : Table) : Prop where
  entry : after.connections index = (view.served wanted item now).1
  queue : (after.channels view.entry.address).queue = (view.served wanted item now).2
  closed : (view.served wanted item now).1 = none →
    (after.channels view.entry.address).closeMark.isSome = true
  kept : (view.served wanted item now).1 ≠ none →
    (after.channels view.entry.address).linked = (before.channels view.entry.address).linked ∧
      (after.channels view.entry.address).closeMark =
        (before.channels view.entry.address).closeMark ∧
      (view.entry.sink.path ∈ after.files ↔ view.entry.sink.path ∈ before.files)
  released : (view.served wanted item now).1 = none → Released view.entry before after
  quiet : view.stale now = false → wanted view.filter = false →
    after.channels view.entry.address = before.channels view.entry.address ∧
      (view.entry.sink.path ∈ after.files ↔ view.entry.sink.path ∈ before.files)

structure ServedAll (wanted : SubscriptionFilter → Bool) (item : Bytes) (now : SlotIndex → UInt64)
    (indices : List SlotIndex) (before after : Table) : Prop where
  others : ∀ index, index ∉ indices → after.connections index = before.connections index
  empty : ∀ index, before.connections index = none → after.connections index = none
  rings : ∀ address, (∀ index ∈ indices, ∀ entry, before.connections index = some entry →
    entry.address ≠ address) → after.channels address = before.channels address
  files : ∀ path, (∀ index ∈ indices, ∀ entry, before.connections index = some entry →
    entry.sink.path ≠ path) → (path ∈ after.files ↔ path ∈ before.files)
  filters : after.filters = before.filters
  lastSeen : after.lastSeen = before.lastSeen
  handles : after.handles = before.handles
  served : ∀ index ∈ indices, ∀ view, before.slot index = some view →
    SlotResult wanted item (now index) view index before after

section
variable {wanted : SubscriptionFilter → Bool} {item : Bytes} {now : SlotIndex → UInt64}
  {index : SlotIndex} {rest : List SlotIndex} {before mid after : Table}

theorem ServedAll.nil : ServedAll wanted item now [] before before :=
  ⟨fun _ _ => rfl, fun _ => id, fun _ _ => rfl, fun _ _ => Iff.rfl, rfl, rfl, rfl, by simp⟩

theorem ServedAll.skip (none : before.connections index = none)
    (served : ServedAll wanted item now rest before after) :
    ServedAll wanted item now (index :: rest) before after where
  others other outside := served.others other fun inside => outside (List.mem_cons_of_mem _ inside)
  empty := served.empty
  rings address apart := served.rings address fun other inside =>
    apart other (List.mem_cons_of_mem _ inside)
  files path apart := served.files path fun other inside =>
    apart other (List.mem_cons_of_mem _ inside)
  filters := served.filters
  lastSeen := served.lastSeen
  handles := served.handles
  served other inside view found := by
    rcases List.mem_cons.mp inside with rfl | inside
    · have taken := (Table.slot_shows found).entry
      simp [none] at taken
    · exact served.served other inside view found

theorem OwnRings.serve {entry : ManagedConnection} (own : OwnRings before)
    (change : SlotChange index entry before mid)
    (left : ∀ found, mid.connections index = some found →
      before.connections index = some found ∧ found = entry) : OwnRings mid := by
  have back : ∀ other found, mid.connections other = some found →
      before.connections other = some found := by
    intro other found tabled
    by_cases same : other = index
    · subst same
      exact (left found tabled).1
    · rwa [change.slots other same] at tabled
  refine ⟨fun other found tabled => own.indexed other found (back other found tabled), ?_, ?_, ?_⟩
  · intro other other' found found' tabled tabled'
    exact own.apart other other' found found' (back _ _ tabled) (back _ _ tabled')
  · intro other found tabled
    obtain ⟨there, sized⟩ := own.ring other found (back _ _ tabled)
    refine ⟨by rwa [change.allocated], ?_⟩
    by_cases same : found.address = entry.address
    · rw [same] at sized ⊢
      exact change.capacity.trans sized
    · rw [change.rings _ same]
      exact sized
  · intro other found tabled
    rw [change.filters]
    exact own.filter other found (back _ _ tabled)

theorem SlotServed.own {view : SlotView} {reading : UInt64}
    (turn : SlotServed wanted item reading view index before mid) (own : OwnRings before)
    (found : before.slot index = some view) : OwnRings mid := by
  have shows := Table.slot_shows found
  refine own.serve turn.change fun left there => ?_
  have same : left = view.entry := by
    rw [turn.entry, SlotView.served] at there
    repeat' split at there
    all_goals simp_all
  exact ⟨by rw [same, shows.entry], same⟩

-- The slot that was served first, seen after the others, which have rings and files of their own.
theorem SlotResult.ofServed {view : SlotView} {reading : UInt64}
    (turn : SlotServed wanted item reading view index before mid)
    (entry : after.connections index = mid.connections index) (handles : after.handles = mid.handles)
    (ring : after.channels view.entry.address = mid.channels view.entry.address)
    (file : view.entry.sink.path ∈ after.files ↔ view.entry.sink.path ∈ mid.files) :
    SlotResult wanted item reading view index before after where
  entry := by rw [entry, turn.entry]
  queue := by rw [ring, turn.queue]
  closed none := by
    rw [ring]
    exact turn.closed none
  kept left := by
    rw [ring, file]
    exact turn.kept left
  released none := (turn.released none).later handles ring file
  quiet live unwanted := by
    have same := turn.quiet live unwanted
    simp only [Table.unheld, Table.mk.injEq] at same
    obtain ⟨-, rings, -, -, -, files, -⟩ := same
    rw [ring, file, rings, files]
    exact ⟨rfl, Iff.rfl⟩

-- A slot that was served later, seen from before the first one was.
theorem SlotResult.since {view : SlotView} {reading : UInt64}
    (result : SlotResult wanted item reading view index mid after)
    (ring : mid.channels view.entry.address = before.channels view.entry.address)
    (file : view.entry.sink.path ∈ mid.files ↔ view.entry.sink.path ∈ before.files) :
    SlotResult wanted item reading view index before after where
  entry := result.entry
  queue := result.queue
  closed := result.closed
  kept left := by
    obtain ⟨linked, unmarked, filed⟩ := result.kept left
    rw [ring] at linked unmarked
    exact ⟨linked, unmarked, filed.trans file⟩
  released none := (result.released none).since (by rw [ring]) file
  quiet live unwanted := by
    obtain ⟨unchanged, filed⟩ := result.quiet live unwanted
    exact ⟨unchanged.trans ring, filed.trans file⟩

theorem ServedAll.cons {view : SlotView} {reading : UInt64} (own : OwnRings before)
    (found : before.slot index = some view)
    (turn : SlotServed wanted item reading view index before mid)
    (handles : mid.handles = before.handles) (fresh : index ∉ rest)
    (served : ServedAll wanted item now rest mid after) :
    ServedAll wanted item (Function.update now index reading) (index :: rest) before after := by
  have shows := Table.slot_shows found
  have differs : ∀ other ∈ rest, other ≠ index := fun other inside same => fresh (same ▸ inside)
  have kept : ∀ other ∈ rest, mid.connections other = before.connections other :=
    fun other inside => turn.change.slots other (differs other inside)
  -- The entries still to be served have other rings than the one that was just served.
  have apart : ∀ other ∈ rest, ∀ entry, mid.connections other = some entry →
      entry.address ≠ view.entry.address ∧ entry.sink.path ≠ view.entry.sink.path := by
    intro other inside entry tabled
    rw [kept other inside] at tabled
    exact own.apart other index entry view.entry tabled shows.entry (differs other inside)
  have ring := served.rings view.entry.address fun other inside entry tabled =>
    (apart other inside entry tabled).1
  have file := served.files view.entry.sink.path fun other inside entry tabled =>
    (apart other inside entry tabled).2
  refine ⟨?_, ?_, ?_, ?_, ?_, ?_, ?_, ?_⟩
  · intro other outside
    simp only [List.mem_cons, not_or] at outside
    obtain ⟨different, outside⟩ := outside
    rw [served.others other outside, turn.change.slots other different]
  · intro other none
    refine served.empty other ?_
    rw [turn.change.slots other ?_, none]
    rintro rfl
    have taken := shows.entry
    simp [none] at taken
  · intro address unserved
    have first := unserved index (List.mem_cons_self ..) view.entry shows.entry
    rw [served.rings address ?_, turn.change.rings address first.symm]
    intro other inside entry tabled
    exact unserved other (List.mem_cons_of_mem _ inside) entry (kept other inside ▸ tabled)
  · intro path unserved
    have first := unserved index (List.mem_cons_self ..) view.entry shows.entry
    rw [served.files path ?_, turn.change.files path first.symm]
    intro other inside entry tabled
    exact unserved other (List.mem_cons_of_mem _ inside) entry (kept other inside ▸ tabled)
  · rw [served.filters, turn.change.filters]
  · rw [served.lastSeen, turn.change.lastSeen]
  · rw [served.handles, handles]
  · intro other inside found' seen
    rcases List.mem_cons.mp inside with rfl | inside
    · obtain rfl : view = found' := Option.some.inj (found.symm.trans seen)
      rw [Function.update_self]
      exact .ofServed turn (served.others other fresh) served.handles ring file
    · rw [Function.update_of_ne (differs other inside)]
      have shows' := Table.slot_shows seen
      have separate := own.apart other index found'.entry view.entry shows'.entry shows.entry
        (differs other inside)
      have same : mid.channels found'.entry.address = before.channels found'.entry.address :=
        turn.change.rings _ separate.1
      have seen' : mid.slot other = some found' := by
        refine Table.Shows.slot ⟨?_, ?_, ?_, ?_⟩
        · rw [kept other inside, shows'.entry]
        · rw [turn.change.filters, shows'.filter]
        · rw [same, shows'.queue]
        · rw [turn.change.lastSeen, shows'.lastSeen]
      exact (served.served other inside found' seen').since same (turn.change.files _ separate.2)

end

section
variable {sender : Sender} {task : SenderTask} {choices : Nat → SenderChoice} {bound : Nat}
  {wants : ManagedConnection → Program SenderOp Bool} {wanted : SubscriptionFilter → Bool}
  {encode : UInt64 → Outcome OutboundFrame}

def Dispatched (choices : Nat → SenderChoice) (wanted : SubscriptionFilter → Bool)
    (encode : UInt64 → Outcome OutboundFrame) (indices : List SlotIndex)
    (shared : Option OutboundFrame) (before after : Table) : Prop :=
  ∃ frame nanos now, (∀ sent, shared = some sent → frame = sent) ∧
    (shared = none → encode nanos = .ok frame) ∧ (∀ index, ∃ n, now index = (choices n).now) ∧
    ServedAll wanted frame.item now indices before after

theorem dispatchSlots_alone (undisturbed : Undisturbed choices bound)
    (asks : Asks sender task choices wants wanted)
    (encodes : Encodes encode) (makes : MakesItems encode) (indices : List SlotIndex)
    (unique : indices.Nodup) (shared : Option OutboundFrame)
    (sharable : ∀ frame, shared = some frame → (Item.frame (frame.header ++ frame.payload)).Valid)
    (tick : Nat) (state : SenderState) (own : OwnRings state.table) :
    (senderSystem sender).Alone task choices (dispatchSlots wants encode indices shared) tick state
      fun _ _ after => Dispatched choices wanted encode indices shared state.table after.table := by
  induction indices generalizing shared tick state with
  | nil =>
      obtain ⟨frame, made⟩ := encodes 0
      refine .done ⟨shared.getD frame, 0, fun _ => (choices 0).now, ?_, ?_, fun _ => ⟨0, rfl⟩, .nil⟩
      · rintro sent rfl
        rfl
      · rintro rfl
        exact made
  | cons index rest ih =>
      obtain ⟨fresh, unique⟩ := List.nodup_cons.mp unique
      refine .request rfl ?_
      cases tabled : state.connections index with
      | none =>
          refine (ih unique shared sharable (tick + 1) _ own).mono ?_
          rintro _ _ after ⟨frame, nanos, now, first, second, read, served⟩
          exact ⟨frame, nanos, now, first, second, read, served.skip tabled⟩
      | some entry =>
          obtain ⟨filter, filtered⟩ : ∃ filter, state.filters[entry.filter]? = some filter :=
            ⟨_, List.getElem?_eq_getElem (own.filter index entry tabled)⟩
          have own' : OwnRings (state.hold task (some entry)).table :=
            ⟨own.indexed, own.apart, own.ring, own.filter⟩
          have found : state.table.slot index =
              some ⟨entry, (state.channels entry.address).queue, state.lastSeen entry.address,
                filter⟩ :=
            Table.Shows.slot ⟨tabled, filtered, rfl, rfl⟩
          have given : (state.hold task (some entry)).handles.erase (task, entry.address) =
              state.handles :=
            List.erase_cons_head ..
          refine serveSlot_alone undisturbed asks encodes makes sharable own' found
            (dispatchSlots wants encode rest) ?_ ?_
          · intro later after turn handles
            refine (ih unique shared sharable later after ((turn []).ofHeld.own own found)).mono ?_
            rintro _ _ final ⟨frame, nanos, now, first, second, read, served⟩
            refine ⟨frame, nanos, _, first, second, ?_,
              .cons own found (turn frame.item).ofHeld (handles.trans given) fresh served⟩
            exact (Function.forall_update_iff now fun _ reading =>
              ∃ n, reading = (choices n).now).mpr
              ⟨⟨_, rfl⟩, fun other _ => read other⟩
          · intro frame later after source turn handles
            have valid : ∀ sent, some frame = some sent →
                (Item.frame (sent.header ++ sent.payload)).Valid := by
              rintro sent ⟨rfl⟩
              rcases source with kept | ⟨-, nanos, made⟩
              · exact sharable frame kept
              · exact makes nanos frame made
            refine (ih unique (some frame) valid later after (turn.ofHeld.own own found)).mono ?_
            rintro _ _ final ⟨sent, nanos, now, first, -, read, served⟩
            obtain rfl := first frame rfl
            have stamped : ∃ nanos, shared = none → encode nanos = .ok sent := by
              rcases source with kept | ⟨-, nanos, made⟩
              · exact ⟨0, by simp [kept]⟩
              · exact ⟨nanos, fun _ => made⟩
            obtain ⟨nanos, stamped⟩ := stamped
            refine ⟨sent, nanos, _, ?_, stamped, ?_,
              .cons own found turn.ofHeld (handles.trans given) fresh served⟩
            · intro other given
              rcases source with kept | ⟨missing, -⟩
              · exact Option.some.inj (kept.symm.trans given)
              · simp [missing] at given
            · exact (Function.forall_update_iff now fun _ reading =>
                ∃ n, reading = (choices n).now).mpr
                ⟨⟨_, rfl⟩, fun other _ => read other⟩

end

/-! The three dispatchers. -/

def Update.wantedBy (sender : Sender) : Update → SubscriptionFilter → Bool
  | .account update, filter => filter.matchesAccount sender.contains update
  | .transaction _, filter => filter.matchesTransaction
  | .slot _, _ => true

theorem encodeFrame_encodes (codecs : Codecs) (update : Update) :
    Encodes (encodeFrame codecs update) := by
  intro nanos
  cases update with
  | account update =>
      obtain ⟨parts, encoded⟩ : ∃ parts, update.encodePartsAt codecs.lz4 nanos = .ok parts :=
        ⟨_, update.encodePartsAt_eq codecs.lz4 nanos⟩
      refine ⟨⟨parts.1, parts.2⟩, ?_⟩
      simp only [encodeFrame, encodeAccountFrame, encoded, ok_bind, pure_ok]
  | transaction update =>
      obtain ⟨parts, encoded⟩ : ∃ parts, update.encodePartsAt nanos = .ok parts :=
        ⟨_, update.encodePartsAt_eq nanos⟩
      refine ⟨⟨parts.1, parts.2⟩, ?_⟩
      simp only [encodeFrame, encodeTransactionFrame, encoded, ok_bind, pure_ok]
  | slot update => exact ⟨_, rfl⟩

theorem dispatchUpdate_alone {sender : Sender} {task : SenderTask} {choices : Nat → SenderChoice}
    {bound : Nat}
    (undisturbed : Undisturbed choices bound) (update : Update) (tick : Nat) (state : SenderState)
    (own : OwnRings state.table) :
    (senderSystem sender).Alone task choices (dispatchUpdate sender update) tick state
      fun _ _ after =>
      Dispatched choices (update.wantedBy sender) (encodeFrame sender.codecs update)
        (List.finRange _) none state.table after.table := by
  have encodes := encodeFrame_encodes sender.codecs update
  have makes : MakesItems (encodeFrame sender.codecs update) := fun _ _ made =>
    (encodeFrame_carries made).valid
  have unique : (List.finRange maxConnectionSlots).Nodup := List.nodup_finRange _
  have loads : ∀ (test : SubscriptionFilter → Bool), Asks sender task choices
      (fun entry => do
        let filter ← ask (.loadFilter entry)
        return test filter) test := by
    intro test entry filter tick state filtered
    have executed : state.execManager (choices tick) task (.loadFilter entry) = some
      (filter, { state with
        dispatched := state.observed task entry filter
        snapshots := Function.update state.snapshots task (some (entry.filter, filter)) }) := by
      simp only [SenderState.execManager, filtered]
    exact .request executed (.done ⟨rfl, rfl⟩)
  have always : Asks sender task choices (fun _ => return true) fun _ => true :=
    fun _ _ _ _ _ => .done ⟨rfl, rfl⟩
  cases update with
  | account update =>
      exact dispatchSlots_alone undisturbed
        (loads fun filter => filter.matchesAccount sender.contains update) encodes
        makes _ unique none (by simp) tick state own
  | transaction update =>
      exact dispatchSlots_alone undisturbed (loads SubscriptionFilter.matchesTransaction) encodes
        makes _ unique none (by simp) tick state own
  | slot update =>
      exact dispatchSlots_alone undisturbed always encodes makes _ unique none (by simp)
        tick state own

theorem dispatch_scheduled {sender : Sender} {choices : Nat → SenderChoice} {bound : Nat}
    (undisturbed : Undisturbed choices bound) {update : Update}
    {config : Config SenderOp SenderTask SenderState}
    (running : config.pool (.dispatcher update.kind) = senderProgram sender (.dispatch update))
    (own : OwnRings config.shared.table) :
    ∃ steps final, (senderSystem sender).schedule config
        ((List.range steps).map fun n => .step (.dispatcher update.kind) (choices n)) = some final ∧
      final.pool (.dispatcher update.kind) = .done () ∧
      Dispatched choices (update.wantedBy sender) (encodeFrame sender.codecs update)
        (List.finRange _) none config.shared.table final.shared.table := by
  have alone :
    (senderSystem sender).Alone (.dispatcher update.kind) choices
    (senderProgram sender (.dispatch update))
      0 config.shared fun _ _ after => Dispatched choices (update.wantedBy sender)
        (encodeFrame sender.codecs update) (List.finRange _) none config.shared.table after.table :=
    .request rfl (dispatchUpdate_alone undisturbed update 1 _ own)
  obtain ⟨_, steps, after, dispatched, ran⟩ := alone.scheduled config.pool .done
  have same : Function.update config.pool (.dispatcher update.kind)
      ((senderProgram sender (.dispatch update)).bind .done) = config.pool := by
    rw [Program.bind_done, ← running, Function.update_eq_self]
  rw [same, ← List.range_eq_range'] at ran
  exact ⟨steps, _, ran, Function.update_self .., dispatched⟩

def Update.frameLength (codecs : Codecs) : Update → Nat
  | .account update =>
      accountUpdateFixedBytes + (AccountUpdate.wirePayload codecs.lz4 update.payload.bytes).2.length
  | .transaction update => transactionUpdateFixedBytes + update.payload.bytes.length
  | .slot _ => slotUpdateFixedBytes

theorem encodeFrame_length {codecs : Codecs} {update : Update} {nanos : UInt64}
    {frame : OutboundFrame} (made : encodeFrame codecs update nanos = .ok frame) :
    frame.item.length = frameLenBytes + update.frameLength codecs := by
  rw [OutboundFrame.item, Item.frame_bytes_length, frameLenBytes, Nat.add_left_cancel_iff]
  cases update with
  | account update =>
      simp only [encodeFrame, encodeAccountFrame, update.encodePartsAt_eq codecs.lz4 nanos,
        ok_bind, pure_ok] at made
      cases made
      rw [List.length_append, update.header_length, Update.frameLength]
  | transaction update =>
      simp only [encodeFrame, encodeTransactionFrame, update.encodePartsAt_eq nanos, ok_bind,
        pure_ok] at made
      cases made
      rw [List.length_append, update.header_length, Update.frameLength]
  | slot update =>
      simp only [encodeFrame, encodeSlotFrame, SlotUpdate.encodePartsAt, ok_bind, pure_ok] at made
      cases made
      simp [SlotUpdate.header, Update.frameLength, slotUpdateFixedBytes]

theorem SlotView.served_empty {view : SlotView} {wanted : SubscriptionFilter → Bool} (item : Bytes)
    (now : UInt64) (wants : wanted view.filter = true) (caughtUp : view.queue = []) :
    view.served wanted item now = (some view.entry, item) ↔
      view.stale now = false ∧ item.length ≤ view.entry.sink.capacity := by
  rw [SlotView.served]
  cases stale : view.stale now with
  | true => simp
  | false => by_cases fits : item.length ≤ view.entry.sink.capacity <;> simp [wants, caughtUp, fits]

/-- What a dispatch with no concurrent step has done. -/
structure DispatchExact (sender : Sender) (update : Update) (frame : OutboundFrame)
    (now : SlotIndex → UInt64) (before after : Table) : Prop where
  decodes : decodeUpdate sender.codecs (frame.header ++ frame.payload) = some update
  empty : ∀ index, before.connections index = none → after.connections index = none
  slots : ∀ index view, before.slot index = some view →
    SlotResult (update.wantedBy sender) frame.item (now index) view index before after
  rings : ∀ address,
    (∀ index entry, before.connections index = some entry → entry.address ≠ address) →
    after.channels address = before.channels address
  files : ∀ path, (∀ index entry, before.connections index = some entry → entry.sink.path ≠ path) →
    (path ∈ after.files ↔ path ∈ before.files)
  filters : after.filters = before.filters
  lastSeen : after.lastSeen = before.lastSeen
  handles : after.handles = before.handles

/--
Without concurrent steps a dispatch returns, and what it leaves in each slot and its ring is
`SlotView.served` of that slot, the one frame and the clock reading at it.
-/
theorem dispatch_exact (sender : Sender) (lossless : sender.codecs.lz4.RoundTrips) (update : Update)
    (choices : Nat → SenderChoice) (bound : Nat) (undisturbed : Undisturbed choices bound)
    (config : Config SenderOp SenderTask SenderState)
    (running : config.pool (.dispatcher update.kind) = senderProgram sender (.dispatch update))
    (own : OwnRings config.shared.table) :
    ∃ steps final frame nanos now, (senderSystem sender).schedule config
        ((List.range steps).map fun n => .step (.dispatcher update.kind) (choices n)) = some final ∧
      final.pool (.dispatcher update.kind) = .done () ∧
      encodeFrame sender.codecs update nanos = .ok frame ∧
        (∀ index, ∃ n, now index = (choices n).now) ∧
      DispatchExact sender update frame now config.shared.table final.shared.table := by
  obtain ⟨steps, final, ran, done, frame, nanos, now, -, made, read, served⟩ :=
    dispatch_scheduled undisturbed running own
  have encoded := made rfl
  refine ⟨steps, final, frame, nanos, now, ran, done, encoded, read, ?_, served.empty, ?_, ?_,
    ?_, served.filters, served.lastSeen, served.handles⟩
  · exact encodeFrame_decodes lossless encoded
  · exact fun index view found => served.served index (List.mem_finRange _) view found
  · exact fun address apart => served.rings address fun index _ => apart index
  · exact fun path apart => served.files path fun index _ => apart index

/-- A row of connections, each with an empty ring: the first asks for the sample's key, the second
for nothing, and the third was last seen long ago. -/
def rowConnection (capacity : Nat) (index : Fin 10) : ManagedConnection :=
  ⟨index, 1, index.val, ⟨index.val, capacity, [UInt8.ofNat index.val]⟩⟩

def rowFilter (index : Nat) : SubscriptionFilter :=
  SubscriptionFilter.fromRequest 0 (if index = 1 then ⟨none, [], [], false⟩ else sampleRequest)

def rowSeen (index : Nat) : UInt64 := if index = 2 then 0 else late.now

def rowView (capacity : Nat) (index : Fin 10) : SlotView :=
  ⟨rowConnection capacity index, [], rowSeen index, rowFilter index⟩

def rowState (capacity : Nat) : SenderState :=
  { SenderState.created [] with
    connections := fun (index : Fin 10) =>
      if index.val < 3 then some (rowConnection capacity index) else none
    filters := (List.range 3).map rowFilter
    lastSeen := rowSeen
    channels := fun _ => Channel.created SenderTask capacity
    allocated := 3 }

def rowConfig (sender : Sender) : Config SenderOp SenderTask SenderState where
  shared := rowState sender.ringCapacity
  pool := Function.update (fun _ => .done ()) (.dispatcher .account)
    (senderProgram sender (.dispatch (.account sampleAccountUpdate)))

theorem rowConfig_running (sender : Sender) : (rowConfig sender).pool (.dispatcher .account) =
    senderProgram sender (.dispatch (.account sampleAccountUpdate)) := by
  simp only [rowConfig, Function.update_self]

theorem rowState_ownRings (capacity : Nat) : OwnRings (rowState capacity).table := by
  have only : ∀ (index : Fin 10) entry, (rowState capacity).table.connections index = some entry →
      index.val < 3 ∧ entry = rowConnection capacity index := by
    intro index entry tabled
    simp only [SenderState.table, rowState] at tabled
    split at tabled
    · rename_i first
      exact ⟨first, (Option.some.inj tabled).symm⟩
    · simp at tabled
  refine ⟨?_, ?_, ?_, ?_⟩
  · intro index entry tabled
    rw [(only index entry tabled).2]
    rfl
  · intro index index' entry entry' tabled tabled' different
    obtain ⟨bound, rfl⟩ := only index entry tabled
    obtain ⟨bound', rfl⟩ := only index' entry' tabled'
    have apart : index.val ≠ index'.val := fun same => different (Fin.ext same)
    refine ⟨apart, fun same => apart ?_⟩
    have bytes := congrArg UInt8.toNat (List.cons.inj same).1
    simp only [UInt8.toNat_ofNat'] at bytes
    omega
  · intro index entry tabled
    obtain ⟨bound, rfl⟩ := only index entry tabled
    exact ⟨bound, rfl⟩
  · intro index entry tabled
    obtain ⟨bound, rfl⟩ := only index entry tabled
    exact bound

theorem undisturbed_late : Undisturbed (fun _ => late) 0 := ⟨fun _ => rfl, fun _ _ => rfl⟩

-- The frame is in the first ring, the second is as it was, and the third connection is gone with
-- its file.
theorem dispatch_exact_row :
    ∃ steps final frame nanos now, (senderSystem sampleSender).schedule (rowConfig sampleSender)
        ((List.range steps).map fun _ => .step (.dispatcher .account) late) = some final ∧
      final.pool (.dispatcher .account) = .done () ∧
      encodeFrame sampleSender.codecs (.account sampleAccountUpdate) nanos = .ok frame ∧
      (∀ index : SlotIndex, ∃ _ : Nat, now index = late.now) ∧
      DispatchExact sampleSender (.account sampleAccountUpdate) frame now (rowState 128).table
        final.shared.table ∧
      (final.shared.channels 0).queue = frame.item ∧
        final.shared.channels 1 = Channel.created SenderTask 128 ∧
      final.shared.connections (2 : Fin 10) = none ∧ (final.shared.channels 2).linked = false := by
  obtain ⟨steps, final, frame, nanos, now, ran, done, encoded, read, served⟩ :=
    dispatch_exact sampleSender literalLz4_roundTrips (.account sampleAccountUpdate)
      (fun _ => late) 0 undisturbed_late (rowConfig sampleSender) (rowConfig_running sampleSender)
        (rowState_ownRings 128)
  obtain rfl : now = fun _ => late.now := funext fun index => (read index).choose_spec
  have first := served.slots (0 : Fin 10) (rowView 128 0) rfl
  have second := served.slots (1 : Fin 10) (rowView 128 1) rfl
  have third := served.slots (2 : Fin 10) (rowView 128 2) rfl
  have gone :
    ((rowView 128 2).served ((Update.account sampleAccountUpdate).wantedBy sampleSender) frame.item
      late.now).1 = none := by
    rw [SlotView.served, if_pos (by decide)]
  refine ⟨steps, final, frame, nanos, _, ran, done, encoded, read, served, ?_,
    ?_, third.entry.trans gone, ?_⟩
  · refine first.queue.trans
      (congrArg Prod.snd ((SlotView.served_empty _ _ ?_ rfl).mpr ⟨by decide, ?_⟩))
    · decide +kernel
    · rw [encodeFrame_length encoded]
      decide +kernel
  · exact (second.quiet (by decide) (by decide +kernel)).1
  · refine ((third.released gone).last fun handle member => ?_).1
    rw [served.handles] at member
    cases member

/-! A ring with nothing in it. -/

/--
A ring of the configured capacity that holds nothing: the dispatch puts the frame in it and
leaves the connection installed just when the slot is live and the frame, with its length
prefix, is no longer than the ring.
-/
theorem caughtUp_served_iff (sender : Sender)
    (accepted : checkRingCapacity sender.ringCapacity = .ok ())
    (update : Update) (choices : Nat → SenderChoice) (bound : Nat)
    (undisturbed : Undisturbed choices bound) (config : Config SenderOp SenderTask SenderState)
    (running : config.pool (.dispatcher update.kind) = senderProgram sender (.dispatch update))
    (own : OwnRings config.shared.table) (index : SlotIndex) (view : SlotView)
    (found : config.shared.table.slot index = some view)
    (created : view.entry.sink.capacity = Nat.nextPowerOfTwo sender.ringCapacity)
    (wanted : update.wantedBy sender view.filter = true) (caughtUp : view.queue = []) :
    ∃ steps final frame nanos now, (senderSystem sender).schedule config
        ((List.range steps).map fun n => .step (.dispatcher update.kind) (choices n)) = some final ∧
      final.pool (.dispatcher update.kind) = .done () ∧
      encodeFrame sender.codecs update nanos = .ok frame ∧ (∃ n, now = (choices n).now) ∧
      (final.shared.connections index = some view.entry ∧
          (final.shared.channels view.entry.address).queue = frame.item ↔
        view.stale now = false ∧ frameLenBytes + update.frameLength sender.codecs ≤
          sender.ringCapacity) := by
  obtain ⟨steps, final, ran, done, frame, nanos, now, -, made, read, served⟩ :=
    dispatch_scheduled undisturbed running own
  have encoded := made rfl
  have result := served.served index (List.mem_finRange _) view found
  have entry : final.shared.connections index = _ := result.entry
  have queue : (final.shared.channels view.entry.address).queue = _ := result.queue
  refine ⟨steps, final, frame, nanos, now index, ran, done, encoded, read index, ?_⟩
  have kept := view.served_empty frame.item (now index) wanted caughtUp
  rw [created, nextPowerOfTwo_of_checked accepted, encodeFrame_length encoded] at kept
  rw [entry, queue, ← Prod.mk_inj, kept]

theorem caughtUp_served_first :
    ∃ steps final frame nanos now, (senderSystem sampleSender).schedule (rowConfig sampleSender)
        ((List.range steps).map fun _ => .step (.dispatcher .account) late) = some final ∧
      final.pool (.dispatcher .account) = .done () ∧
      encodeFrame sampleSender.codecs (.account sampleAccountUpdate) nanos = .ok frame ∧
      (∃ _ : Nat, now = late.now) ∧
      (final.shared.connections (0 : Fin 10) = some (rowConnection 128 0) ∧
          (final.shared.channels 0).queue = frame.item ↔
        (rowView 128 0).stale now = false ∧
          frameLenBytes + (Update.account sampleAccountUpdate).frameLength
            sampleSender.codecs ≤ 128) :=
  caughtUp_served_iff sampleSender (by decide +kernel) (.account sampleAccountUpdate)
    (fun _ => late) 0 undisturbed_late (rowConfig sampleSender) (rowConfig_running sampleSender)
      (rowState_ownRings 128) (0 : Fin 10)
    (rowView 128 0) rfl (by decide +kernel) (by decide +kernel) rfl

def smallestSender : Sender := { sampleSender with ringCapacity := 64 }

/-- The smallest ring both checks accept is shorter than any account frame: the first update
for the key it asked for removes a consumer that has read everything. -/
theorem caughtUp_evicted :
    checkRingCapacity smallestSender.ringCapacity = .ok () ∧ ¬ smallestSender.ringCapacity < 64 ∧
    ∃ before after, (senderSystem smallestSender).Reachable (senderStart []) before ∧
      (senderSystem smallestSender).schedule before
        (.start (.dispatcher .account) (.dispatch (.account sampleAccountUpdate)) ::
          takes (.dispatcher .account) 25) = some after ∧
      ∃ view, before.shared.table.slot (0 : Fin 10) = some view ∧ view.queue = [] ∧
        view.stale 0 = false ∧
        (Update.account sampleAccountUpdate).wantedBy smallestSender view.filter = true ∧
        (after.pool (.dispatcher .account)).isDone = true ∧
          after.shared.connections (0 : Fin 10) = none := by
  refine ⟨by decide +kernel, by decide, ?_⟩
  have ran : ((senderSystem smallestSender).schedule (senderStart [])
      (.start (.handler 0) (.subscribe sampleRequest) :: takes (.handler 0) 15)).any (fun before =>
        ((senderSystem smallestSender).schedule before
          (.start (.dispatcher .account) (.dispatch (.account sampleAccountUpdate)) ::
            takes (.dispatcher .account) 25)).any fun after =>
          (before.shared.table.slot (0 : Fin 10)).any fun view =>
            view.queue = [] ∧ view.stale 0 = false ∧
            (Update.account sampleAccountUpdate).wantedBy smallestSender view.filter = true ∧
            (after.pool (.dispatcher .account)).isDone = true ∧
              after.shared.connections (0 : Fin 10) = none) = true := by
    decide +kernel
  obtain ⟨before, run, ran⟩ := System.schedule_finds ran
  obtain ⟨after, served, found⟩ := (Option.any_eq_true _ _).mp ran
  obtain ⟨view, seen, checked⟩ := (Option.any_eq_true _ _).mp found
  exact ⟨before, after, run, served, view, seen, of_decide_eq_true checked⟩

end Qlaster
