import Qlaster.Composed
import Qlaster.SenderCore

/-!
What the sender's functions are made of. Dispatches, lookups and evictions read the table, take
entries out of it and write to rings; upserts also make rings and filters, and refresh them.
-/

namespace Qlaster

open Interleaving

/-! Dispatches, lookups and evictions. -/

def Inspects : {β : Type} → ManagerOp β → Prop
  | _, .loadSlot _ => True
  | _, .nowMs => True
  | _, .unixTimeNanos => True
  | _, .loadFilter _ => True
  | _, .loadLastSeen _ => True
  | _, .encodeFailed _ => True
  | _, .panicked => True
  | _, .lookupBegan _ => True
  | _, .note (.lookupReturned _ _) => True
  | _, _ => False

inductive Sweeps : (α : Type) → Program SenderOp α → Prop
  | ask {β : Type} {op : ManagerOp β} (inspects : Inspects op) : Sweeps β (ask op)
  | push (entry : ManagedConnection) (frame : OutboundFrame) :
      Sweeps _ (onRing entry.address (sinkTryPush entry.sink.capacity frame))
  | evict (index : SlotIndex) (entry : ManagedConnection) : Sweeps _ (evict index entry)
  | drop (ring : ShmRingProducer) : Sweeps _ (dropArc ring)

abbrev Routine {α : Type} (program : Program SenderOp α) : Prop := Composed Sweeps program

theorem ask_routine {α β : Type} {op : ManagerOp β} {next : β → Program SenderOp α}
    (inspects : Inspects op)
    (rest : ∀ reply, Routine (next reply)) : Routine ((ask op).bind next) :=
  .bind (.block (.ask inspects)) rest

theorem drop_routine {α : Type} (ring : ShmRingProducer) {rest : Program SenderOp α}
    (continues : Routine rest) : Routine ((dropArc ring).bind fun _ => rest) :=
  .bind (.block (.drop ring)) fun _ => continues

theorem dropLoaded_routine (loaded : Option ManagedConnection) : Routine (dropLoaded loaded) := by
  cases loaded with
  | none => exact .done ()
  | some entry => exact .block (.drop entry.sink)

theorem cleanupIfSame_routine (index : SlotIndex) (connectionId : UInt64) :
    Routine (cleanupIfSame index connectionId) := by
  refine ask_routine trivial fun current => ?_
  cases current with
  | none => exact .done ()
  | some entry =>
      refine .bind ?_ fun _ => .block (.drop entry.sink)
      split
      · exact .block (.evict index entry)
      · exact .done ()

theorem maybeCleanupStaleSlot_routine (index : SlotIndex) (entry : ManagedConnection) :
    Routine (maybeCleanupStaleSlot index entry) := by
  have judges : Routine (isStale entry) := ask_routine trivial fun _ => ask_routine trivial fun _ =>
    .done _
  refine .bind judges fun stale => ?_
  split
  · exact .bind (.block (.evict index entry)) fun _ => .done true
  · exact .done false

theorem lookupByToken_routine (token : SlotToken) : Routine (lookupByToken token) := by
  refine ask_routine trivial fun lookup => ?_
  simp only
  split
  · refine ask_routine trivial fun loaded => ?_
    cases loaded with
    | none => exact .done none
    | some entry =>
        simp only
        split
        · exact drop_routine entry.sink (.done none)
        · refine .bind (maybeCleanupStaleSlot_routine _ entry) fun cleaned => ?_
          split
          · exact drop_routine entry.sink (.done none)
          · exact ask_routine trivial fun _ => .done (some entry)
  · exact .done none

theorem findFreeSlotIn_routine (slots : List SlotIndex) : Routine (findFreeSlotIn slots) := by
  induction slots with
  | nil => exact .done none
  | cons index rest ih =>
      refine ask_routine trivial fun loaded => ?_
      cases loaded with
      | none => exact .done (some index)
      | some existing =>
          refine .bind (maybeCleanupStaleSlot_routine index existing) fun cleaned => ?_
          split
          · refine ask_routine trivial fun again => .bind (dropLoaded_routine again) fun _ =>
              drop_routine existing.sink ?_
            split
            · exact .done (some index)
            · exact ih
          · exact drop_routine existing.sink ih

theorem pushToEntry_routine (entry : ManagedConnection) (frame : OutboundFrame) :
    Routine (pushToEntry entry frame) := by
  refine .bind (.block (.push entry frame)) fun pushed => ?_
  cases pushed with
  | ok _ => exact .done ()
  | error _ => exact cleanupIfSame_routine _ _

theorem sharedFrame_routine (encode : UInt64 → Outcome OutboundFrame)
    (shared : Option OutboundFrame) : Routine (sharedFrame encode shared) := by
  cases shared with
  | some frame => exact .done (some frame)
  | none =>
      refine ask_routine trivial fun nanos => ?_
      split
      · exact .done _
      · exact ask_routine trivial fun _ => .done none
      · exact ask_routine trivial fun _ => .done none

theorem dispatchSlots_routine {wants : ManagedConnection → Program SenderOp Bool}
    (asks : ∀ entry, Routine (wants entry)) (encode : UInt64 → Outcome OutboundFrame)
    (slots : List SlotIndex) (shared : Option OutboundFrame) :
    Routine (dispatchSlots wants encode slots shared) := by
  induction slots generalizing shared with
  | nil => exact .done ()
  | cons index rest ih =>
      refine ask_routine trivial fun loaded => ?_
      cases loaded with
      | none => exact ih shared
      | some entry =>
          refine .bind (maybeCleanupStaleSlot_routine index entry) fun cleaned => ?_
          split
          · exact drop_routine entry.sink (ih shared)
          · refine .bind (asks entry) fun wanted => ?_
            split
            · refine .bind (sharedFrame_routine encode shared) fun framed => ?_
              cases framed with
              | none => exact .block (.drop entry.sink)
              | some frame =>
                  exact .bind (pushToEntry_routine entry frame) fun _ =>
                    drop_routine entry.sink (ih (some frame))
            · exact drop_routine entry.sink (ih shared)

theorem dispatchUpdate_routine (sender : Sender) (update : Update) :
    Routine (dispatchUpdate sender update) := by
  have asks : ∀ (test : SubscriptionFilter → Bool) (entry : ManagedConnection),
      Routine ((ask (.loadFilter entry)).bind fun filter => .done (test filter)) :=
    fun _ _ => ask_routine trivial fun _ => .done _
  cases update with
  | account update =>
      exact dispatchSlots_routine (asks fun filter => filter.matchesAccount sender.contains update)
        _ _ _
  | transaction update =>
    exact dispatchSlots_routine (asks SubscriptionFilter.matchesTransaction) _ _ _
  | slot update =>
      refine dispatchSlots_routine ?_ _ _ _
      exact fun _ => .done true

/-! Upserts and pings. -/

def Equips : {β : Type} → ManagerOp β → Prop
  | _, .compareAndSwap _ none (some _) => True
  | _, .fetchAddConnectionId => True
  | _, .nowMs => True
  | _, .bloomSeed => True
  | _, .newFilter _ => True
  | _, .loadFilter _ => True
  | _, .storeFilter _ _ => True
  | _, .storeLastSeen _ _ => True
  | _, .eventfdNew => True
  | _, .newManaged _ _ => True
  | _, .note (.refreshed _ _) => True
  | _, .note (.provisioned _) => True
  | _, _ => False

inductive Upserts : (α : Type) → Program SenderOp α → Prop
  | sweep {α : Type} {program : Program SenderOp α} (sweeps : Sweeps α program) : Upserts α program
  | ask {β : Type} {op : ManagerOp β} (equips : Equips op) : Upserts β (ask op)
  | make (display : Path → String) (path : Path) (capacity : Nat) :
    Upserts _ (createRing display path capacity)

abbrev Handles {α : Type} (program : Program SenderOp α) : Prop := Composed Upserts program

theorem Routine.handles {α : Type} {program : Program SenderOp α} (routine : Routine program) :
    Handles program :=
  routine.mono fun sweeps => .block (.sweep sweeps)

theorem ask_handles {α β : Type} {op : ManagerOp β} {next : β → Program SenderOp α}
    (equips : Equips op) (rest : ∀ reply, Handles (next reply)) : Handles ((ask op).bind next) :=
  .bind (.block (.ask equips)) rest

theorem drop_handles {α : Type} (ring : ShmRingProducer) {rest : Program SenderOp α}
    (continues : Handles rest) : Handles ((dropArc ring).bind fun _ => rest) :=
  .bind (.block (.sweep (.drop ring))) fun _ => continues

theorem touchPing_handles (ping : PingRequest) : Handles (touchPing ping) := by
  refine .bind (lookupByToken_routine ping.slotToken).handles fun found => ?_
  cases found with
  | none => exact .done false
  | some existing =>
      exact ask_handles trivial fun _ => ask_handles trivial fun _ =>
        drop_handles existing.sink (.done true)

theorem installTurn_handles (sender : Sender) (filter : Nat) (connectionId : UInt64) :
    Handles (installTurn sender filter connectionId) := by
  refine .bind (findFreeSlotIn_routine _).handles fun free => ?_
  cases free with
  | none => exact .done _
  | some slotIndex =>
      refine .bind (.block (.make _ _ _)) fun created => ?_
      cases created with
      | error error => exact .done _
      | ok ring =>
          refine ask_handles trivial fun eventfd => ?_
          cases eventfd with
          | error text => exact drop_handles ring (.done _)
          | ok _ =>
              refine ask_handles trivial fun now => ask_handles trivial fun _ =>
                ask_handles trivial fun previous => ?_
              cases previous with
              | none => exact drop_handles ring (drop_handles ring (.done _))
              | some other =>
                exact drop_handles other.sink (drop_handles ring (drop_handles ring (.done _)))

theorem upsertShm_handles (sender : Sender) (request : SubscriptionRequest) :
    Handles (upsertShm sender request) := by
  have looksUp : Handles (existingFor request) := by
    unfold existingFor
    split
    · exact .done none
    · exact (lookupByToken_routine _).handles
  refine .bind looksUp fun found => ?_
  cases found with
  | none =>
      exact ask_handles trivial fun _ => ask_handles trivial fun _ => ask_handles trivial fun _ =>
        .iterate fun _ => installTurn_handles sender _ _
  | some existing =>
      have applies : Handles (applyRequest existing request) :=
        ask_handles trivial fun _ => ask_handles trivial fun _ => .block (.ask trivial)
      refine ask_handles trivial fun _ => ask_handles trivial fun _ => .bind applies fun _ => ?_
      exact ask_handles trivial fun _ => drop_handles existing.sink (.done _)

/-! The same in smaller pieces, for what an eviction keeps at each of its steps. -/

inductive Pieces : (α : Type) → Program SenderOp α → Prop
  | sweep {β : Type} {op : ManagerOp β} (inspects : Inspects op) : Pieces β (ask op)
  | equip {β : Type} {op : ManagerOp β} (equips : Equips op) : Pieces β (ask op)
  | close (address : Nat) : Pieces _ (ask (.note (.sinkClosed address)))
  | swap (index : SlotIndex) (entry : ManagedConnection) :
    Pieces _ (ask (.compareAndSwap index (some entry) none))
  | ring {α : Type} (address : Nat) (program : Program ChannelOp α) :
    Pieces α (onRing address program)
  | drop (ring : ShmRingProducer) : Pieces _ (dropArc ring)
  | make (display : Path → String) (path : Path) (capacity : Nat) :
    Pieces _ (createRing display path capacity)

theorem Sweeps.pieces {α : Type} {program : Program SenderOp α} (sweeps : Sweeps α program) :
    Composed Pieces program := by
  cases sweeps with
  | ask inspects => exact .block (.sweep inspects)
  | push entry frame => exact .block (.ring _ _)
  | drop ring => exact .block (.drop ring)
  | evict index entry =>
      refine .bind (.bind (.block (.ring _ _)) fun _ => .block (.close _)) fun _ =>
        .bind (.block (.swap index entry)) fun previous => ?_
      cases previous with
      | none => exact .done ()
      | some other => exact .block (.drop other.sink)

theorem Routine.pieces {α : Type} {program : Program SenderOp α} (routine : Routine program) :
    Composed Pieces program :=
  routine.mono Sweeps.pieces

theorem Handles.pieces {α : Type} {program : Program SenderOp α} (handles : Handles program) :
    Composed Pieces program := by
  refine handles.mono fun upserts => ?_
  cases upserts with
  | sweep sweeps => exact sweeps.pieces
  | ask equips => exact .block (.equip equips)
  | make display path capacity => exact .block (.make display path capacity)

/-! Only the dispatchers' own calls begin a dispatch. -/

def beganUpdate : {β : Type} → SenderOp β → Option Update
  | _, .manager (.note (.dispatchBegan update)) => some update
  | _, _ => none

abbrev BeginsNone {α : Type} (program : Program SenderOp α) : Prop :=
  program.Only fun op => beganUpdate op = none

def Creates (size : Nat) : {β : Type} → SenderOp β → Prop
  | _, .manager .createDirAll => True
  | _, .manager (.createNew _) => True
  | _, .manager (.createQueue _ capacity) => capacity = size
  | _, .manager (.removeFile _) => True
  | _, .manager .panicked => True
  | _, _ => False

theorem createRing_creates (display : Path → String) (path : Path) (capacity : Nat) :
    (createRing display path capacity).Only (Creates (Nat.nextPowerOfTwo capacity)) := by
  have asks : ∀ {α β : Type} {op : ManagerOp β} {next : β → Program SenderOp α},
      Creates (Nat.nextPowerOfTwo capacity) (.manager op) →
      (∀ reply, (next reply).Only (Creates (Nat.nextPowerOfTwo capacity))) →
      ((ask op).bind next).Only (Creates (Nat.nextPowerOfTwo capacity)) :=
    fun creates rest => (Program.Only.perform creates).bind rest
  unfold createRing
  split
  · trivial
  · refine asks trivial fun parent => ?_
    cases parent with
    | error text => trivial
    | ok _ =>
        refine asks trivial fun file => ?_
        cases file with
        | error text => trivial
        | ok _ =>
            simp only
            split
            · exact asks trivial fun _ => trivial
            · refine asks rfl fun queue => ?_
              cases queue with
              | error text => exact asks trivial fun _ => trivial
              | ok address => trivial

/-- The pieces neither begin a dispatch nor open a ring. -/
def Internal : {β : Type} → SenderOp β → Prop
  | _, .manager (.note (.dispatchBegan _)) => False
  | _, .manager (.openRing _) => False
  | _, _ => True

theorem Pieces.internal {α : Type} {program : Program SenderOp α} (pieces : Pieces α program) :
    program.Only Internal := by
  cases pieces with
  | @sweep _ op inspects =>
      refine .perform ?_
      cases op with
      | note note => cases note <;> first | exact inspects.elim | trivial
      | openRing address => exact inspects.elim
      | _ => trivial
  | @equip _ op equips =>
      refine .perform ?_
      cases op with
      | note note => cases note <;> first | exact equips.elim | trivial
      | openRing address => exact equips.elim
      | _ => trivial
  | close address => exact .perform trivial
  | swap index entry => exact .perform trivial
  | ring address program => exact Program.lift_only (fun _ => trivial) program
  | drop ring =>
      refine Program.Only.bind (.perform trivial) fun last => ?_
      split
      · exact .perform trivial
      · trivial
  | make display path capacity =>
      refine (createRing_creates display path capacity).mono fun op creates => ?_
      cases op with
      | channel address op => trivial
      | manager op =>
          cases op with
          | note note => exact creates.elim
          | openRing address => exact creates.elim
          | _ => trivial

theorem Pieces.begins {α : Type} {program : Program SenderOp α} (pieces : Pieces α program) :
    BeginsNone program := by
  refine pieces.internal.mono fun op internal => ?_
  cases op with
  | channel address op => rfl
  | manager op =>
      cases op with
      | note note => cases note <;> first | exact internal.elim | rfl
      | _ => rfl

theorem senderProgram_begins {sender : Sender} {call : SenderCall}
    (other : ∀ update, call ≠ .dispatch update) : BeginsNone (senderProgram sender call) := by
  have onRings : ∀ {α : Type} address (program : Program ChannelOp α),
      BeginsNone (onRing address program) :=
    fun _ program => Program.lift_only (fun _ => rfl) program
  cases call with
  | dispatch update => exact absurd rfl (other update)
  | subscribe request =>
    exact ((upsertShm_handles sender request).pieces.only Pieces.begins).bind fun _ => .perform rfl
  | ping ping => exact ((touchPing_handles ping).pieces.only Pieces.begins).bind fun _ => trivial
  | consume ring =>
      refine Program.Only.bind (.perform rfl) fun opened => ?_
      split
      · exact onRings ring _
      · trivial
  | tryNext ring kind => exact (onRings ring _).bind fun _ => trivial
  | poll ring => exact onRings ring _

end Qlaster
