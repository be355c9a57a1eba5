import Qlaster.Sweeping
import Qlaster.Subscribing

/-!
`upsert_shm` with no concurrent step: which connection is refreshed, which slot is taken, and
what is left of a call that fails.
-/

namespace Qlaster

open Interleaving Interleaving.System

section
variable {sender : Sender} {task : SenderTask} {choices : Nat → SenderChoice} {tick bound : Nat}
  {state : SenderState}

/-! A ring is made, and either installed or dropped again. -/

def Process.withQueue (process : Process) (task : SenderTask) (path : Path) (capacity : Nat) :
    Process :=
  { process with
    channels := Function.update process.channels process.allocated
      (Channel.created SenderTask capacity)
    allocated := process.allocated + 1
    paths := Function.update process.paths process.allocated path
    handles := (task, process.allocated) :: process.handles }

/-! The system calls that the environment can refuse. -/

section
variable {α : Type} {next : Except String Unit → Program SenderOp α}
  {post : α → Nat → SenderState → Prop}

theorem ask_then {β : Type} {op : ManagerOp β} {next : β → Program SenderOp α} {reply : β}
    {after : SenderState}
    (executed : state.execManager (choices tick) task op = some (reply, after))
    (rest : (senderSystem sender).Alone task choices (next reply) (tick + 1) after post) :
    (senderSystem sender).Alone task choices ((ask op).bind next) tick state post :=
  .request executed rest

theorem createDirAll_then
    (failed : ∀ text, (senderSystem sender).Alone task choices (next (.error text))
      (tick + 1) state post)
    (made : (senderSystem sender).Alone task choices (next (.ok ())) (tick + 1) state post) :
    (senderSystem sender).Alone task choices ((ask .createDirAll).bind next) tick state post := by
  cases refused : (choices tick).refused with
  | some text => exact ask_then (by simp only [SenderState.execManager, refused]) (failed text)
  | none => exact ask_then (by simp only [SenderState.execManager, refused]) made

theorem eventfdNew_then
    (failed : ∀ text, (senderSystem sender).Alone task choices (next (.error text))
      (tick + 1) state post)
    (made : (senderSystem sender).Alone task choices (next (.ok ())) (tick + 1) state post) :
    (senderSystem sender).Alone task choices ((ask .eventfdNew).bind next) tick state post := by
  cases refused : (choices tick).refused with
  | some text => exact ask_then (by simp only [SenderState.execManager, refused]) (failed text)
  | none => exact ask_then (by simp only [SenderState.execManager, refused]) made

theorem createNew_then {path : Path}
    (failed : ∀ text, (senderSystem sender).Alone task choices (next (.error text))
      (tick + 1) state post)
    (made : path ∉ state.files → ∀ after : SenderState,
      after.process = { state.process with files := path :: state.files } →
      (senderSystem sender).Alone task choices (next (.ok ())) (tick + 1) after post) :
    (senderSystem sender).Alone task choices ((ask (.createNew path)).bind next) tick
      state post := by
  cases refused : (choices tick).refused with
  | some text => exact ask_then (by simp only [SenderState.execManager, refused]) (failed text)
  | none =>
      by_cases there : path ∈ state.files
      · exact ask_then (by simp only [SenderState.execManager, refused, there, if_true])
          (failed "File exists (os error 17)")
      · have executed : state.execManager (choices tick) task (.createNew path) = some
          (.ok (), { state with
            files := path :: state.files
            creating := Function.update state.creating task (some path) }) := by
          simp only [SenderState.execManager, refused, there, if_false]
        exact ask_then executed (made there _ rfl)

theorem createQueue_then {path : Path} {capacity : Nat}
    {next : Except String Nat → Program SenderOp α}
    (failed : ∀ text, (senderSystem sender).Alone task choices (next (.error text))
      (tick + 1) state post)
    (made : ∀ after : SenderState, after.process = state.process.withQueue task path capacity →
      (senderSystem sender).Alone task choices (next (.ok state.allocated)) (tick + 1) after post) :
    (senderSystem sender).Alone task choices ((ask (.createQueue path capacity)).bind next) tick
      state post := by
  cases refused : (choices tick).refused with
  | some text => exact ask_then (by simp only [SenderState.execManager, refused]) (failed text)
  | none =>
      have executed : state.execManager (choices tick) task (.createQueue path capacity) =
          some (.ok state.allocated, { state with
            channels := Function.update state.channels state.allocated
              (Channel.created SenderTask capacity)
            allocated := state.allocated + 1
            paths := Function.update state.paths state.allocated path
            handles := (task, state.allocated) :: state.handles
            creating := Function.update state.creating task none
            fresh := Function.update state.fresh task (some state.allocated) }) := by
        simp only [SenderState.execManager, refused]
      exact ask_then executed (made _ rfl)

end

def Process.withRing (process : Process) (task : SenderTask) (path : Path) (capacity : Nat) :
    Process :=
  { process.withQueue task path capacity with files := path :: process.files }

/-- `ShmRingProducer::create` either makes a ring with a new file or leaves everything as it was. -/
def RingCreated (task : SenderTask) (path : Path) (capacity : Nat) (before after : Process) :
    Except QlasterError ShmRingProducer → Prop
  | .error error => (∃ text, error = .shmError text) ∧ after = before
  | .ok ring => ring = ⟨before.allocated, Nat.nextPowerOfTwo capacity, path⟩ ∧ path ∉ before.files ∧
      after = before.withRing task path ring.capacity

theorem filter_ne_cons {path : Path} {files : List Path} (absent : path ∉ files) :
    (path :: files).filter (· ≠ path) = files := by
  rw [List.filter_cons_of_neg (by simp), List.filter_eq_self]
  intro other member
  simp only [decide_eq_true_eq]
  rintro rfl
  exact absent member

theorem createRing_alone {display : Path → String} {path : Path} {capacity : Nat}
    (small : capacity ≤ 2 ^ 63) :
    (senderSystem sender).Alone task choices (createRing display path capacity) tick state
      fun created _ after => RingCreated task path capacity state.process after.process
        created := by
  unfold createRing
  split
  · exact .done ⟨⟨_, rfl⟩, rfl⟩
  refine createDirAll_then (fun _ => .done ⟨⟨_, rfl⟩, rfl⟩) ?_
  refine createNew_then (fun _ => .done ⟨⟨_, rfl⟩, rfl⟩) fun absent file created => ?_
  dsimp only
  rw [if_neg (by omega)]
  refine createQueue_then (fun text => .request rfl (.done ⟨⟨_, rfl⟩, ?_⟩)) fun queue made =>
    .done ⟨?_, absent, ?_⟩
  · -- The file goes again.
    change { file.process with files := file.process.files.filter (· ≠ path) } = state.process
    rw [created]
    dsimp only
    rw [filter_ne_cons absent]
    rfl
  · rw [show file.allocated = _ from congrArg (fun process => process.allocated) created]
  · rw [made, created]
    rfl

theorem dropFresh_alone (now : UInt64) {before : Process} (registered : Registered before)
    {ring : ShmRingProducer}
    (new : ring.address = before.allocated) (absent : ring.path ∉ before.files)
    (made : state.process = before.withRing task ring.path ring.capacity) :
    (senderSystem sender).Alone task choices (dropArc ring) tick state
      fun _ _ after => Purged now before after.process := by
  have handles : state.handles.erase (task, ring.address) = before.handles := by
    rw [show state.handles = _ from congrArg (fun process => process.handles) made, new]
    exact List.erase_cons_head ..
  have slots : state.connections = before.connections :=
    congrArg (fun process => process.connections) made
  have last :
    ((state.handles.erase (task, ring.address)).any (fun handle => handle.2 = ring.address) ||
      state.tabled ring.address) = false := by
    simp only [handles, SenderState.tabled, slots, Bool.or_eq_false_iff, List.any_eq_false,
      decide_eq_true_eq, decide_eq_false_iff_not, not_exists]
    refine ⟨fun handle member same => ?_, fun index tabled => ?_⟩
    · have bound := registered.held handle member
      omega
    · obtain ⟨entry, there, address⟩ := Option.map_eq_some_iff.mp tabled
      have bound := (registered.known index entry there).1
      omega
  refine (dropArc_last last).mono ?_
  rintro _ _ _ rfl
  have files : (state.unlinked task ring).files = before.files := by
    change state.files.filter (· ≠ ring.path) = before.files
    rw [show state.files = _ from congrArg (fun process => process.files) made]
    exact filter_ne_cons absent
  have rings : ∀ address < before.allocated, (state.unlinked task ring).channels address =
      before.channels address := by
    intro address bound
    have older : address ≠ ring.address := by omega
    change Function.update state.channels ring.address _ address = _
    rw [Function.update_of_ne older, show state.channels = _ from congrArg
      (fun process => process.channels) made]
    exact Function.update_of_ne (by omega) _ _
  refine ⟨⟨?_, ?_, ?_, ?_, ?_, handles⟩, ?_, ?_⟩
  · exact fun index entry live => (congrFun slots index).trans live.tabled
  · intro index entry tabled
    have earlier : before.connections index = some entry := (congrFun slots index).symm.trans tabled
    obtain ⟨bound, there, -⟩ := registered.known index entry earlier
    refine ⟨earlier, rings entry.address bound, ?_⟩
    rw [show (state.unlinked task ring).process.files = _ from files]
    exact there
  · intro path there
    rwa [show (state.unlinked task ring).process.files = _ from files] at there
  · exact congrArg (fun process => process.lastSeen) made
  · rw [show (state.unlinked task ring).process.allocated = _ from congrArg
      (fun process => process.allocated) made]
    exact Nat.le_succ _
  · exact congrArg (fun process => process.filters) made
  · exact congrArg (fun process => process.nextConnectionId) made

theorem swapIn_then {α : Type} {index : SlotIndex} {entry : ManagedConnection}
    {next : Option ManagedConnection → Program SenderOp α} {post : α → Nat → SenderState → Prop}
    (free : state.connections index = none)
    (rest : ∀ after : SenderState, after.process =
        { state.process with connections := Function.update state.connections index (some entry) } →
      (senderSystem sender).Alone task choices (next none) (tick + 1) after post) :
    (senderSystem sender).Alone task choices
      ((ask (.compareAndSwap index none (some entry))).bind next) tick state post := by
  have executed : state.execManager (choices tick) task (.compareAndSwap index none (some entry)) =
      some (none, state.replace task index (some entry)) := by
    simp only [SenderState.execManager, free, Option.map_none, if_true]
    rfl
  exact ask_then executed (rest _ rfl)

def Process.install (process : Process) (entry : ManagedConnection) (now : UInt64) : Process :=
  { process with
    connections := Function.update process.connections entry.slotIndex (some entry)
    channels := Function.update process.channels process.allocated
      (Channel.created SenderTask entry.sink.capacity)
    lastSeen := Function.update process.lastSeen entry.address now
    allocated := process.allocated + 1
    paths := Function.update process.paths process.allocated entry.sink.path
    files := entry.sink.path :: process.files }

def slotsExhausted :
    QlasterError := .configError s!"connection slots exhausted (max {maxConnectionSlots})"

def Installs (sender : Sender) (filter : Nat) (connectionId : UInt64) (now : UInt64)
    (before after : Process) : Except QlasterError ShmSlotProvision → Prop
  | .error error =>
    (error = slotsExhausted ↔ ∀ index, ¬ before.Free now index) ∧ Purged now before after
  | .ok (.existing _) => False
  | .ok (.created token path capacity eventfd) => ∃ index mid, before.Free now index ∧
      (∀ lower < index, ¬ before.Free now lower) ∧ Purged now before mid ∧ path ∉ mid.files ∧
      path = sender.ringPath index connectionId ∧ token = ⟨UInt8.ofNat index.val, connectionId⟩ ∧
      capacity = sender.ringCapacity ∧ eventfd = mid.allocated ∧
      after = mid.install
        ⟨index, connectionId, filter, ⟨mid.allocated, Nat.nextPowerOfTwo capacity, path⟩⟩ now

theorem mem_earlier_of_lt {count : Nat} {earlier later : List (Fin count)} {index lower : Fin count}
    (split : List.finRange count = earlier ++ index :: later) (below : lower < index) :
    lower ∈ earlier := by
  have member := List.mem_finRange lower
  have sorted := List.pairwise_lt_finRange count
  rw [split] at member sorted
  rcases List.mem_append.mp member with first | rest
  · exact first
  · have above := (List.pairwise_cons.mp (List.pairwise_append.mp sorted).2.1).1
    rcases List.mem_cons.mp rest with rfl | later
    · exact absurd below (lt_irrefl _)
    · exact absurd below (lt_asymm (above lower later))

theorem installTurn_alone (settled : ∀ n, bound ≤ n → (choices n).interrupted = false)
    {now : UInt64} (constant : ∀ n, (choices n).now = now) (small : sender.ringCapacity ≤ 2 ^ 63)
    {before : Process}
    (registered : Registered before) (same : state.process = before) (filter : Nat)
    (connectionId : UInt64) :
    (senderSystem sender).Alone task choices (installTurn sender filter connectionId) tick state
      fun outcome _ after => ∃ result, outcome = .inr result ∧
        Installs sender filter connectionId now before after.process result := by
  refine Alone.bind (findFreeSlotIn_alone settled constant registered _ same) ?_
  intro found _ searched holds
  cases found with
  | none =>
      obtain ⟨unchanged, taken⟩ := holds
      refine .done
        ⟨_, rfl, ⟨fun _ index => taken index (List.mem_finRange index), fun _ => rfl⟩, ?_⟩
      rw [unchanged]
      exact .refl registered
  | some index =>
      obtain ⟨⟨earlier, later, split, taken⟩, free, empty, purged⟩ := holds
      have lowest : ∀ lower < index, ¬ before.Free now lower :=
        fun lower below => taken lower (mem_earlier_of_lt split below)
      have failed : ∀ text, QlasterError.shmError text = slotsExhausted ↔
          ∀ index, ¬ before.Free now index :=
        fun text =>
          ⟨fun same => QlasterError.noConfusion same, fun full => absurd free (full index)⟩
      have registered' := purged.registered registered
      refine Alone.bind (createRing_alone small) ?_
      intro created _ ringed made
      cases created with
      | error error =>
          obtain ⟨⟨text, rfl⟩, unchanged⟩ := made
          refine .done ⟨_, rfl, failed text, ?_⟩
          rw [unchanged]
          exact purged
      | ok ring =>
          obtain ⟨rfl, absent, made⟩ := made
          refine eventfdNew_then (fun text => ?_) ?_
          · refine Alone.bind (dropFresh_alone now registered' rfl absent made)
              fun _ _ after dropped => ?_
            exact .done ⟨_, rfl, failed _, purged.trans dropped⟩
          · let managed : ManagedConnection := ⟨index, connectionId, filter,
              ⟨searched.process.allocated, Nat.nextPowerOfTwo sender.ringCapacity,
                sender.ringPath index connectionId⟩⟩
            let installed := searched.process.install managed now
            refine ask_then rfl (ask_then rfl (swapIn_then ?_ fun swapped after => ?_))
            · exact (congrArg (fun process => process.connections index) made).trans empty
            have held : swapped.process = (installed.holding task managed).holding task
                managed := by
              rw [after, constant]
              change { ringed.process with
                handles := (task, managed.address) :: ringed.process.handles
                lastSeen := Function.update ringed.process.lastSeen managed.address now
                connections := Function.update ringed.process.connections index (some managed) } = _
              rw [made]
              rfl
            have tabled : installed.connections index = some managed := Function.update_self ..
            refine Alone.bind
              (dropHeld_alone
              (show (installed.holding task managed).connections index = _ from tabled)
              held) fun _ _ once dropped => ?_
            refine Alone.bind (dropHeld_alone tabled dropped) fun _ _ twice final => ?_
            exact .done ⟨_, rfl, index, searched.process, free, lowest, purged, absent, rfl, rfl,
              rfl, rfl, final⟩

/-! The whole call. -/

theorem applyRequest_alone {entry : ManagedConnection} (filter : SubscriptionFilter)
    (request : SubscriptionRequest) (filtered : state.filters[entry.filter]? = some filter) :
    (senderSystem sender).Alone task choices (applyRequest entry request) tick state
      fun _ _ after =>
      ∃ seed, after.process =
        { state.process with filters := state.process.filters.set entry.filter (filter.withRequest seed request) } := by
  have executed : state.execManager (choices tick) task (.loadFilter entry) = some
    (filter, { state with
      dispatched := state.observed task entry filter
      snapshots := Function.update state.snapshots task (some (entry.filter, filter)) }) := by
    simp only [SenderState.execManager, filtered]
  exact ask_then executed (ask_then rfl (.request rfl (.done ⟨_, rfl⟩)))

def Carried (now : UInt64) (request : SubscriptionRequest) (task : SenderTask)
    (before after : Process) : Option ManagedConnection → Prop
  | some entry =>
    before.Live now entry.slotIndex entry ∧ request.slotToken = some (slotToken entry) ∧
      after = before.holding task entry
  | none =>
    (∀ index entry, before.Live now index entry → request.slotToken ≠ some (slotToken entry)) ∧
      Purged now before after

theorem existingFor_alone (settled : ∀ n, bound ≤ n → (choices n).interrupted = false)
    {now : UInt64} (constant : ∀ n, (choices n).now = now) (registered : Registered state.process)
    (request : SubscriptionRequest) :
    (senderSystem sender).Alone task choices (existingFor request) tick state
      fun found _ after => Carried now request task state.process after.process found := by
  unfold existingFor
  split
  · rename_i absent
    exact .done ⟨by simp [absent], .refl registered⟩
  · rename_i token carried
    refine (lookupByToken_alone settled constant registered token).mono fun found _ after holds =>
      ?_
    cases found with
    | some entry =>
        obtain ⟨live, rfl, held⟩ := holds
        exact ⟨live, carried, held⟩
    | none =>
        obtain ⟨missing, purged⟩ := holds
        refine ⟨fun index entry live same => ?_, purged⟩
        exact missing index entry live (Option.some.inj (same.symm.trans carried))

def Process.refresh (process : Process) (entry : ManagedConnection) (now : UInt64)
    (filter : SubscriptionFilter) : Process :=
  { process with
    lastSeen := Function.update process.lastSeen entry.address now
    filters := process.filters.set entry.filter filter }

/-- The connection has all it had. -/
structure Spared (index : SlotIndex) (entry : ManagedConnection) (before after : Process) :
    Prop where
  tabled : after.connections index = some entry
  lastSeen : after.lastSeen entry.address = before.lastSeen entry.address
  filter : after.filters[entry.filter]? = before.filters[entry.filter]?
  ring : after.channels entry.address = before.channels entry.address
  file : entry.sink.path ∈ after.files

/-- What `upsert_shm` has done when it returns, at a reading of the clock. -/
structure UpsertExact (request : SubscriptionRequest) (now : UInt64) (before after : Process)
    (result : Except QlasterError ShmSlotProvision) : Prop where
  existing : ∀ token, result = .ok (.existing token) ↔
    request.slotToken = some token ∧ ∃ index entry, before.Live now index entry ∧
      slotToken entry = token
  refreshed : ∀ token, result = .ok (.existing token) → ∃ index entry filter seed,
    before.Live now index entry ∧ slotToken entry = token ∧
      before.filters[entry.filter]? = some filter ∧
      after = before.refresh entry now (filter.withRequest seed request)
  exhausted : (∀ token, result ≠ .ok (.existing token)) →
    (result = .error slotsExhausted ↔ ∀ index, ∃ entry, before.Live now index entry)
  created : ∀ token path capacity eventfd, result = .ok (.created token path capacity eventfd) →
    ∃ index entry seed, before.Free now index ∧ (∀ lower < index, ¬ before.Free now lower) ∧
      after.connections index = some entry ∧ slotToken entry = token ∧ entry.address = eventfd ∧
      before.allocated ≤ entry.address ∧ entry.sink.path = path ∧ path ∈ after.files ∧
      after.lastSeen entry.address = now ∧
        after.filters[entry.filter]? = some (.fromRequest seed request) ∧
      ∀ other ≠ index, ∀ found, after.connections other = some found →
        before.connections other = some found
  others : ∀ index entry, before.Live now index entry → result ≠ .ok (.existing (slotToken entry)) →
    Spared index entry before after
  rings : ∀ index entry, before.Live now index entry →
    after.channels entry.address = before.channels entry.address ∧ entry.sink.path ∈ after.files
  failed : ∀ error, result = .error error →
    (∀ index entry, after.connections index = some entry → before.connections index = some entry) ∧
      ∀ path, path ∈ after.files → path ∈ before.files

theorem Table.not_free_iff {table : Table} {now : UInt64} {index : SlotIndex} :
    ¬ table.Free now index ↔ ∃ entry, table.Live now index entry := by
  constructor
  · intro taken
    simp only [Table.Free, not_forall] at taken
    obtain ⟨entry, tabled, seen⟩ := taken
    exact ⟨entry, tabled, by simpa using seen⟩
  · rintro ⟨entry, live⟩
    exact live.not_free

theorem UpsertExact.ofRefresh {request : SubscriptionRequest} {now : UInt64} {before : Process}
    (registered : Registered before) {entry : ManagedConnection}
    (live : before.Live now entry.slotIndex entry)
    (carried : request.slotToken = some (slotToken entry)) {filter : SubscriptionFilter}
    (filtered : before.filters[entry.filter]? = some filter) (seed : Nat) :
    UpsertExact request now before (before.refresh entry now (filter.withRequest seed request))
      (.ok (.existing (slotToken entry))) where
  existing token := by
    constructor
    · rintro ⟨rfl⟩
      exact ⟨carried, _, entry, live, rfl⟩
    · rintro ⟨asked, -⟩
      rw [Option.some.inj (carried.symm.trans asked)]
  refreshed token same := by
    obtain rfl : slotToken entry = token := by simpa using same
    exact ⟨_, entry, filter, seed, live, rfl, filtered, rfl⟩
  exhausted never := absurd rfl (never _)
  created := by simp
  others index found live' different := by
    have elsewhere : index ≠ entry.slotIndex := by
      rintro rfl
      obtain rfl := Option.some.inj (live'.tabled.symm.trans live.tabled)
      exact different rfl
    obtain ⟨ring, -, cell⟩ := registered.apart _ _ found entry live'.tabled live.tabled elsewhere
    refine ⟨live'.tabled, Function.update_of_ne ring _ _, ?_, rfl,
      (registered.known index found live'.tabled).2.1⟩
    exact List.getElem?_set_ne cell.symm
  rings index found live' := ⟨rfl, (registered.known index found live'.tabled).2.1⟩
  failed := by simp

def Process.prepare (process : Process) (filter : SubscriptionFilter) : Process :=
  { process with
    filters := process.filters ++ [filter]
    nextConnectionId := process.nextConnectionId + 1 }

section
variable {now : UInt64} {before mid after : Process}

theorem Registered.prepare (registered : Registered before) (filter : SubscriptionFilter) :
    Registered (before.prepare filter) := by
  refine ⟨registered.indexed, fun index entry tabled => ?_, registered.apart, registered.held⟩
  obtain ⟨bound, file, cell⟩ := registered.known index entry tabled
  refine ⟨bound, file, ?_⟩
  rw [Process.prepare, List.length_append]
  omega

theorem Purged.prepare (purged : Purged now before mid) (registered : Registered before)
    (filter : SubscriptionFilter) : Swept now before (mid.prepare filter) := by
  refine purged.toSwept.trans ⟨fun _ _ live => live.tabled, fun index entry tabled =>
    ?_, fun _ => id, rfl,
    Nat.le_refl _, rfl⟩
  exact ⟨tabled, rfl, ((purged.registered registered).known index entry tabled).2.1⟩

theorem Swept.spares (swept : Swept now before after) (registered : Registered before)
    {filter : SubscriptionFilter}
    (filters : after.filters = before.filters ++ [filter]) {index : SlotIndex}
    {entry : ManagedConnection}
    (live : before.Live now index entry) : Spared index entry before after := by
  have tabled := swept.live index entry live
  obtain ⟨-, ring, file⟩ := swept.kept index entry tabled
  refine ⟨tabled, by rw [swept.lastSeen], ?_, ring, file⟩
  rw [filters]
  exact List.getElem?_append_left (registered.known index entry live.tabled).2.2

theorem Spared.install {index : SlotIndex} {entry new : ManagedConnection}
    (spared : Spared index entry before mid)
    (elsewhere : index ≠ new.slotIndex) (address : new.address = mid.allocated)
    (older : entry.address < mid.allocated) : Spared index entry before (mid.install new now) where
  tabled := by
    rw [← spared.tabled]
    exact Function.update_of_ne elsewhere _ _
  lastSeen := by
    rw [← spared.lastSeen]
    exact Function.update_of_ne (by omega) _ _
  filter := spared.filter
  ring := by
    rw [← spared.ring]
    exact Function.update_of_ne (by omega) _ _
  file := List.mem_cons_of_mem _ spared.file

theorem UpsertExact.ofInstalls {sender : Sender} {request : SubscriptionRequest} {seed : Nat}
    {result : Except QlasterError ShmSlotProvision} (registered : Registered before)
    (missing : ∀ index entry, before.Live now index entry →
      request.slotToken ≠ some (slotToken entry))
    (purged : Purged now before mid)
    (installs : Installs sender mid.filters.length mid.nextConnectionId now
      (mid.prepare (.fromRequest seed request))
      after result) : UpsertExact request now before after result := by
  have prepared := purged.prepare registered (.fromRequest seed request)
  have unfound : ∀ token, ¬ (request.slotToken = some token ∧
      ∃ index entry, before.Live now index entry ∧ slotToken entry = token) := by
    rintro _ ⟨carried, index, entry, live, rfl⟩
    exact missing index entry live carried
  have full : (∀ index, ¬ (mid.prepare (.fromRequest seed request)).Free now index) ↔
      ∀ index, ∃ entry, before.Live now index entry :=
    forall_congr' fun index => (not_congr (prepared.free_iff index)).trans Table.not_free_iff
  rcases result with error | ⟨token | ⟨token, path, capacity, eventfd⟩⟩
  · obtain ⟨reported, purged'⟩ := installs
    have swept := prepared.trans purged'.toSwept
    have filters : after.filters = before.filters ++ [.fromRequest seed request] := by
      rw [purged'.filters, ← purged.filters]
      rfl
    have spared : ∀ index entry, before.Live now index entry → Spared index entry before after :=
      fun index entry live => swept.spares registered filters live
    refine ⟨fun token =>
      ⟨by simp, fun found => absurd found (unfound token)⟩, by
      simp, fun _ => ?_, by simp, ?_, ?_, ?_⟩
    · rw [Except.error.injEq, reported, full]
    · exact fun index entry live _ => spared index entry live
    · exact fun index entry live => ⟨(spared index entry live).ring, (spared index entry live).file⟩
    · exact fun _ _ => ⟨fun index entry tabled => (swept.kept index entry tabled).1, swept.files⟩
  · exact installs.elim
  · obtain ⟨index, searched, free, lowest, purged', absent, rfl, rfl, rfl, rfl, rfl⟩ := installs
    have swept := prepared.trans purged'.toSwept
    have filters : searched.filters = before.filters ++ [.fromRequest seed request] := by
      rw [purged'.filters, ← purged.filters]
      rfl
    have free' := (prepared.free_iff index).mp free
    have spared : ∀ other entry, before.Live now other entry → Spared other entry before
        (searched.install ⟨index, mid.nextConnectionId, mid.filters.length, ⟨searched.allocated,
          Nat.nextPowerOfTwo sender.ringCapacity, sender.ringPath index mid.nextConnectionId⟩⟩
            now) := by
      intro other entry live
      refine (swept.spares registered filters live).install ?_ rfl ?_
      · rintro rfl
        exact live.not_free free'
      · exact (registered.known other entry live.tabled).1.trans_le swept.allocated
    refine ⟨fun token =>
      ⟨by simp, fun found => absurd found (unfound token)⟩, by
      simp, fun _ => ?_, ?_, ?_, ?_, by simp⟩
    · refine ⟨by simp, fun taken => ?_⟩
      obtain ⟨entry, live⟩ := taken index
      exact absurd free' live.not_free
    · rintro _ _ _ _ ⟨⟩
      refine ⟨index, _, seed, free', fun lower below => ?_, Function.update_self .., rfl, rfl,
        swept.allocated, rfl,
        List.mem_cons_self .., Function.update_self .., ?_, fun other elsewhere found there => ?_⟩
      · rw [← prepared.free_iff]
        exact lowest lower below
      · change searched.filters[mid.filters.length]? = _
        rw [filters, purged.filters, List.getElem?_concat_length]
      · have earlier : searched.connections other = some found :=
          (Function.update_of_ne elsewhere _ _).symm.trans there
        exact (swept.kept other found earlier).1
    · exact fun other entry live _ => spared other entry live
    · exact fun other entry live => ⟨(spared other entry live).ring, (spared other entry live).file⟩

end

theorem upsertShm_alone (settled : ∀ n, bound ≤ n → (choices n).interrupted = false) {now : UInt64}
    (constant : ∀ n, (choices n).now = now) (small : sender.ringCapacity ≤ 2 ^ 63)
    (registered : Registered state.process) (request : SubscriptionRequest) :
    (senderSystem sender).Alone task choices (upsertShm sender request) tick state
      fun result _ after => UpsertExact request now state.process after.process result := by
  refine Alone.bind (existingFor_alone settled constant registered request) ?_
  intro found _ mid holds
  cases found with
  | some existing =>
      obtain ⟨live, carried, held⟩ := holds
      obtain ⟨filter, filtered⟩ : ∃ filter, state.process.filters[existing.filter]? = some filter :=
        ⟨_, List.getElem?_eq_getElem (registered.known _ existing live.tabled).2.2⟩
      refine ask_then rfl (ask_then rfl (Alone.bind (applyRequest_alone filter request ?_) ?_))
      · exact (congrArg (fun process => process.filters[existing.filter]?) held).trans filtered
      rintro _ _ applied ⟨seed, after⟩
      have held' :
        applied.process =
        (state.process.refresh existing now (filter.withRequest seed request)).holding
          task existing := by
        rw [after, constant]
        change { mid.process with
          lastSeen := Function.update mid.process.lastSeen existing.address now
          filters := mid.process.filters.set existing.filter (filter.withRequest seed request) } = _
        rw [held]
        rfl
      have tabled :
        (state.process.refresh existing now (filter.withRequest seed request)).connections
          existing.slotIndex = some existing := live.tabled
      refine ask_then rfl (Alone.bind (dropHeld_alone tabled held') fun _ _ final same => .done ?_)
      rw [same]
      exact .ofRefresh registered live carried filtered seed
  | none =>
      obtain ⟨missing, purged⟩ := holds
      refine ask_then rfl (ask_then rfl (ask_then rfl (.loop ?_)))
      refine Alone.bind (installTurn_alone settled constant small
        ((purged.registered registered).prepare _) rfl _ _) ?_
      rintro _ _ after ⟨result, rfl, installs⟩
      exact .done (.ofInstalls registered missing purged installs)

end

/--
With no concurrent step `upsert_shm` returns from every reachable state: it refreshes the live
connection whose token the request carries, or installs a new one in the lowest free slot, or
fails; other live connections keep all they have, and a call that fails leaves nothing behind.
The capacity is one that `next_power_of_two` can be taken of.
-/
theorem upsert_exact (sender : Sender) (small : sender.ringCapacity ≤ 2 ^ 63) (files : List Path)
    (config : Config SenderOp SenderTask SenderState)
    (run : (senderSystem sender).Reachable (senderStart files) config) (connection : Nat)
    (request : SubscriptionRequest)
    (running : config.pool (.handler connection) = senderProgram sender (.subscribe request))
    (choices : Nat → SenderChoice) (now : UInt64) (constant : ∀ n, (choices n).now = now)
    (bound : Nat) (settled : ∀ n, bound ≤ n → (choices n).interrupted = false) :
    ∃ steps final result, (senderSystem sender).schedule config
        ((List.range steps).map fun n => .step (.handler connection) (choices n)) = some final ∧
      final.pool (.handler connection) = ask (.note (.provisioned result)) ∧
      UpsertExact request now config.shared.process final.shared.process result := by
  have alone : (senderSystem sender).Alone (.handler connection) choices (upsertShm sender request)
    0 config.shared
      fun result _ after => UpsertExact request now config.shared.process after.process result :=
    upsertShm_alone settled constant small (registered run) request
  obtain ⟨result, steps, after, exact, ran⟩ :=
    alone.scheduled config.pool fun result => ask (.note (.provisioned result))
  have same : Function.update config.pool (.handler connection)
      ((upsertShm sender request).bind fun result => ask (.note (.provisioned result))) =
        config.pool := by
    rw [show (upsertShm sender request).bind _ = _ from running.symm, Function.update_eq_self]
  rw [same, ← List.range_eq_range'] at ran
  exact ⟨steps, _, result, ran, Function.update_self .., exact⟩

-- A second call with the token of the connection that the first has installed.
theorem upsert_exact_again :
    ∃ config final result, config.shared.connections sampleEntry.slotIndex = some sampleEntry ∧
      config.pool (.handler 1) = senderProgram sampleSender (.subscribe (moreKeys 1)) ∧
      (senderSystem sampleSender).Reachable config final ∧
      final.pool (.handler 1) = ask (.note (.provisioned result)) ∧
      UpsertExact (moreKeys 1) 0 config.shared.process final.shared.process result := by
  have ran : ((senderSystem sampleSender).schedule (senderStart [])
      ([.start (.handler 0) (.subscribe sampleRequest)] ++ takes (.handler 0) 15)).any
        (fun config =>
        config.shared.connections sampleEntry.slotIndex = some sampleEntry ∧
        (config.pool (.handler 1)).isDone) = true := by
    decide +kernel
  obtain ⟨config, run, checked⟩ := System.schedule_finds ran
  obtain ⟨installed, idle⟩ := of_decide_eq_true checked
  let begun : Config SenderOp SenderTask SenderState :=
    ⟨config.shared, Function.update config.pool (.handler 1)
      (senderProgram sampleSender (.subscribe (moreKeys 1)))⟩
  have started : (senderSystem sampleSender).Reachable (senderStart []) begun :=
    run.step (.start (SenderTask.handler 1) (SenderCall.subscribe (moreKeys 1))
      (Program.eq_done idle) rfl)
  have running : begun.pool (.handler 1) = senderProgram sampleSender (.subscribe (moreKeys 1)) :=
    Function.update_self (.handler 1) _ config.pool
  obtain ⟨steps, final, result, finished, returned, exact⟩ := upsert_exact sampleSender (by decide)
    [] begun started 1 (moreKeys 1) running (fun _ => {}) 0 (fun _ => rfl) 0 (fun _ _ => rfl)
  exact ⟨begun, final, result, installed, running, System.schedule_reachable finished,
    returned, exact⟩

end Qlaster
