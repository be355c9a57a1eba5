import Qlaster.Calling
import Qlaster.Handshake

/-!
The slot table as a machine of its own: ids are issued, connections installed and
evicted, tokens handed out and looked up. The sender's steps are steps of this
machine, so its invariants hold in every run of the sender.
-/

namespace Qlaster

open Interleaving Interleaving.Discipline

/-- The table with its history. -/
structure SlotTable where
  connections : SlotIndex → Option ManagedConnection
  installed : List ManagedConnection
  removed : List Nat
  ordinals : List Nat
  issued : Nat
  claims : SenderTask → Option Nat
  resolved : List (SlotToken × List Nat × ManagedConnection)
  tokens : List (SlotToken × Nat)

inductive SlotTable.Step (task : SenderTask) (table : SlotTable) : SlotTable → Prop
  | idle : Step task table table
  | issue (unclaimed : table.claims task = none) :
      Step task table { table with
        issued := table.issued + 1
        claims := Function.update table.claims task (some table.issued) }
  | install (entry : ManagedConnection) (ordinal : Nat) (claimed : table.claims task = some ordinal)
      (numbered : entry.connectionId = UInt64.ofNat (ordinal + 1))
      (new : ∀ other ∈ table.installed, other.address ≠ entry.address) :
      Step task table { table with
        connections := Function.update table.connections entry.slotIndex (some entry)
        installed := table.installed ++ [entry]
        ordinals := table.ordinals ++ [ordinal]
        claims := Function.update table.claims task none }
  | evict (entry : ManagedConnection) (here : table.connections entry.slotIndex = some entry) :
      Step task table { table with
        connections := Function.update table.connections entry.slotIndex none
        removed := table.removed ++ [entry.address] }
  | resolve (entry : ManagedConnection) (member : entry ∈ table.installed) (earlier : List Nat)
      (present : entry.address ∉ earlier) :
      Step task table { table with
        resolved := table.resolved ++ [(slotToken entry, earlier, entry)] }
  | decline : Step task table { table with claims := Function.update table.claims task none }
  | hand (entry : ManagedConnection) (member : entry ∈ table.installed) :
      Step task table { table with
        claims := Function.update table.claims task none
        tokens := (slotToken entry, entry.address) :: table.tokens }

theorem SlotTable.Step.member {task : SenderTask} {before after : SlotTable}
    (step : SlotTable.Step task before after) {entry : ManagedConnection}
    (member : entry ∈ after.installed) :
    entry ∈ before.installed ∨ after.connections entry.slotIndex = some entry := by
  cases step with
  | install new ordinal claimed numbered fresh =>
      rcases List.mem_append.mp member with old | added
      · exact .inl old
      · rw [List.mem_singleton.mp added]
        exact .inr (by simp)
  | _ => exact .inl member

theorem SlotTable.Step.issued_le {task : SenderTask} {before after : SlotTable}
    (step : SlotTable.Step task before after) : before.issued ≤ after.issued := by
  cases step with
  | issue unclaimed => exact Nat.le_succ _
  | _ => exact Nat.le_refl _

/-! Ids. -/

/-- Every connection has an id of its own, and so has every id that is still to be used. -/
structure Numbered (installed : List ManagedConnection) (ordinals : List Nat) (issued : Nat)
    (claims : SenderTask → Option Nat) : Prop where
  counted : installed.map ManagedConnection.connectionId = ordinals.map fun ordinal =>
    UInt64.ofNat (ordinal + 1)
  distinct : ordinals.Nodup
  below : ∀ ordinal ∈ ordinals, ordinal < issued
  pending : ∀ task ordinal, claims task = some ordinal → ordinal < issued ∧ ordinal ∉ ordinals
  pending_once : Exclusive claims

section
variable {installed : List ManagedConnection} {ordinals : List Nat} {issued : Nat}
  {claims : SenderTask → Option Nat}

theorem Numbered.issue (numbered : Numbered installed ordinals issued claims) (task : SenderTask) :
    Numbered installed ordinals (issued + 1) (Function.update claims task (some issued)) := by
  refine ⟨numbered.counted, numbered.distinct, ?_, ?_, ?_⟩
  · exact fun ordinal member => Nat.lt_succ_of_lt (numbered.below ordinal member)
  · intro other ordinal found
    by_cases same : other = task
    · subst same
      simp only [Function.update_self, Option.some.injEq] at found
      subst ordinal
      exact ⟨by omega, fun member => Nat.lt_irrefl _ (numbered.below _ member)⟩
    · rw [Function.update_of_ne same] at found
      obtain ⟨bound, unused⟩ := numbered.pending other ordinal found
      exact ⟨by omega, unused⟩
  · exact numbered.pending_once.assign fun other found =>
      Nat.lt_irrefl _ (numbered.pending other issued found).1

theorem Numbered.decline (numbered : Numbered installed ordinals issued claims)
    (task : SenderTask) :
    Numbered installed ordinals issued (Function.update claims task none) := by
  refine ⟨numbered.counted, numbered.distinct, numbered.below, ?_, numbered.pending_once.clear task⟩
  exact fun other ordinal found => numbered.pending other ordinal (owner_of_cleared found).2

theorem Numbered.install (numbered : Numbered installed ordinals issued claims) {task : SenderTask}
    {ordinal : Nat} (claimed : claims task = some ordinal) {entry : ManagedConnection}
    (id : entry.connectionId = UInt64.ofNat (ordinal + 1)) :
    Numbered (installed ++ [entry]) (ordinals ++ [ordinal]) issued
      (Function.update claims task none) := by
  obtain ⟨bound, unused⟩ := numbered.pending task ordinal claimed
  refine ⟨?_, ?_, ?_, ?_, numbered.pending_once.clear task⟩
  · simp [numbered.counted, id]
  · exact List.nodup_append_comm.mp (List.nodup_cons.mpr ⟨unused, numbered.distinct⟩)
  · intro other member
    rcases List.mem_append.mp member with old | new
    · exact numbered.below other old
    · rwa [List.mem_singleton.mp new]
  · intro other pending found
    obtain ⟨found, different⟩ := numbered.pending_once.others claimed found
    obtain ⟨bound', unused'⟩ := numbered.pending other pending found
    refine ⟨bound', fun member => ?_⟩
    rcases List.mem_append.mp member with old | new
    · exact unused' old
    · exact different (List.mem_singleton.mp new)

end

theorem connectionId_toNat {ordinal issued : Nat} (bound : ordinal < issued)
    (few : issued < 2 ^ 64 - 1) : (UInt64.ofNat (ordinal + 1)).toNat = ordinal + 1 := by
  rw [UInt64.toNat_ofNat']
  exact Nat.mod_eq_of_lt (by omega)

theorem Numbered.ids_nodup {installed : List ManagedConnection} {ordinals : List Nat} {issued : Nat}
    {claims : SenderTask → Option Nat} (numbered : Numbered installed ordinals issued claims)
    (few : issued < 2 ^ 64 - 1) : (installed.map ManagedConnection.connectionId).Nodup := by
  -- Two connections with one id would have been numbered by one `fetch_add`.
  rw [numbered.counted]
  refine List.Nodup.map_on (fun first member second member' same => ?_) numbered.distinct
  have equal := congrArg UInt64.toNat same
  rw [connectionId_toNat (numbered.below first member) few,
    connectionId_toNat (numbered.below second member') few] at equal
  omega

theorem Numbered.unused {installed : List ManagedConnection} {ordinals : List Nat} {issued : Nat}
    {claims : SenderTask → Option Nat} (numbered : Numbered installed ordinals issued claims)
    (few : issued < 2 ^ 64 - 1) {task : SenderTask} {ordinal : Nat}
    (claimed : claims task = some ordinal) {entry : ManagedConnection}
    (member : entry ∈ installed) : entry.connectionId ≠ UInt64.ofNat (ordinal + 1) := by
  intro clash
  obtain ⟨bound, fresh⟩ := numbered.pending task ordinal claimed
  have listed := List.mem_map_of_mem (f := ManagedConnection.connectionId) member
  rw [numbered.counted] at listed
  obtain ⟨used, listed, same⟩ := List.mem_map.mp listed
  have equal := congrArg UInt64.toNat (same.trans clash)
  rw [connectionId_toNat (numbered.below used listed) few, connectionId_toNat bound few] at equal
  obtain rfl : used = ordinal := by omega
  exact fresh listed

theorem Numbered.id_below {installed : List ManagedConnection} {ordinals : List Nat} {issued : Nat}
    {claims : SenderTask → Option Nat} (numbered : Numbered installed ordinals issued claims)
    (few : issued < 2 ^ 64 - 1) {entry : ManagedConnection} (member : entry ∈ installed) :
    entry.connectionId.toNat ≤ issued := by
  have listed := List.mem_map_of_mem (f := ManagedConnection.connectionId) member
  rw [numbered.counted] at listed
  obtain ⟨ordinal, used, same⟩ := List.mem_map.mp listed
  have bound := numbered.below ordinal used
  rw [← same, connectionId_toNat bound few]
  omega

/-! The invariant of the table. -/

structure SlotTable.Sound (table : SlotTable) : Prop where
  numbered : Numbered table.installed table.ordinals table.issued table.claims
  once : (table.installed.map ManagedConnection.address).Nodup
  resolved : ∀ token earlier entry, (token, earlier, entry) ∈ table.resolved →
    entry ∈ table.installed ∧ slotToken entry = token ∧ entry.address ∉ earlier
  tokens : ∀ token address, (token, address) ∈ table.tokens →
    ∃ entry ∈ table.installed, entry.address = address ∧ slotToken entry = token

theorem SlotTable.Step.sound {task : SenderTask} {before after : SlotTable}
    (step : SlotTable.Step task before after) (sound : before.Sound) : after.Sound := by
  cases step with
  | idle => exact sound
  | issue unclaimed => exact ⟨sound.numbered.issue task, sound.once, sound.resolved, sound.tokens⟩
  | install entry ordinal claimed numbered new =>
      refine ⟨sound.numbered.install claimed numbered, ?_, ?_, ?_⟩
      · simp only [List.map_append, List.map_cons, List.map_nil]
        refine List.nodup_append_comm.mp (List.nodup_cons.mpr ⟨?_, sound.once⟩)
        intro member
        obtain ⟨other, installed, same⟩ := List.mem_map.mp member
        exact new other installed same
      · intro token earlier found member
        obtain ⟨installed, issued⟩ := sound.resolved token earlier found member
        exact ⟨List.mem_append_left _ installed, issued⟩
      · intro token address member
        obtain ⟨found, installed, issued⟩ := sound.tokens token address member
        exact ⟨found, List.mem_append_left _ installed, issued⟩
  | evict entry here => exact ⟨sound.numbered, sound.once, sound.resolved, sound.tokens⟩
  | resolve entry member earlier present =>
      refine ⟨sound.numbered, sound.once, ?_, sound.tokens⟩
      intro token earlier' found noted
      rcases List.mem_append.mp noted with old | new
      · exact sound.resolved token earlier' found old
      · simp only [List.mem_singleton, Prod.mk.injEq] at new
        obtain ⟨rfl, rfl, rfl⟩ := new
        exact ⟨member, rfl, present⟩
  | decline => exact ⟨sound.numbered.decline task, sound.once, sound.resolved, sound.tokens⟩
  | hand entry member =>
      refine ⟨sound.numbered.decline task, sound.once, sound.resolved, ?_⟩
      intro token address noted
      rcases List.mem_cons.mp noted with new | old
      · obtain ⟨rfl, rfl⟩ := Prod.mk.inj new
        exact ⟨entry, member, rfl, rfl⟩
      · exact sound.tokens token address old

/-! The sender runs the table. -/

def SenderState.slotTable (state : SenderState) : SlotTable where
  connections := state.connections
  installed := state.installed
  removed := state.removed
  ordinals := state.ordinals
  issued := state.issued
  claims := state.claims
  resolved := state.resolved
  tokens := state.tokens

section
variable {sender : Sender} {choice : SenderChoice} {task : SenderTask} {before after : SenderState}

theorem swap_slotTable {index : SlotIndex} {current new previous : Option ManagedConnection}
    (inv : SenderInv sender before)
    (guarded : managerGuard sender task (.compareAndSwap index current new) before)
    (executed : before.execManager choice task (.compareAndSwap index current new) =
      some (previous, after)) : SlotTable.Step task before.slotTable after.slotTable := by
  cases inv.swap guarded executed with
  | evicted entry here =>
      have step : SlotTable.Step task before.slotTable _ := .evict entry here
      simpa [SenderState.slotTable, SenderState.hold, SenderState.replace, here] using step
  | missed entry elsewhere => exact .idle
  | installed entry free =>
      obtain ⟨-, mine, -, -, -, -, ordinal, claimed, numbered⟩ := guarded
      have new := (inv.owned.pristine task entry.address mine).2
      have step : SlotTable.Step task before.slotTable _ :=
        .install entry ordinal claimed numbered new
      simpa [SenderState.slotTable, SenderState.replace, free, claimed] using step
  | lost entry other taken => exact .idle

theorem note_slotTable {note : SenderNote}
    (guarded : managerGuard sender task (.note note) before) :
    SlotTable.Step task before.slotTable (before.record task note).slotTable := by
  match note with
  | .lookupReturned lookup entry =>
      obtain ⟨member, ⟨token, earlier⟩, begun, issued, present⟩ := guarded
      have step : SlotTable.Step task before.slotTable _ := .resolve entry member earlier present
      rw [issued] at step
      simpa [SenderState.slotTable, SenderState.record, begun] using step
  | .provisioned (.ok (.created token path capacity eventfd)) =>
      obtain ⟨entry, member, rfl, rfl, -⟩ := guarded
      exact .hand entry member
  | .provisioned (.ok (.existing _)) => exact .decline
  | .provisioned (.error _) => exact .decline
  | .dispatchBegan _ => exact .idle
  | .sinkClosed _ => exact .idle
  | .refreshed _ _ => exact .idle

theorem exec_slotTable {β : Type} {op : SenderOp β} {reply : β} (inv : SenderInv sender before)
    (guarded : senderGuard sender task op before)
    (executed : before.exec choice task op = some (reply, after)) :
    SlotTable.Step task before.slotTable after.slotTable := by
  cases op with
  | channel address op =>
      obtain ⟨-, -, -, -, rfl⟩ := SenderState.execChannel_exec inv executed
      exact .idle
  | manager op =>
      simp only [SenderState.exec] at executed
      cases op with
      | compareAndSwap index current new => exact swap_slotTable inv guarded executed
      | note note =>
          simp only [SenderState.execManager, Option.some.injEq, Prod.mk.injEq] at executed
          obtain ⟨-, rfl⟩ := executed
          exact note_slotTable guarded
      | fetchAddConnectionId =>
          simp only [SenderState.execManager, Option.some.injEq, Prod.mk.injEq] at executed
          obtain ⟨-, rfl⟩ := executed
          exact .issue guarded
      | _ =>
          simp only [SenderState.execManager] at executed
          repeat' split at executed
          all_goals simp only [reduceCtorEq, Option.some.injEq, Prod.mk.injEq] at executed
          all_goals obtain ⟨-, rfl⟩ := executed
          all_goals exact .idle

theorem slotTable_persistent : (sending sender).Persistent fun state => state.slotTable.Sound :=
  fun _ _ _ _ _ _ _ inv guarded executed sound => (exec_slotTable inv guarded executed).sound sound

theorem slotTable_created (files : List Path) : (SenderState.created files).slotTable.Sound := by
  refine ⟨⟨rfl, List.nodup_nil, ?_, ?_, ?_⟩, List.nodup_nil, ?_, ?_⟩ <;>
    simp [SenderState.slotTable, SenderState.created, Exclusive]

end

def sampleSender : Sender := ⟨sampleCodecs, exactBloom, 7, [47, 113], 128, sampleLossy⟩

def sampleRequest : SubscriptionRequest := ⟨none, [sampleAccountUpdate.accountPubkey], [], false⟩

abbrev SenderCommand := System.Command SenderTask SenderChoice SenderCall

def takes (task : SenderTask) (count : Nat) (choice : SenderChoice := {}) : List SenderCommand :=
  List.replicate count (.step task choice)

def late : SenderChoice := { now := 40000 }

section
variable {sender : Sender} {files : List Path} {config : Config SenderOp SenderTask SenderState}

theorem slotTable_sound (run : (senderSystem sender).Reachable (senderStart files) config) :
    config.shared.slotTable.Sound :=
  Sound.always senderCall_triple slotTable_persistent (sender_sound sender files)
    (slotTable_created files) run

theorem sender_inv (run : (senderSystem sender).Reachable (senderStart files) config) :
    SenderInv sender config.shared :=
  (Sound.reachable senderCall_triple (sender_sound sender files) run).inv

/-- What the table, its ids, its tokens and the ring files promise. -/
structure SlotTableCorrect (state : SenderState) : Prop where
  placed : ∀ index entry, state.connections index = some entry → entry.slotIndex = index
  ids : (state.installed.map ManagedConnection.connectionId).Nodup
  below : ∀ entry ∈ state.installed, entry.connectionId < state.nextConnectionId
  -- A token was issued for one connection only.
  tokens : ∀ token address, (token, address) ∈ state.tokens → ∃ entry ∈ state.installed,
    entry.address = address ∧ ∀ other ∈ state.installed, slotToken other = token ↔ other = entry
  -- A lookup returns the connection of its token, unless that was removed before it began.
  resolved : ∀ token earlier entry, (token, earlier, entry) ∈ state.resolved →
    entry ∈ state.installed ∧ entry.address ∉ earlier ∧
      ∀ other ∈ state.installed, slotToken other = token ↔ other = entry
  paths : ∀ first second, first < state.allocated → second < state.allocated →
    (state.channels first).linked = true → (state.channels second).linked = true →
    state.paths first = state.paths second → first = second
  files : ∀ index entry, state.connections index = some entry →
    entry.address < state.allocated ∧ (state.channels entry.address).linked = true ∧
      entry.sink.path = state.paths entry.address ∧ entry.sink.path ∈ state.files

theorem slotToken_unique {installed : List ManagedConnection}
    (ids : (installed.map ManagedConnection.connectionId).Nodup) {entry other : ManagedConnection}
    (member : entry ∈ installed) (member' : other ∈ installed) :
    slotToken other = slotToken entry ↔ other = entry := by
  refine ⟨fun same => ?_, fun same => same ▸ rfl⟩
  exact List.inj_on_of_nodup_map ids member' member (congrArg SlotToken.generation same)

/--
In every run with fewer than `2 ^ 64 - 1` ids taken, however the upserts and evictions
interleave, each entry is in the slot it names, ids never repeat, a token resolves only to
the connection it was issued for and never once that is gone, and live rings have files of
their own, so that removing one never takes away another's.
-/
theorem slot_table_correct (run : (senderSystem sender).Reachable (senderStart files) config)
    (few : config.shared.issued < 2 ^ 64 - 1) : SlotTableCorrect config.shared := by
  have inv := sender_inv run
  have sound := slotTable_sound run
  have ids := sound.numbered.ids_nodup few
  refine ⟨?_, ids, ?_, ?_, ?_, ?_, ?_⟩
  · exact fun index entry here => (inv.tabled.slot index entry here).1
  · intro entry member
    have bound := sound.numbered.id_below few member
    rw [UInt64.lt_iff_toNat_lt, inv.described.counted, UInt64.toNat_ofNat',
      Nat.mod_eq_of_lt (by omega)]
    exact Nat.lt_succ_of_le bound
  · intro token address issued
    obtain ⟨entry, member, here, rfl⟩ := sound.tokens token address issued
    exact ⟨entry, member, here, fun other member' => slotToken_unique ids member member'⟩
  · intro token earlier entry returned
    obtain ⟨member, rfl, present⟩ := sound.resolved token earlier entry returned
    exact ⟨member, present, fun other member' => slotToken_unique ids member member'⟩
  · exact fun first second bound bound' alive alive' =>
      inv.filed.distinct first bound second bound' alive alive'
  · intro index entry here
    obtain ⟨-, member, -⟩ := inv.tabled.slot index entry here
    have bound := inv.owned.numbered entry member
    have alive := inv.owned.tabled index entry here
    have path := (inv.described.path entry member).1
    refine ⟨bound, alive, path, ?_⟩
    rw [path]
    exact inv.filed.present entry.address bound alive

end

-- Two upserts race for the first slot; the loser drops its ring and takes the second.
theorem slot_table_correct_race :
    ∃ config, (senderSystem sampleSender).Reachable (senderStart []) config ∧
      config.shared.issued < 2 ^ 64 - 1 ∧ SlotTableCorrect config.shared ∧
      config.shared.installed.map (fun entry => entry.slotIndex.val) = [0, 1] ∧
      config.shared.allocated = 3 := by
  have ran : ((senderSystem sampleSender).schedule (senderStart [])
      ([.start (.handler 0) (.subscribe sampleRequest)] ++ takes (.handler 0) 11 ++
        [.start (.handler 1) (.subscribe sampleRequest)] ++ takes (.handler 1) 11 ++
        takes (.handler 0) 4 ++ takes (.handler 1) 21)).any (fun config =>
          config.shared.installed.map (fun entry => entry.slotIndex.val) = [0, 1] ∧
          config.shared.allocated = 3 ∧ config.shared.issued = 2) = true := by
    decide +kernel
  obtain ⟨config, run, checked⟩ := System.schedule_finds ran
  obtain ⟨slots, rings, issued⟩ := of_decide_eq_true checked
  have few : config.shared.issued < 2 ^ 64 - 1 := by omega
  exact ⟨config, run, few, slot_table_correct run few, slots, rings⟩

/-! Evictions. -/

/-- What one step of a run can do to the table. -/
structure EvictionsPrecise (sender : Sender)
    (before after : Config SenderOp SenderTask SenderState) : Prop where
  -- An entry leaves by the swap of a task that has closed it.
  closed : ∀ index entry, before.shared.connections index = some entry →
    after.shared.connections index ≠ some entry → ∃ task,
      (senderSystem sender).Executes task (.manager (.compareAndSwap index (some entry) none))
        before after ∧ (task, entry.address) ∈ before.shared.closedBy
  -- A swap takes out the entry it examined or nothing, and afterwards that entry is out.
  precise : ∀ task index examined,
    (senderSystem sender).Executes task (.manager (.compareAndSwap index (some examined) none))
      before after →
    examined.address ∈ after.shared.removed ∧
      (after.shared.connections = before.shared.connections ∨
        before.shared.connections index = some examined ∧
          after.shared.connections = Function.update before.shared.connections index none)
  out : ∀ entry ∈ after.shared.installed,
    entry.address ∈ after.shared.removed ↔ ∀ index, after.shared.connections index ≠ some entry
  forever : before.shared.removed <+: after.shared.removed
  once : (after.shared.installed.map ManagedConnection.address).Nodup

section
variable {sender : Sender} {files : List Path}
  {before after : Config SenderOp SenderTask SenderState}

def Evicts (index : SlotIndex) (entry : ManagedConnection) : {β : Type} → SenderOp β → Prop
  | _, .manager (.compareAndSwap slot (some examined) none) => slot = index ∧ examined = entry
  | _, _ => False

theorem exec_leaves {choice : SenderChoice} {task : SenderTask} {β : Type} {op : SenderOp β}
    {state state' : SenderState} {reply : β} (inv : SenderInv sender state)
    (guarded : senderGuard sender task op state)
    (executed : state.exec choice task op = some (reply, state')) {index : SlotIndex}
    {entry : ManagedConnection} (here : state.connections index = some entry)
    (left : state'.connections index ≠ some entry) :
    Evicts index entry op ∧ (task, entry.address) ∈ state.closedBy := by
  cases op with
  | channel address op =>
      obtain ⟨_, _, _, _, rfl⟩ := SenderState.execChannel_exec inv executed
      exact absurd here left
  | manager op =>
      simp only [SenderState.exec] at executed
      cases op with
      | compareAndSwap slot current new =>
          cases inv.swap guarded executed with
          | evicted found present =>
              by_cases same : index = found.slotIndex
              · subst same
                obtain rfl := Option.some.inj (here.symm.trans present)
                exact ⟨⟨rfl, rfl⟩, guarded.2.2⟩
              · simp [SenderState.hold, SenderState.replace, same, here] at left
          | missed found elsewhere => exact absurd here left
          | installed found free =>
              by_cases same : index = found.slotIndex
              · rw [same, free] at here
                simp at here
              · simp [SenderState.replace, same, here] at left
          | lost found other taken => exact absurd here left
      | note note =>
          simp only [SenderState.execManager, Option.some.injEq, Prod.mk.injEq] at executed
          obtain ⟨-, rfl⟩ := executed
          unfold SenderState.record at left
          split at left <;> exact absurd here left
      | _ =>
          simp only [SenderState.execManager] at executed
          repeat' split at executed
          all_goals simp only [reduceCtorEq, Option.some.injEq, Prod.mk.injEq] at executed
          all_goals obtain ⟨-, rfl⟩ := executed
          all_goals exact absurd here left

theorem entry_leaves (sound : Sound (sending sender) before)
    (step : (senderSystem sender).Step before after) {index : SlotIndex} {entry : ManagedConnection}
    (here : before.shared.connections index = some entry)
    (left : after.shared.connections index ≠ some entry) : ∃ task,
      (senderSystem sender).Executes task (.manager (.compareAndSwap index (some entry) none))
        before after ∧ (task, entry.address) ∈ before.shared.closedBy := by
  cases step with
  | start task call idle allowed => exact absurd here left
  | unroll task state body next running => exact absurd here left
  | exec choice task op next reply shared running executed =>
      obtain ⟨evicts, closed⟩ := exec_leaves sound.inv (sound.guard running) executed here left
      cases op with
      | channel address op => exact evicts.elim
      | manager op =>
          cases op with
          | compareAndSwap slot current new =>
              match current, new with
              | some examined, none =>
                  obtain ⟨rfl, rfl⟩ := evicts
                  exact ⟨task, ⟨choice, next, reply, shared, running, executed, rfl⟩, closed⟩
              | some _, some _ => exact evicts.elim
              | none, _ => exact evicts.elim
          | _ => exact evicts.elim

theorem swap_takes_examined (sound : Sound (sending sender) before) {task : SenderTask}
    {index : SlotIndex} {examined : ManagedConnection}
    (swap : (senderSystem sender).Executes task
      (.manager (.compareAndSwap index (some examined) none)) before after) :
    examined.address ∈ after.shared.removed ∧
      (after.shared.connections = before.shared.connections ∨
        before.shared.connections index = some examined ∧
          after.shared.connections = Function.update before.shared.connections index none) := by
  obtain ⟨choice, next, previous, shared, running, executed, rfl⟩ := swap
  have guarded : managerGuard sender task (.compareAndSwap index (some examined) none)
    before.shared := sound.guard running
  have ran : before.shared.execManager choice task (.compareAndSwap index (some examined) none) =
    some (previous, shared) := executed
  cases sound.inv.swap guarded ran with
  | evicted _ here =>
      refine ⟨?_, .inr ⟨here, rfl⟩⟩
      simp [SenderState.hold, SenderState.replace, here]
  | missed _ elsewhere =>
      exact ⟨(sound.inv.tabled.kept examined guarded.2.1).resolve_left elsewhere, .inl rfl⟩

/--
Along every run an entry only leaves the table by the swap of a task that has closed its
sink; a swap removes the entry it examined or nothing, also when the slot was refilled;
afterwards that entry is out of the table, stays out and is never installed again.
-/
theorem evictions_precise (run : (senderSystem sender).Reachable (senderStart files) before)
    (step : (senderSystem sender).Step before after) : EvictionsPrecise sender before after := by
  have sound := Sound.reachable senderCall_triple (sender_sound sender files) run
  have inv := sender_inv (run.step step)
  refine ⟨fun index entry here left => entry_leaves sound step here left,
    fun task index examined swap => swap_takes_examined sound swap, ?_, ?_,
    (slotTable_sound (run.step step)).once⟩
  · intro entry member
    refine ⟨fun gone index here => (inv.tabled.slot index entry here).2.2 gone, fun out => ?_⟩
    exact (inv.tabled.kept entry member).resolve_left (out entry.slotIndex)
  · cases step with
    | start task call idle allowed => exact List.prefix_rfl
    | unroll task state body next running => exact List.prefix_rfl
    | exec choice task op next reply shared running executed =>
        exact (Grows.exec sound.inv executed).removed

end

-- A dispatcher is about to swap out a stale connection that another task has replaced.
theorem evictions_precise_refilled :
    ∃ before after, (senderSystem sampleSender).Reachable (senderStart []) before ∧
      (senderSystem sampleSender).Step before after ∧ EvictionsPrecise sampleSender before after ∧
      before.shared.removed = [0] ∧ after.shared.swapped ≠ before.shared.swapped ∧
      after.shared.tabled 1 = true := by
  have ran : ((senderSystem sampleSender).schedule (senderStart [])
      ([.start (.handler 0) (.subscribe sampleRequest)] ++ takes (.handler 0) 15 ++
        [.start (.dispatcher .account) (.dispatch (.account sampleAccountUpdate))] ++
        takes (.dispatcher .account) 8 late ++
        [.start (.handler 1) (.subscribe sampleRequest)] ++ takes (.handler 1) 25 late)).any
      (fun before => before.shared.removed = [0] ∧
        ((senderSystem sampleSender).command before (.step (.dispatcher .account) late)).any
          (fun after =>
          after.shared.swapped ≠ before.shared.swapped ∧ after.shared.tabled 1 = true)) = true := by
    decide +kernel
  obtain ⟨before, run, checked⟩ := System.schedule_finds ran
  obtain ⟨removed, swaps⟩ := of_decide_eq_true checked
  obtain ⟨after, stepped, kept⟩ := (Option.any_eq_true _ _).mp swaps
  have step := System.command_step stepped
  exact ⟨before, after, run, step, evictions_precise run step, removed, of_decide_eq_true kept⟩

end Qlaster
