import Qlaster.Slots
import Qlaster.Watching

/-!
Keepalives: a refresh stores the time in `last_seen_ms`, and stale cleanups compare it with
the clock. The run is watched under a clock that never goes back.
-/

namespace Qlaster

open Interleaving Interleaving.Discipline

/-- A check of `is_stale` that came out true, which its task may be about to act on. -/
structure Verdict where
  address : Nat
  reading : UInt64
  seen : UInt64
  deriving DecidableEq, Repr

/-- A stale cleanup has closed a sink or removed its connection, after a check at `reading`. -/
structure StaleEviction where
  address : Nat
  reading : UInt64
  clock : UInt64
  deriving DecidableEq, Repr

structure Vigil where
  clock : UInt64
  -- What `now_ms` told each task last.
  readings : SenderTask → UInt64
  verdicts : SenderTask → Option Verdict
  -- The stores of `touch_ping` and of `upsert_shm`, after which both report success.
  refreshes : List (Nat × UInt64)
  evictions : List StaleEviction

def Vigil.started : Vigil := ⟨0, fun _ => 0, fun _ => none, [], []⟩

inductive SlotEvent
  | other
  | readClock (now : UInt64)
  | loadedSlot
  | loadedLastSeen (address : Nat) (seen : UInt64)
  | refreshed (address : Nat) (ms : UInt64)
  | evicting (address : Nat)

/-- `close` writes the sentinel, whether or not the ring takes it. -/
def slotEvent : {β : Type} → SenderOp β → β → SlotEvent
  | _, .manager .nowMs, now => .readClock now
  | _, .manager (.loadSlot _), _ => .loadedSlot
  | _, .manager (.loadLastSeen entry), seen => .loadedLastSeen entry.address seen
  | _, .manager (.storeLastSeen entry ms), _ => .refreshed entry.address ms
  | _, .manager (.compareAndSwap _ (some entry) none), previous =>
      if previous.map ManagedConnection.address = some entry.address then .evicting
        entry.address else .other
  | _, .channel address (.tryWriteSlice bytes), _ =>
      if bytes = sentinelBytes then .evicting address else .other
  | _, _, _ => .other

/-- A cleanup is a stale one if its task has found that connection stale since it last loaded a
slot. -/
def Vigil.after (vigil : Vigil) (task : SenderTask) (now : UInt64) : SlotEvent → Vigil
  | .other => { vigil with clock := now }
  | .readClock reading =>
      { vigil with clock := now, readings := Function.update vigil.readings task reading }
  | .loadedSlot => { vigil with clock := now, verdicts := Function.update vigil.verdicts task none }
  | .loadedLastSeen address seen =>
      let reading := vigil.readings task
      { vigil with
        clock := now
        verdicts := Function.update vigil.verdicts task
          (if slotIdleTimeoutMs < reading.toNat - seen.toNat then some
            ⟨address, reading, seen⟩ else none) }
  | .refreshed address ms =>
    { vigil with clock := now, refreshes := (address, ms) :: vigil.refreshes }
  | .evicting address =>
      match vigil.verdicts task with
      | none => { vigil with clock := now }
      | some verdict =>
          if verdict.address = address then
            { vigil with clock := now, evictions := ⟨address, verdict.reading, now⟩ :: vigil.evictions }
          else { vigil with clock := now }

def keepWatch : Watch SenderOp SenderTask SenderState SenderChoice Vigil :=
  fun choice task _ op reply _ vigil =>
    if choice.now < vigil.clock then none else some
      (vigil.after task choice.now (slotEvent op reply))

def watchedSender (sender : Sender) :
    System SenderOp SenderTask (SenderState × Vigil) SenderChoice SenderCall :=
  (senderSystem sender).watched keepWatch

def watchedStart (files : List Path) : Config SenderOp SenderTask (SenderState × Vigil) :=
  ⟨(SenderState.created files, .started), fun _ => .done ()⟩

/-- No connection was closed or removed as stale at a reading up to the timeout after a refresh. -/
def Vigil.Protects (vigil : Vigil) : Prop :=
  ∀ refresh ∈ vigil.refreshes, ∀ eviction ∈ vigil.evictions, eviction.address = refresh.1 →
    refresh.2.toNat + slotIdleTimeoutMs < eviction.reading.toNat ∧ eviction.reading ≤ eviction.clock

def Vigil.upToDate (vigil : Vigil) (lastSeen : Nat → UInt64) (task : SenderTask) (address : Nat) :
    Bool :=
  match vigil.verdicts task with
  | none => true
  | some verdict => verdict.address ≠ address || lastSeen address = verdict.seen

/--
Stale cleanups act on an up-to-date check, and refreshes neither lower `last_seen_ms` nor come
after a stale cleanup of their connection.
-/
def heedsRefreshes (task : SenderTask) : {β : Type} → SenderOp β → SenderState × Vigil → Bool
  | _, .manager (.storeLastSeen entry ms), (state, vigil) =>
      state.lastSeen entry.address ≤ ms && vigil.evictions.all (·.address ≠ entry.address)
  | _, .manager (.compareAndSwap _ (some entry) none), (state, vigil) =>
      vigil.upToDate state.lastSeen task entry.address
  | _, .channel address (.tryWriteSlice bytes), (state, vigil) =>
      bytes ≠ sentinelBytes || vigil.upToDate state.lastSeen task address
  | _, _, _ => true

/-! What the watch keeps. -/

def Heeds (task : SenderTask) (lastSeen : Nat → UInt64) (vigil : Vigil) : SlotEvent → Prop
  | .refreshed address ms =>
      lastSeen address ≤ ms ∧ ∀ eviction ∈ vigil.evictions, eviction.address ≠ address
  | .evicting address => vigil.upToDate lastSeen task address = true
  | _ => True

structure Heeded (lastSeen : Nat → UInt64) (vigil : Vigil) : Prop where
  stored : ∀ refresh ∈ vigil.refreshes, refresh.2 ≤ lastSeen refresh.1
  read : ∀ task, vigil.readings task ≤ vigil.clock
  judged : ∀ task verdict, vigil.verdicts task = some verdict →
    verdict.seen.toNat + slotIdleTimeoutMs < verdict.reading.toNat ∧ verdict.reading ≤ vigil.clock
  protects : vigil.Protects

section
variable {lastSeen lastSeen' : Nat → UInt64} {vigil : Vigil} {task : SenderTask} {now : UInt64}

theorem Heeded.tick (heeded : Heeded lastSeen vigil) (forward : vigil.clock ≤ now)
    (grown : ∀ refresh ∈ vigil.refreshes, lastSeen refresh.1 ≤ lastSeen' refresh.1) :
    Heeded lastSeen' { vigil with clock := now } where
  stored refresh member := UInt64.le_trans (heeded.stored refresh member) (grown refresh member)
  read task := UInt64.le_trans (heeded.read task) forward
  judged task verdict holds :=
    ⟨(heeded.judged task verdict holds).1,
      UInt64.le_trans (heeded.judged task verdict holds).2 forward⟩
  protects := heeded.protects

theorem Heeded.after (heeded : Heeded lastSeen vigil) (forward : vigil.clock ≤ now)
    {event : SlotEvent} (told : ∀ reading, event = .readClock reading → reading = now)
    (heeds : Heeds task lastSeen vigil event)
    (grown : ∀ refresh ∈ vigil.refreshes, lastSeen refresh.1 ≤ lastSeen' refresh.1)
    (stores : ∀ address ms, event = .refreshed address ms → lastSeen' address = ms) :
    Heeded lastSeen' (vigil.after task now event) := by
  have ticked := heeded.tick forward grown
  cases event with
  | other => exact ticked
  | readClock reading =>
      obtain rfl := told reading rfl
      refine ⟨ticked.stored, ?_, ticked.judged, ticked.protects⟩
      exact (Function.forall_update_iff vigil.readings fun _ known => known ≤ reading).mpr
        ⟨UInt64.le_refl _, fun other _ => ticked.read other⟩
  | loadedSlot =>
      refine ⟨ticked.stored, ticked.read, ?_, ticked.protects⟩
      refine (Function.forall_update_iff vigil.verdicts fun _ held => ∀ verdict,
        held = some verdict →
        verdict.seen.toNat + slotIdleTimeoutMs < verdict.reading.toNat ∧ verdict.reading ≤ now).mpr
          ⟨?_, ?_⟩
      · simp
      · exact fun other _ => ticked.judged other
  | loadedLastSeen address seen =>
      refine ⟨ticked.stored, ticked.read, ?_, ticked.protects⟩
      refine (Function.forall_update_iff vigil.verdicts fun _ held => ∀ verdict,
        held = some verdict →
        verdict.seen.toNat + slotIdleTimeoutMs < verdict.reading.toNat ∧ verdict.reading ≤ now).mpr
          ⟨?_, ?_⟩
      · intro verdict held
        split at held
        · rename_i stale
          obtain rfl := Option.some.inj held
          refine ⟨?_, ticked.read task⟩
          dsimp only
          omega
        · simp at held
      · exact fun other _ => ticked.judged other
  | refreshed address ms =>
      obtain ⟨-, spared⟩ := heeds
      refine ⟨?_, ticked.read, ticked.judged, ?_⟩
      · intro refresh member
        rcases List.mem_cons.mp member with rfl | member
        · exact UInt64.le_of_eq (stores address ms rfl).symm
        · exact ticked.stored refresh member
      · intro refresh member eviction evicted same
        rcases List.mem_cons.mp member with rfl | member
        · exact absurd same (spared eviction evicted)
        · exact ticked.protects refresh member eviction evicted same
  | evicting address =>
      simp only [Vigil.after]
      cases held : vigil.verdicts task with
      | none => exact ticked
      | some verdict =>
          dsimp only
          split
          · rename_i same
            refine ⟨ticked.stored, ticked.read, ticked.judged, ?_⟩
            intro refresh member eviction evicted there
            rcases List.mem_cons.mp evicted with rfl | evicted
            · obtain ⟨late, read⟩ := ticked.judged task verdict held
              -- Nothing was stored since the check, so every refresh is at most what it saw.
              have seen : lastSeen address = verdict.seen := by
                simpa [Heeds, Vigil.upToDate, held, same] using heeds
              have stored := heeded.stored refresh member
              rw [← there, seen, UInt64.le_iff_toNat_le] at stored
              refine ⟨?_, read⟩
              dsimp only
              omega
            · exact ticked.protects refresh member eviction evicted there
          · exact ticked

end

theorem Vigil.mem_refreshes_after {vigil : Vigil} {task : SenderTask} {now : UInt64}
    {event : SlotEvent}
    {refresh : Nat × UInt64} (member : refresh ∈ (vigil.after task now event).refreshes) :
    refresh ∈ vigil.refreshes ∨ event = .refreshed refresh.1 refresh.2 := by
  cases event with
  | refreshed address ms =>
      rcases List.mem_cons.mp member with rfl | member
      · exact .inr rfl
      · exact .inl member
  | evicting address =>
      simp only [Vigil.after] at member
      repeat' split at member
      all_goals exact .inl member
  | _ => exact .inl member

def Vigil.Known (installed : List ManagedConnection) (vigil : Vigil) : Prop :=
  ∀ refresh ∈ vigil.refreshes, ∃ entry ∈ installed, entry.address = refresh.1

section
variable {sender : Sender} {choice : SenderChoice} {task : SenderTask} {before after : SenderState}

theorem exec_lastSeen {β : Type} {op : SenderOp β} {reply : β} (inv : SenderInv sender before)
    (guarded : senderGuard sender task op before)
    (executed : before.exec choice task op = some (reply, after)) :
    (∃ entry ∈ before.installed, ∃ ms, slotEvent op reply = .refreshed entry.address ms ∧
      after.lastSeen = Function.update before.lastSeen entry.address ms) ∨
    (∀ address ms, slotEvent op reply ≠ .refreshed address ms) ∧
      ∀ entry ∈ before.installed, after.lastSeen entry.address = before.lastSeen entry.address := by
  cases op with
  | channel address op =>
      obtain ⟨-, -, -, -, rfl⟩ := SenderState.execChannel_exec inv executed
      refine .inr ⟨fun _ _ => ?_, fun _ _ => rfl⟩
      cases op with
      | tryWriteSlice bytes =>
          simp only [slotEvent]
          split <;> simp
      | _ => simp [slotEvent]
  | manager op =>
      simp only [SenderState.exec] at executed
      cases op with
      | storeLastSeen entry ms =>
          simp only [SenderState.execManager, Option.some.injEq, Prod.mk.injEq] at executed
          obtain ⟨-, rfl⟩ := executed
          exact .inl ⟨entry, guarded, ms, rfl, rfl⟩
      | newManaged entry ms =>
          simp only [SenderState.execManager, Option.some.injEq, Prod.mk.injEq] at executed
          obtain ⟨-, rfl⟩ := executed
          refine .inr ⟨by simp [slotEvent], fun known member => ?_⟩
          have new := (inv.owned.pristine task entry.address guarded.2).2 known member
          exact Function.update_of_ne new _ _
      | compareAndSwap index current new =>
          refine .inr ⟨fun _ _ => ?_, fun _ _ => ?_⟩
          · cases current <;> cases new <;> simp only [slotEvent] <;> try split
            all_goals simp
          · simp only [SenderState.execManager] at executed
            split at executed <;> simp only [Option.some.injEq, Prod.mk.injEq] at executed <;>
              obtain ⟨-, rfl⟩ := executed
            · cases new <;> rfl
            · rfl
      | note note =>
          simp only [SenderState.execManager, Option.some.injEq, Prod.mk.injEq] at executed
          obtain ⟨-, rfl⟩ := executed
          refine .inr ⟨by simp [slotEvent], fun _ _ => ?_⟩
          unfold SenderState.record
          split <;> rfl
      | _ =>
          refine .inr ⟨by simp [slotEvent], fun _ _ => ?_⟩
          simp only [SenderState.execManager] at executed
          repeat' split at executed
          all_goals simp only [reduceCtorEq, Option.some.injEq, Prod.mk.injEq] at executed
          all_goals obtain ⟨-, rfl⟩ := executed
          all_goals rfl

theorem exec_readClock {β : Type} {op : SenderOp β} {reply : β} {reading : UInt64}
    (executed : before.exec choice task op = some (reply, after))
    (told : slotEvent op reply = .readClock reading) : reading = choice.now := by
  cases op with
  | channel address op =>
      cases op with
      | tryWriteSlice bytes =>
          simp only [slotEvent] at told
          split at told <;> simp at told
      | _ => simp [slotEvent] at told
  | manager op =>
      cases op with
      | nowMs =>
          simp only [SenderState.exec, SenderState.execManager, Option.some.injEq,
            Prod.mk.injEq] at executed
          rw [executed.1]
          exact (SlotEvent.readClock.inj told).symm
      | compareAndSwap index current new =>
          cases current <;> cases new <;> simp only [slotEvent] at told
          all_goals try split at told
          all_goals simp at told
      | _ => simp [slotEvent] at told

theorem heedsRefreshes_heeds {β : Type} {op : SenderOp β} {vigil : Vigil} (reply : β)
    (admitted : heedsRefreshes task op (before, vigil) = true) :
    Heeds task before.lastSeen vigil (slotEvent op reply) := by
  cases op with
  | channel address op =>
      cases op with
      | tryWriteSlice bytes =>
          simp only [heedsRefreshes, Bool.or_eq_true, decide_eq_true_eq] at admitted
          simp only [slotEvent]
          split
          · rename_i sentinel
            exact admitted.resolve_left fun other => other sentinel
          · trivial
      | _ => trivial
  | manager op =>
      cases op with
      | storeLastSeen entry ms =>
          simpa [heedsRefreshes, Heeds, slotEvent] using admitted
      | compareAndSwap index current new =>
          cases current <;> cases new <;> simp only [slotEvent] <;> try trivial
          split
          · exact admitted
          · trivial
      | _ => trivial

theorem heeded_exec {β : Type} {op : SenderOp β} {reply : β} {vigil vigil' : Vigil}
    (inv : SenderInv sender before) (guarded : senderGuard sender task op before)
    (admitted : heedsRefreshes task op (before, vigil) = true)
    (executed : before.exec choice task op = some (reply, after))
    (watched : keepWatch choice task op reply before vigil = some vigil')
    (known : vigil.Known before.installed) (heeded : Heeded before.lastSeen vigil) :
    Heeded after.lastSeen vigil' := by
  simp only [keepWatch] at watched
  split at watched
  · simp at watched
  · rename_i forward
    obtain rfl := Option.some.inj watched
    have heeds := heedsRefreshes_heeds reply admitted
    refine heeded.after (UInt64.not_lt.mp forward) (fun _ => exec_readClock executed) heeds ?_ ?_
    · intro refresh member
      obtain ⟨entry, installed, same⟩ := known refresh member
      rcases exec_lastSeen inv guarded executed with ⟨refreshed, -, ms, event, stored⟩ | ⟨-, kept⟩
      · rw [event] at heeds
        rw [stored]
        by_cases here : refresh.1 = refreshed.address
        · rw [here, Function.update_self]
          exact heeds.1
        · rw [Function.update_of_ne here]
          exact UInt64.le_refl _
      · rw [← same, kept entry installed]
        exact UInt64.le_refl _
    · intro address ms event
      rcases exec_lastSeen inv guarded executed with ⟨refreshed, -, ms', event',
        stored⟩ | ⟨never, -⟩
      · obtain ⟨rfl, rfl⟩ := SlotEvent.refreshed.inj (event'.symm.trans event)
        rw [stored, Function.update_self]
      · exact absurd event (never address ms)

theorem known_exec {β : Type} {op : SenderOp β} {reply : β} {vigil vigil' : Vigil}
    (inv : SenderInv sender before) (guarded : senderGuard sender task op before)
    (executed : before.exec choice task op = some (reply, after))
    (watched : keepWatch choice task op reply before vigil = some vigil')
    (known : vigil.Known before.installed) : vigil'.Known after.installed := by
  have grown := (Grows.exec inv executed).installed.subset
  simp only [keepWatch] at watched
  split at watched
  · simp at watched
  · obtain rfl := Option.some.inj watched
    intro refresh member
    rcases Vigil.mem_refreshes_after member with old | event
    · obtain ⟨entry, installed, same⟩ := known refresh old
      exact ⟨entry, grown installed, same⟩
    · rcases exec_lastSeen inv guarded executed with ⟨entry, installed, ms, event', -⟩ | ⟨never, -⟩
      · exact ⟨entry, grown installed, (SlotEvent.refreshed.inj (event'.symm.trans event)).1⟩
      · exact absurd event (never _ _)

end

/-- No refresh is overtaken by a stale cleanup in a run whose steps all heed the refreshes. -/
theorem refresh_protects {sender : Sender} {files : List Path}
    {config : Config SenderOp SenderTask (SenderState × Vigil)}
    (run : ((watchedSender sender).restrict heedsRefreshes).Reachable (watchedStart files) config) :
    config.shared.2.Protects := by
  have kept :
    ∀ {choice task} {β : Type} {op : SenderOp β} {before after : SenderState × Vigil} {reply : β},
      SenderInv sender before.1 → senderGuard sender task op before.1 →
      heedsRefreshes task op before = true → before.1.exec choice task op = some (reply, after.1) →
      keepWatch choice task op reply before.1 before.2 = some after.2 →
      before.2.Known before.1.installed ∧ Heeded before.1.lastSeen before.2 →
      after.2.Known after.1.installed ∧ Heeded after.1.lastSeen after.2 := by
    intro choice task β op before after reply inv guarded admitted executed watched holds
    exact ⟨known_exec inv guarded executed watched holds.1,
      heeded_exec inv guarded admitted executed watched holds.1 holds.2⟩
  have heeded : Heeded (SenderState.created files).lastSeen Vigil.started := by
    refine ⟨?_, ?_, ?_, ?_⟩ <;> simp [Vigil.started, Vigil.Protects]
  have start : Vigil.started.Known (SenderState.created files).installed ∧
      Heeded (SenderState.created files).lastSeen Vigil.started :=
        ⟨by simp [Vigil.Known, Vigil.started], heeded⟩
  have sound : Sound (sending sender) (watchedStart files).unwatched := sender_sound sender files
  have holds : config.shared.2.Known config.shared.1.installed ∧
      Heeded config.shared.1.lastSeen config.shared.2 :=
    (Sound.watched senderCall_triple kept sound start run).2
  exact holds.2.protects

def samplePing : PingRequest := ⟨⟨0, 1⟩⟩

def connected : List SenderCommand :=
  .start (.handler 0) (.subscribe sampleRequest) :: takes (.handler 0) 15

theorem refresh_protects_late :
    ∃ config, ((watchedSender sampleSender).restrict heedsRefreshes).Reachable
      (watchedStart []) config ∧ config.shared.2.Protects ∧ config.shared.2.refreshes = [(0, 10)] ∧
      config.shared.2.evictions = [⟨0, 40000, 40000⟩, ⟨0, 40000, 40000⟩] := by
  have ran : (((watchedSender sampleSender).restrict heedsRefreshes).schedule (watchedStart [])
      (connected ++ .start (.handler 1) (.ping samplePing) :: takes (.handler 1) 8 { now := 10 } ++
        .start (.dispatcher .account) (.dispatch (.account sampleAccountUpdate)) ::
          takes (.dispatcher .account) 21 late)).any (fun config =>
            config.shared.2.refreshes = [(0, 10)] ∧
            config.shared.2.evictions = [⟨0, 40000, 40000⟩, ⟨0, 40000, 40000⟩]) = true := by
    decide +kernel
  obtain ⟨config, run, checked⟩ := System.schedule_finds ran
  exact ⟨config, run, refresh_protects run, of_decide_eq_true checked⟩

/--
A ping passes its check at 30000; a dispatcher finds the connection stale at 30001; the ping
stores 30001 and is done; the dispatcher closes and removes the connection at 30001.
-/
theorem refresh_overtaken :
    ∃ config, (watchedSender sampleSender).Reachable (watchedStart []) config ∧
      (0, 30001) ∈ config.shared.2.refreshes ∧ (config.pool (.handler 1)).isDone = true ∧
      ⟨0, 30001, 30001⟩ ∈ config.shared.2.evictions ∧
        config.shared.1.connections (0 : Fin 10) = none ∧
      ¬ config.shared.2.Protects := by
  have ran : ((watchedSender sampleSender).schedule (watchedStart [])
      (connected ++ .start (.handler 1) (.ping samplePing) :: takes (.handler 1) 5
        { now := 30000 } ++
        .start (.dispatcher .account) (.dispatch (.account sampleAccountUpdate)) ::
          takes (.dispatcher .account) 4 { now := 30001 } ++
        takes (.handler 1) 3 { now := 30001 } ++ takes (.dispatcher .account) 17
          { now := 30001 })).any (fun config => (0, 30001) ∈ config.shared.2.refreshes ∧
            (config.pool (.handler 1)).isDone = true ∧
            ⟨0, 30001, 30001⟩ ∈ config.shared.2.evictions ∧
            config.shared.1.connections (0 : Fin 10) = none) = true := by
    decide +kernel
  obtain ⟨config, run, checked⟩ := System.schedule_finds ran
  obtain ⟨refreshed, finished, evicted, removed⟩ := of_decide_eq_true checked
  refine ⟨config, run, refreshed, finished, evicted, removed, fun protects => ?_⟩
  have late := (protects _ refreshed _ evicted rfl).1
  exact absurd late (by decide)

end Qlaster
