import Qlaster.Delivery
import Qlaster.Routine

/-!
Nothing is left behind. A ring that still has its file is in the table, or some task of the sender
holds it or is removing the file; a file in the directory was there before, or belongs to such a
ring, or to one in the making. Once those tasks are idle, only the table is left.
-/

namespace Qlaster

open Interleaving Interleaving.Discipline

/-! What a task is in the middle of, it finishes before it turns to anything else. -/

/-- The task is in the middle of removing a ring, or of making one, at most where said. -/
structure UnderwayAtMost (removing making : Bool) (task : SenderTask) (state : SenderState) :
    Prop where
  dying : removing = false → state.dying task = none
  creating : making = false → state.creating task = none

abbrev NothingUnderway : SenderTask → SenderState → Prop := UnderwayAtMost false false

def LeavesUnderway : {β : Type} → SenderOp β → Prop
  | _, .manager (.dropHandle _) => False
  | _, .manager (.dropProducer _) => False
  | _, .manager (.createNew _) => False
  | _, .manager (.createQueue _ _) => False
  | _, .manager (.removeFile _) => False
  | _, _ => True

section
variable {choice : SenderChoice} {task other : SenderTask} {β : Type} {before after : SenderState}
  {reply : β}

theorem exec_leavesUnderway {op : SenderOp β} (leaves : LeavesUnderway op)
    (executed : before.exec choice task op = some (reply, after)) :
    after.dying = before.dying ∧ after.creating = before.creating := by
  cases op with
  | channel address op =>
      obtain ⟨-, -, -, rfl⟩ := SenderState.execChannel_ring executed
      exact ⟨rfl, rfl⟩
  | manager op =>
      simp only [SenderState.exec] at executed
      cases op with
      | compareAndSwap index current new =>
          simp only [SenderState.execManager] at executed
          split at executed <;> simp only [Option.some.injEq, Prod.mk.injEq] at executed <;>
            obtain ⟨-, rfl⟩ := executed
          · cases new <;> exact ⟨rfl, rfl⟩
          · exact ⟨rfl, rfl⟩
      | note note =>
          simp only [SenderState.execManager, Option.some.injEq, Prod.mk.injEq] at executed
          obtain ⟨-, rfl⟩ := executed
          unfold SenderState.record
          split <;> exact ⟨rfl, rfl⟩
      | dropHandle _ | dropProducer _ | createNew _ | createQueue _ _ | removeFile _ =>
        exact leaves.elim
      | _ =>
          simp only [SenderState.execManager] at executed
          repeat' split at executed
          all_goals simp only [reduceCtorEq, Option.some.injEq, Prod.mk.injEq] at executed
          all_goals obtain ⟨-, rfl⟩ := executed
          all_goals exact ⟨rfl, rfl⟩

theorem exec_others {op : SenderOp β} (different : task ≠ other)
    (executed : before.exec choice task op = some (reply, after)) :
    after.dying other = before.dying other ∧ after.creating other = before.creating other := by
  have theirs : ∀ {γ : Type} (f : SenderTask → γ) (value : γ), Function.update f task value
      other = f other :=
    fun f value => Function.update_of_ne different.symm _ _
  by_cases leaves : LeavesUnderway op
  · obtain ⟨dying, creating⟩ := exec_leavesUnderway leaves executed
    rw [dying, creating]
    exact ⟨rfl, rfl⟩
  cases op with
  | channel address op => exact absurd trivial leaves
  | manager op =>
      simp only [SenderState.exec] at executed
      cases op with
      | dropHandle _ | dropProducer _ | createNew _ | createQueue _ _ | removeFile _ =>
          simp only [SenderState.execManager] at executed
          repeat' split at executed
          all_goals simp only [Option.some.injEq, Prod.mk.injEq] at executed
          all_goals obtain ⟨-, rfl⟩ := executed
          all_goals simp [theirs]
      | _ => exact absurd trivial leaves

end

def releaseGuard (task : SenderTask) : {β : Type} → SenderOp β → SenderState → Prop
  | _, .channel _ _, _ => True
  | _, .manager (.openRing _), _ => True
  | _, .manager (.dropHandle _), state => Sends task ∧ state.dying task = none
  | _, .manager (.createNew _), state => Sends task ∧ state.creating task = none
  | _, .manager _, _ => Sends task

def releasing (sender : Sender) : Discipline (senderSystem sender) where
  inv := fun _ => True
  guard task _ op state := releaseGuard task op state
  rest := NothingUnderway
  preserved := fun _ _ _ => trivial
  rest_stable := by
    intro choice task other β op state reply after different _ _ executed nothing
    obtain ⟨dying, creating⟩ := exec_others different executed
    exact ⟨fun none => dying.trans (nothing.dying none), fun none =>
      creating.trans (nothing.creating none)⟩

section
variable {sender : Sender} {task : SenderTask}

theorem underwayAtMost_stable (removing making : Bool) :
    (releasing sender).Stable task (UnderwayAtMost removing making task) := by
  rintro before after ⟨-, other, choice, β, op, reply, different, -, executed⟩ amid
  obtain ⟨dying, creating⟩ := exec_others different executed
  exact ⟨fun none => dying.trans (amid.dying none), fun none => creating.trans (amid.creating none)⟩

theorem leavesUnderway_keeps {choice : SenderChoice} {β : Type} {op : SenderOp β}
    {before after : SenderState} {reply : β}
    (leaves : LeavesUnderway op) (nothing : NothingUnderway task before)
    (executed : before.exec choice task op = some (reply, after)) : NothingUnderway task after := by
  obtain ⟨dying, creating⟩ := exec_leavesUnderway leaves executed
  exact ⟨fun none => by rw [dying, nothing.dying none], fun none => by rw [creating, nothing.creating none]⟩

theorem leavesUnderway_triple {β : Type} {op : ManagerOp β} (leaves : LeavesUnderway (.manager op))
    (guarded : ∀ state, releaseGuard task (.manager op) state) :
    (releasing sender).Triple task (NothingUnderway task) (ask op) fun _ => NothingUnderway task :=
  triple_perform (underwayAtMost_stable _ _) (fun _ => underwayAtMost_stable _ _)
    (fun state _ _ => guarded state)
    fun _ _ _ _ _ nothing executed => leavesUnderway_keeps leaves nothing executed

theorem nothingUnderway_done {α : Type} (value : α) :
    (releasing sender).Triple task (NothingUnderway task) (.done value) fun _ =>
      NothingUnderway task :=
  triple_done (underwayAtMost_stable _ _) fun _ _ nothing => nothing

theorem ring_settles {α : Type} (address : Nat) (program : Program ChannelOp α) :
    (releasing sender).Triple task (NothingUnderway task) (onRing address program) fun _ =>
      NothingUnderway task := by
  let onChannel {β : Type} (op : SenderOp β) : Prop := LeavesUnderway op ∧
    ∀ state, releaseGuard task op state
  have only : (onRing address program).Only onChannel :=
    Program.lift_only (fun _ => ⟨trivial, fun _ => trivial⟩) program
  exact triple_only only (underwayAtMost_stable _ _) (fun allowed _ _ => allowed.2 _)
    fun allowed _ nothing executed => leavesUnderway_keeps allowed.1 nothing executed

theorem drop_settles (sends : Sends task) (ring : ShmRingProducer) :
    (releasing sender).Triple task (NothingUnderway task) (dropArc ring) fun _ =>
      NothingUnderway task := by
  have drops :
    (releasing sender).Triple task (NothingUnderway task) (ask (.dropHandle ring.address))
    fun last =>
      UnderwayAtMost last false task := by
    refine triple_perform (underwayAtMost_stable _ _) (fun _ => underwayAtMost_stable _ _)
      (fun _ _ nothing => ⟨sends, nothing.dying rfl⟩) ?_
    intro choice state last after _ nothing executed
    simp only [senderSystem, SenderState.exec, SenderState.execManager] at executed
    split at executed <;> simp only [Option.some.injEq, Prod.mk.injEq] at executed <;>
      obtain ⟨rfl, rfl⟩ := executed
    · exact ⟨nothing.dying, nothing.creating⟩
    · exact ⟨fun kept => (by cases kept), nothing.creating⟩
  refine triple_bind drops fun last => ?_
  cases last with
  | false => exact nothingUnderway_done ()
  | true =>
      refine triple_perform (underwayAtMost_stable _ _) (fun _ => underwayAtMost_stable _ _)
        (fun _ _ _ => sends) ?_
      intro choice state reply after _ amid executed
      simp only [senderSystem, SenderState.exec, SenderState.execManager, Option.some.injEq,
        Prod.mk.injEq] at executed
      obtain ⟨-, rfl⟩ := executed
      exact ⟨fun _ => Function.update_self _ _ _, amid.creating⟩

section
variable (sends : Sends task) (display : Path → String) (path : Path)
include sends

theorem createNew_amid :
    (releasing sender).Triple task (NothingUnderway task) (ask (.createNew path)) fun created =>
    UnderwayAtMost false created.isOk task := by
  refine triple_perform (underwayAtMost_stable _ _) (fun _ => underwayAtMost_stable _ _)
    (fun _ _ nothing => ⟨sends, nothing.creating rfl⟩) ?_
  intro choice state created after _ nothing executed
  simp only [senderSystem, SenderState.exec, SenderState.execManager] at executed
  repeat' split at executed
  all_goals simp only [Option.some.injEq, Prod.mk.injEq] at executed
  all_goals obtain ⟨rfl, rfl⟩ := executed
  · exact nothing
  · exact nothing
  · exact ⟨nothing.dying, fun failed => by cases failed⟩

theorem createQueue_making (capacity : Nat) :
    (releasing sender).Triple task (UnderwayAtMost false true task)
    (ask (.createQueue path capacity)) fun queue => UnderwayAtMost false (!queue.isOk) task := by
  refine triple_perform (underwayAtMost_stable _ _) (fun _ => underwayAtMost_stable _ _)
    (fun _ _ _ => sends) ?_
  intro choice state queue after _ amid executed
  simp only [senderSystem, SenderState.exec, SenderState.execManager] at executed
  split at executed <;> simp only [Option.some.injEq, Prod.mk.injEq] at executed <;>
    obtain ⟨rfl, rfl⟩ := executed
  · exact amid
  · exact ⟨amid.dying, fun _ => Function.update_self _ _ _⟩

theorem removeFile_settles : (releasing sender).Triple task (UnderwayAtMost false true task)
    (ask (.removeFile path)) fun _ =>
    NothingUnderway task := by
  refine triple_perform (underwayAtMost_stable _ _) (fun _ => underwayAtMost_stable _ _)
    (fun _ _ _ => sends) ?_
  intro choice state reply after _ amid executed
  simp only [senderSystem, SenderState.exec, SenderState.execManager, Option.some.injEq,
    Prod.mk.injEq] at executed
  obtain ⟨-, rfl⟩ := executed
  exact ⟨amid.dying, fun _ => Function.update_self _ _ _⟩

theorem make_settles (capacity : Nat) :
    (releasing sender).Triple task (NothingUnderway task) (createRing display path capacity)
      fun _ => NothingUnderway task := by
  unfold createRing
  split
  · exact nothingUnderway_done _
  refine triple_bind (leavesUnderway_triple trivial fun _ => sends) fun parent => ?_
  cases parent with
  | error text => exact nothingUnderway_done _
  | ok _ =>
      refine triple_bind (createNew_amid sends path) fun created => ?_
      cases created with
      | error text => exact nothingUnderway_done _
      | ok _ =>
          simp only
          split
          · -- The task does not outlive the panic.
            have panics : (releasing sender).Triple task (UnderwayAtMost false true task)
                (ask .panicked) fun _ _ => False := by
              refine triple_perform (underwayAtMost_stable _ _) (fun _ _ _ _ never => never)
                (fun _ _ _ => sends) ?_
              intro choice state reply after _ _ executed
              simp [senderSystem, SenderState.exec, SenderState.execManager] at executed
            exact triple_bind panics fun _ => triple_absurd fun _ _ never => never
          · refine triple_bind (createQueue_making sends path _) fun queue => ?_
            cases queue with
            | ok address => exact nothingUnderway_done _
            | error text =>
              exact triple_bind (removeFile_settles sends path) fun _ => nothingUnderway_done _

end

theorem Pieces.settles (sends : Sends task) {α : Type} {program : Program SenderOp α}
    (pieces : Pieces α program) :
    (releasing sender).Triple task (NothingUnderway task) program fun _ =>
      NothingUnderway task := by
  cases pieces with
  | @sweep _ op inspects =>
    cases op <;> first | exact inspects.elim | exact leavesUnderway_triple trivial fun _ => sends
  | @equip _ op equips =>
    cases op <;> first | exact equips.elim | exact leavesUnderway_triple trivial fun _ => sends
  | close address => exact leavesUnderway_triple trivial fun _ => sends
  | swap index entry => exact leavesUnderway_triple trivial fun _ => sends
  | ring address program => exact ring_settles address program
  | drop ring => exact drop_settles sends ring
  | make display path capacity => exact make_settles sends display path capacity

theorem senderCall_settles (task : SenderTask) (call : SenderCall)
    (may : senderMayStart task call = true) :
    (releasing sender).Triple task (NothingUnderway task) (senderProgram sender call) fun _ =>
      NothingUnderway task := by
  cases call with
  | dispatch update =>
      have sends : Sends task := by cases task <;> trivial
      exact triple_bind (leavesUnderway_triple trivial fun _ => sends) fun _ =>
        (dispatchUpdate_routine sender update).pieces.triple (underwayAtMost_stable _ _)
        (Pieces.settles sends)
  | subscribe request =>
      have sends : Sends task := by cases task <;> trivial
      exact triple_bind
        ((upsertShm_handles sender request).pieces.triple (underwayAtMost_stable _ _)
        (Pieces.settles sends)) fun _ =>
        leavesUnderway_triple trivial fun _ => sends
  | ping ping =>
      have sends : Sends task := by cases task <;> trivial
      exact triple_bind
        ((touchPing_handles ping).pieces.triple (underwayAtMost_stable _ _) (Pieces.settles sends))
        fun _ => nothingUnderway_done ()
  | consume ring =>
      refine triple_bind (leavesUnderway_triple trivial fun _ => trivial) fun opened => ?_
      split
      · exact ring_settles ring _
      · exact nothingUnderway_done ()
  | tryNext ring kind => exact triple_bind (ring_settles ring _) fun _ => nothingUnderway_done ()
  | poll ring => exact ring_settles ring _

end

/-! Whoever still needs a ring. -/

structure Reclaimed (connections : SlotIndex → Option ManagedConnection)
    (handles : List (SenderTask × Nat))
    (allocated : Nat) (dying : SenderTask → Option Nat) (linked : Nat → Bool) : Prop where
  ring : ∀ address < allocated, linked address = true →
    (∃ index entry, connections index = some entry ∧ entry.address = address) ∨
      (∃ task, (task, address) ∈ handles) ∨ ∃ task, dying task = some address
  holder : ∀ task address, (task, address) ∈ handles → Sends task
  remover : ∀ task address, dying task = some address → Sends task

section
variable {connections : SlotIndex → Option ManagedConnection} {handles : List (SenderTask × Nat)}
  {allocated : Nat} {dying : SenderTask → Option Nat} {linked : Nat → Bool} {task : SenderTask}

theorem Reclaimed.hold (reclaimed : Reclaimed connections handles allocated dying linked)
    (sends : Sends task) (address : Nat) :
    Reclaimed connections ((task, address) :: handles) allocated dying linked := by
  refine ⟨fun other bound alive => ?_, fun holder held member => ?_, reclaimed.remover⟩
  · rcases reclaimed.ring other bound alive with tabled | ⟨holder, held⟩ | removing
    · exact .inl tabled
    · exact .inr (.inl ⟨holder, List.mem_cons_of_mem _ held⟩)
    · exact .inr (.inr removing)
  · rcases List.mem_cons.mp member with same | old
    · obtain ⟨rfl, -⟩ := Prod.mk.inj same
      exact sends
    · exact reclaimed.holder holder held old

theorem Reclaimed.load (reclaimed : Reclaimed connections handles allocated dying linked)
    (sends : Sends task) (loaded : Option ManagedConnection) :
    Reclaimed connections ((loaded.map fun entry => (task, entry.address)).toList ++ handles)
      allocated dying linked := by
  cases loaded with
  | none => exact reclaimed
  | some entry => exact reclaimed.hold sends entry.address

theorem Reclaimed.evict (reclaimed : Reclaimed connections handles allocated dying linked)
    (sends : Sends task)
    {index : SlotIndex} {entry : ManagedConnection} (here : connections index = some entry) :
    Reclaimed (Function.update connections index none) ((task, entry.address) :: handles) allocated
      dying linked := by
  obtain ⟨ring, holder, remover⟩ := reclaimed.hold sends entry.address
  refine ⟨fun address bound alive => ?_, holder, remover⟩
  rcases ring address bound alive with ⟨slot, other, found, rfl⟩ | kept
  · by_cases same : slot = index
    · rw [same, here, Option.some.injEq] at found
      exact .inr (.inl ⟨task, by simp [found]⟩)
    · exact .inl ⟨slot, other, by rw [Function.update_of_ne same, found], rfl⟩
  · exact .inr kept

theorem Reclaimed.install (reclaimed : Reclaimed connections handles allocated dying linked)
    {index : SlotIndex} (free : connections index = none) (entry : ManagedConnection) :
    Reclaimed (Function.update connections index (some entry)) handles allocated dying linked := by
  refine ⟨fun address bound alive => ?_, reclaimed.holder, reclaimed.remover⟩
  rcases reclaimed.ring address bound alive with ⟨slot, other, found, rfl⟩ | kept
  · have different : slot ≠ index := fun same => by rw [same, free] at found; cases found
    exact .inl ⟨slot, other, by rw [Function.update_of_ne different, found], rfl⟩
  · exact .inr kept

theorem Reclaimed.release (reclaimed : Reclaimed connections handles allocated dying linked)
    {address : Nat} (wanted : (∃ other, (other, address) ∈ handles.erase (task, address)) ∨
      ∃ index entry, connections index = some entry ∧ entry.address = address) :
    Reclaimed connections (handles.erase (task, address)) allocated dying linked := by
  refine ⟨fun other bound alive => ?_, fun holder held member => ?_, reclaimed.remover⟩
  · by_cases same : other = address
    · subst same
      rcases wanted with held | tabled
      · exact .inr (.inl held)
      · exact .inl tabled
    · rcases reclaimed.ring other bound alive with tabled | ⟨holder, held⟩ | removing
      · exact .inl tabled
      · have apart : (holder, other) ≠ (task, address) := fun clash => same (Prod.mk.inj clash).2
        exact .inr (.inl ⟨holder, (List.mem_erase_of_ne apart).mpr held⟩)
      · exact .inr (.inr removing)
  · exact reclaimed.holder holder held (List.mem_of_mem_erase member)

theorem Reclaimed.releaseLast (reclaimed : Reclaimed connections handles allocated dying linked)
    (sends : Sends task) (idle : dying task = none) (address : Nat) :
    Reclaimed connections (handles.erase (task, address)) allocated
      (Function.update dying task (some address)) linked := by
  refine ⟨fun other bound alive => ?_, fun holder held member =>
    ?_, fun remover removed found => ?_⟩
  · by_cases same : other = address
    · exact .inr (.inr ⟨task, by simp [same]⟩)
    · rcases reclaimed.ring other bound alive with tabled | ⟨holder, held⟩ | ⟨remover, removing⟩
      · exact .inl tabled
      · have apart : (holder, other) ≠ (task, address) := fun clash => same (Prod.mk.inj clash).2
        exact .inr (.inl ⟨holder, (List.mem_erase_of_ne apart).mpr held⟩)
      · have different :
          remover ≠ task := fun mine => by rw [mine, idle] at removing; cases removing
        exact .inr (.inr ⟨remover, by rw [Function.update_of_ne different, removing]⟩)
  · exact reclaimed.holder holder held (List.mem_of_mem_erase member)
  · by_cases same : remover = task
    · exact same ▸ sends
    · rw [Function.update_of_ne same] at found
      exact reclaimed.remover remover removed found

theorem Reclaimed.unlink (reclaimed : Reclaimed connections handles allocated dying linked)
    {address : Nat} (removing : dying task = some address) :
    Reclaimed connections handles allocated (Function.update dying task none)
      (Function.update linked address false) := by
  refine ⟨fun other bound alive => ?_, reclaimed.holder, fun remover removed found => ?_⟩
  · have different : other ≠ address := fun same => by simp [same] at alive
    rw [Function.update_of_ne different] at alive
    rcases reclaimed.ring other bound alive with tabled | held | ⟨remover, removed⟩
    · exact .inl tabled
    · exact .inr (.inl held)
    · have apart : remover ≠ task := by
        rintro rfl
        exact different (Option.some.inj (removed.symm.trans removing))
      exact .inr (.inr ⟨remover, by rw [Function.update_of_ne apart, removed]⟩)
  · exact reclaimed.remover remover removed (owner_of_cleared found).2

theorem Reclaimed.allocate (reclaimed : Reclaimed connections handles allocated dying linked)
    (sends : Sends task) :
    Reclaimed connections ((task, allocated) :: handles) (allocated + 1) dying
      (Function.update linked allocated true) := by
  obtain ⟨ring, holder, remover⟩ := reclaimed.hold sends allocated
  refine ⟨fun address bound alive => ?_, holder, remover⟩
  by_cases same : address = allocated
  · exact .inr (.inl ⟨task, by simp [same]⟩)
  · rw [Function.update_of_ne same] at alive
    exact ring address (by omega) alive

end

/-! Whose a file is. -/

structure Attributed (initial files : List Path) (allocated : Nat) (paths : Nat → Path)
    (creating : SenderTask → Option Path) (linked : Nat → Bool) : Prop where
  file : ∀ path ∈ files, path ∈ initial ∨ (∃ task, creating task = some path) ∨
    ∃ address < allocated, linked address = true ∧ paths address = path
  kept : initial ⊆ files
  apart : ∀ address < allocated, paths address ∉ initial
  creator : ∀ task path, creating task = some path → Sends task ∧ path ∉ initial

section
variable {initial files : List Path} {allocated : Nat} {paths : Nat → Path}
  {creating : SenderTask → Option Path} {linked : Nat → Bool} {task : SenderTask} {path : Path}

theorem Attributed.createNew (attributed : Attributed initial files allocated paths creating linked)
    (sends : Sends task) (idle : creating task = none) (absent : path ∉ files) :
    Attributed initial (path :: files) allocated paths (Function.update creating task (some path))
      linked := by
  refine ⟨fun other member => ?_, fun _ first => List.mem_cons_of_mem _ (attributed.kept first),
    attributed.apart, fun creator created found => ?_⟩
  · rcases List.mem_cons.mp member with rfl | old
    · exact .inr (.inl ⟨task, Function.update_self _ _ _⟩)
    · rcases attributed.file other old with first | ⟨creator, created⟩ | ring
      · exact .inl first
      · have different : creator ≠ task := fun mine => by rw [mine, idle] at created; cases created
        exact .inr (.inl ⟨creator, by rw [Function.update_of_ne different, created]⟩)
      · exact .inr (.inr ring)
  · by_cases same : creator = task
    · subst same
      rw [Function.update_self, Option.some.injEq] at found
      exact ⟨sends, fun first => absent (found ▸ attributed.kept first)⟩
    · rw [Function.update_of_ne same] at found
      exact attributed.creator creator created found

theorem Attributed.allocate (attributed : Attributed initial files allocated paths creating linked)
    (mine : creating task = some path) :
    Attributed initial files (allocated + 1) (Function.update paths allocated path)
      (Function.update creating task none) (Function.update linked allocated true) := by
  refine ⟨fun other member => ?_, attributed.kept, fun address bound =>
    ?_, fun creator created found => ?_⟩
  · rcases attributed.file other member with first | ⟨creator, created⟩ | ⟨address, bound,
      alive, named⟩
    · exact .inl first
    · by_cases same : creator = task
      · rw [same, mine, Option.some.injEq] at created
        exact .inr (.inr ⟨allocated, by omega, by simp, by simp [created]⟩)
      · exact .inr (.inl ⟨creator, by rw [Function.update_of_ne same, created]⟩)
    · have older : address ≠ allocated := bound.ne
      exact .inr (.inr ⟨address, by omega, by rw [Function.update_of_ne older, alive],
        by rw [Function.update_of_ne older, named]⟩)
  · by_cases same : address = allocated
    · rw [same, Function.update_self]
      exact (attributed.creator task path mine).2
    · rw [Function.update_of_ne same]
      exact attributed.apart address (by omega)
  · exact attributed.creator creator created (owner_of_cleared found).2

theorem Attributed.removeFile
    (attributed : Attributed initial files allocated paths creating linked)
    (mine : creating task = some path) :
    Attributed initial (files.filter (· ≠ path)) allocated paths
      (Function.update creating task none) linked := by
  refine ⟨fun other member => ?_, fun old first => ?_, attributed.apart,
    fun creator created found => ?_⟩
  · obtain ⟨there, different⟩ : other ∈ files ∧ other ≠ path := by simpa using member
    rcases attributed.file other there with first | ⟨creator, created⟩ | ring
    · exact .inl first
    · have apart : creator ≠ task := by
        rintro rfl
        exact different (Option.some.inj (created.symm.trans mine))
      exact .inr (.inl ⟨creator, by rw [Function.update_of_ne apart, created]⟩)
    · exact .inr (.inr ring)
  · have different : old ≠ path := fun same => (attributed.creator task path mine).2 (same ▸ first)
    simpa using ⟨attributed.kept first, different⟩
  · exact attributed.creator creator created (owner_of_cleared found).2

theorem Attributed.unlink (attributed : Attributed initial files allocated paths creating linked)
    {address : Nat} (bound : address < allocated) :
    Attributed initial (files.filter (· ≠ paths address)) allocated paths creating
      (Function.update linked address false) := by
  refine ⟨fun other member => ?_, fun old first => ?_, attributed.apart, attributed.creator⟩
  · obtain ⟨there, different⟩ : other ∈ files ∧ other ≠ paths address := by simpa using member
    rcases attributed.file other there with first | created | ⟨ring, within, alive, named⟩
    · exact .inl first
    · exact .inr (.inl created)
    · have apart : ring ≠ address := fun same => different (by rw [← named, same])
      exact .inr (.inr ⟨ring, within, by rw [Function.update_of_ne apart, alive], named⟩)
  · have different : old ≠ paths address := fun same => attributed.apart address bound
      (same ▸ first)
    simpa using ⟨attributed.kept first, different⟩

end

/-! Every step leaves each ring and each file to somebody. -/

structure RingsAndFilesOwned (initial : List Path) (state : SenderState) : Prop where
  rings : Reclaimed state.connections state.handles state.allocated state.dying
    (linkedOf state.channels)
  files : Attributed initial state.files state.allocated state.paths state.creating
    (linkedOf state.channels)

section
variable {sender : Sender} {initial : List Path}

theorem RingsAndFilesOwned.swap {task : SenderTask} {index : SlotIndex}
    {current new previous : Option ManagedConnection}
    {before after : SenderState} (owned : RingsAndFilesOwned initial before) (sends : Sends task)
    (swap : Swap task before index current new previous after) :
    RingsAndFilesOwned initial after := by
  cases swap with
  | evicted entry here => exact ⟨owned.rings.evict sends here, owned.files⟩
  | missed entry elsewhere => exact ⟨owned.rings.load sends _, owned.files⟩
  | installed entry free => exact ⟨owned.rings.install free entry, owned.files⟩
  | lost entry other taken => exact ⟨owned.rings.hold sends other.address, owned.files⟩

theorem RingsAndFilesOwned.dropHandle {choice : SenderChoice} {task : SenderTask} {address : Nat}
    {last : Bool}
    {before after : SenderState} (owned : RingsAndFilesOwned initial before) (sends : Sends task)
    (idle : before.dying task = none)
    (executed : before.execManager choice task (.dropHandle address) = some (last, after)) :
    RingsAndFilesOwned initial after := by
  simp only [SenderState.execManager] at executed
  split at executed <;> simp only [Option.some.injEq, Prod.mk.injEq] at executed <;>
    obtain ⟨-, rfl⟩ := executed
  · rename_i wanted
    refine ⟨owned.rings.release ?_, owned.files⟩
    simp only [SenderState.tabled, Bool.or_eq_true, List.any_eq_true, decide_eq_true_eq] at wanted
    rcases wanted with ⟨⟨other, held⟩, member, rfl⟩ | ⟨index, found⟩
    · exact .inl ⟨other, member⟩
    · obtain ⟨entry, here, same⟩ := Option.map_eq_some_iff.mp found
      exact .inr ⟨index, entry, here, same⟩
  · exact ⟨owned.rings.releaseLast sends idle address, owned.files⟩

theorem RingsAndFilesOwned.manager {choice : SenderChoice} {task : SenderTask} {β : Type}
    {op : ManagerOp β}
    {before after : SenderState} {reply : β} (owned : RingsAndFilesOwned initial before)
    (inv : SenderInv sender before) (guarded : managerGuard sender task op before)
    (releases : releaseGuard task (.manager op) before)
    (executed : before.execManager choice task op = some (reply, after)) :
    RingsAndFilesOwned initial after := by
  cases op with
  | loadSlot index =>
      simp only [SenderState.execManager, Option.some.injEq, Prod.mk.injEq] at executed
      obtain ⟨-, rfl⟩ := executed
      exact ⟨owned.rings.load releases _, owned.files⟩
  | compareAndSwap index current new => exact owned.swap releases (inv.swap guarded executed)
  | dropHandle address => exact owned.dropHandle releases.1 releases.2 executed
  | dropProducer ring =>
      simp only [SenderState.execManager, Option.some.injEq, Prod.mk.injEq] at executed
      obtain ⟨-, rfl⟩ := executed
      have bound := (inv.owned.ending task ring.address guarded.1).1
      constructor
      · rw [linkedOf_update]
        exact owned.rings.unlink guarded.1
      · rw [linkedOf_update, guarded.2.1]
        exact owned.files.unlink bound
  | createNew path =>
      simp only [SenderState.execManager] at executed
      repeat' split at executed
      all_goals simp only [Option.some.injEq, Prod.mk.injEq] at executed
      all_goals obtain ⟨-, rfl⟩ := executed
      · exact owned
      · exact owned
      · rename_i absent
        exact ⟨owned.rings, owned.files.createNew releases.1 releases.2 absent⟩
  | createQueue path capacity =>
      simp only [SenderState.execManager] at executed
      split at executed <;> simp only [Option.some.injEq, Prod.mk.injEq] at executed <;>
        obtain ⟨-, rfl⟩ := executed
      · exact owned
      · constructor
        · rw [linkedOf_update]
          exact owned.rings.allocate releases
        · rw [linkedOf_update]
          exact owned.files.allocate guarded
  | removeFile path =>
      simp only [SenderState.execManager, Option.some.injEq, Prod.mk.injEq] at executed
      obtain ⟨-, rfl⟩ := executed
      exact ⟨owned.rings, owned.files.removeFile guarded⟩
  | newManaged entry lastSeenMs =>
      simp only [SenderState.execManager, Option.some.injEq, Prod.mk.injEq] at executed
      obtain ⟨-, rfl⟩ := executed
      exact ⟨owned.rings.hold releases entry.address, owned.files⟩
  | note note =>
      simp only [SenderState.execManager, Option.some.injEq, Prod.mk.injEq] at executed
      obtain ⟨-, rfl⟩ := executed
      unfold SenderState.record
      split <;> exact ⟨owned.rings, owned.files⟩
  | _ =>
      simp only [SenderState.execManager] at executed
      repeat' split at executed
      all_goals simp only [reduceCtorEq, Option.some.injEq, Prod.mk.injEq] at executed
      all_goals obtain ⟨-, rfl⟩ := executed
      all_goals exact ⟨owned.rings, owned.files⟩

theorem ringsAndFilesOwned_persistent :
    ((sending sender).both (releasing sender)).Persistent (RingsAndFilesOwned initial) := by
  rintro choice task β op before reply after ⟨inv, -⟩ ⟨guarded, releases⟩ executed owned
  cases op with
  | manager op => exact owned.manager inv guarded releases executed
  | channel address op =>
      obtain ⟨-, choice', channel, ran, rfl⟩ := SenderState.execChannel_exec inv executed
      have linked := Channel.exec_linked (producerGuard_keeps guarded.2) ran
      constructor
      · rw [linkedOf_update_same linked]
        exact owned.rings
      · rw [linkedOf_update_same linked]
        exact owned.files

theorem ringsAndFilesOwned_created (files : List Path) :
    RingsAndFilesOwned files (SenderState.created files) := by
  constructor
  · exact ⟨fun _ bound => absurd bound (Nat.not_lt_zero _), nofun, nofun⟩
  · exact ⟨fun _ first => .inl first, fun _ first => first, fun _ bound =>
      absurd bound (Nat.not_lt_zero _), nofun⟩

end

/-! When the sender's tasks are idle. -/

section
variable {sender : Sender} {files : List Path} {config : Config SenderOp SenderTask SenderState}

theorem sender_releases (sender : Sender) (files : List Path) :
    Sound ((sending sender).both (releasing sender)) (senderStart files) := by
  have sound := sender_sound sender files
  refine Sound.ofIdle ⟨sound.inv, trivial⟩ (fun _ => rfl) fun task => ⟨sound.rest rfl, ?_⟩
  exact ⟨fun _ => rfl, fun _ => rfl⟩

theorem ringsAndFilesOwned (run : (senderSystem sender).Reachable (senderStart files) config) :
    RingsAndFilesOwned files config.shared := by
  refine Sound.always (fun task call may => ?_) ringsAndFilesOwned_persistent
    (sender_releases sender files) (ringsAndFilesOwned_created files) run
  exact (senderCall_triple task call may).both (senderCall_settles task call may)

theorem unheld (run : (senderSystem sender).Reachable (senderStart files) config)
    (idle : ∀ task, Sends task → config.pool task = .done ()) (task : SenderTask) (address : Nat) :
    (task, address) ∉ config.shared.handles := by
  intro held
  have sound := Sound.reachable senderCall_triple (sender_sound sender files) run
  obtain ⟨_, _, owns⟩ :=
    (sound.rest (idle task ((ringsAndFilesOwned run).rings.holder task address held))).1
  have mine := mem_heldBy.mpr held
  rw [owns.held] at mine
  cases mine

/-- Whatever the calls did and however they interleaved, once the dispatchers and handlers are idle
a ring exists just when it is in the table, and the directory holds what it held at the start and
the files of the table's rings. -/
theorem nothing_left_behind (run : (senderSystem sender).Reachable (senderStart files) config)
    (idle : ∀ task, Sends task → config.pool task = .done ()) :
    (∀ address < config.shared.allocated, (config.shared.channels address).linked =
      config.shared.tabled address) ∧ ∀ path, path ∈ config.shared.files ↔ path ∈ files ∨
        ∃ index entry, config.shared.connections index = some entry ∧ entry.sink.path = path := by
  have sound := Sound.reachable senderCall_triple (sender_sound sender files) run
  obtain ⟨rings, attributed⟩ := ringsAndFilesOwned run
  have removing : ∀ task address, config.shared.dying task ≠ some address := by
    intro task address dying
    obtain ⟨_, _, owns⟩ := (sound.rest (idle task (rings.remover task address dying))).1
    cases dying.symm.trans owns.dying
  have making : ∀ task path, config.shared.creating task ≠ some path := by
    intro task path creating
    obtain ⟨_, _, owns⟩ := (sound.rest (idle task (attributed.creator task path creating).1)).1
    cases creating.symm.trans owns.creating
  have needed : ∀ address < config.shared.allocated,
    (config.shared.channels address).linked = true →
      ∃ index entry, config.shared.connections index = some entry ∧ entry.address = address := by
    intro address bound alive
    rcases rings.ring address bound alive with tabled | ⟨task, held⟩ | ⟨task, dying⟩
    · exact tabled
    · exact absurd held (unheld run idle task address)
    · exact absurd dying (removing task address)
  have described : ∀ index entry, config.shared.connections index = some entry →
      entry.sink.path = config.shared.paths entry.address := fun index entry here =>
    (sound.inv.described.path entry (sound.inv.tabled.slot index entry here).2.1).1
  refine ⟨fun address bound => ?_, fun path => ⟨fun there => ?_, ?_⟩⟩
  · have tabled : config.shared.tabled address = true ↔
        ∃ index entry, config.shared.connections index = some entry ∧ entry.address = address := by
      simp [SenderState.tabled]
    rw [Bool.eq_iff_iff, tabled]
    refine ⟨needed address bound, ?_⟩
    rintro ⟨index, entry, here, rfl⟩
    exact sound.inv.owned.tabled index entry here
  · rcases attributed.file path there with first | ⟨task, creating⟩ | ⟨address, bound, alive, rfl⟩
    · exact .inl first
    · exact absurd creating (making task path)
    · obtain ⟨index, entry, here, rfl⟩ := needed address bound alive
      exact .inr ⟨index, entry, here, described index entry here⟩
  · rintro (first | ⟨index, entry, here, rfl⟩)
    · exact attributed.kept first
    · rw [described index entry here]
      exact sound.inv.filed.present _
        (sound.inv.owned.numbered entry (sound.inv.tabled.slot index entry here).2.1)
        (sound.inv.owned.tabled index entry here)

end

def staleThenNew : List SenderCommand :=
  [.start (.handler 0) (.subscribe sampleRequest)] ++ takes (.handler 0) 15 ++
    [.start (.dispatcher .account) (.dispatch (.account sampleAccountUpdate))] ++
    takes (.dispatcher .account) 21 late ++
    [.start (.handler 0) (.subscribe sampleRequest)] ++ takes (.handler 0) 15

theorem staleThenNew_ends :
    ∃ config, (senderSystem sampleSender).Reachable (senderStart [[97]]) config ∧
      (∀ task, config.pool task = .done ()) ∧ config.shared.removed = [0] ∧
      (config.shared.connections (0 : Fin 10)).map ManagedConnection.address = some 1 := by
  have ran : ((senderSystem sampleSender).schedule (senderStart [[97]]) staleThenNew).any
    (fun config =>
      (config.shared.removed = [0] ∧
        (config.shared.connections (0 : Fin 10)).map ManagedConnection.address = some 1) ∧
        ∀ task ∈ [SenderTask.handler 0, .dispatcher .account], (config.pool task).isDone = true) =
          true := by
    decide +kernel
  obtain ⟨config, finished, checked⟩ := (Option.any_eq_true _ _).mp ran
  obtain ⟨evicted, done⟩ := of_decide_eq_true checked
  refine ⟨config, System.schedule_reachable finished, fun task => ?_, evicted⟩
  by_cases named : task ∈ [SenderTask.handler 0, .dispatcher .account]
  · exact Program.eq_done (done task named)
  · exact System.schedule_outside finished (by decide) named

theorem nothing_left_behind_stale :
    ∃ config, (senderSystem sampleSender).Reachable (senderStart [[97]]) config ∧
      (∀ task, Sends task → config.pool task = .done ()) ∧ config.shared.removed = [0] ∧
      (∀ address < config.shared.allocated, (config.shared.channels address).linked =
        config.shared.tabled address) ∧
      ∀ path, path ∈ config.shared.files ↔ path ∈ [[97]] ∨
        ∃ index entry, config.shared.connections index = some entry ∧ entry.sink.path = path := by
  obtain ⟨config, run, idle, evicted, -⟩ := staleThenNew_ends
  exact ⟨config, run, fun task _ => idle task, evicted, nothing_left_behind run fun task _ =>
    idle task⟩

end Qlaster
