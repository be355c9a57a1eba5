import Qlaster.Reading
import Qlaster.Wakeup
import Qlaster.SenderCore

/-!
What the sender keeps in order between its atomic steps: the slot table, the `Arc`s
that keep a ring alive, the ring files, and the rings themselves. Each concern is a
predicate on the fields it is about, so an operation only has to answer to the
concerns whose fields it writes.
-/

namespace Qlaster

open Interleaving Interleaving.Discipline

/-! What no two tasks have at once. -/

def Exclusive {α : Type} (owner : SenderTask → Option α) : Prop :=
  ∀ first second value, owner first = some value → owner second = some value → first = second

section
variable {α : Type} {owner : SenderTask → Option α}

theorem Exclusive.assign (exclusive : Exclusive owner) {task : SenderTask} {value : α}
    (unowned : ∀ other, owner other ≠ some value) :
    Exclusive (Function.update owner task (some value)) := by
  intro first second found one two
  by_cases same : first = task <;> by_cases same' : second = task
  · rw [same, same']
  · subst same
    rw [Function.update_of_ne same'] at two
    simp only [Function.update_self, Option.some.injEq] at one
    subst found
    exact absurd two (unowned second)
  · subst same'
    rw [Function.update_of_ne same] at one
    simp only [Function.update_self, Option.some.injEq] at two
    subst found
    exact absurd one (unowned first)
  · rw [Function.update_of_ne same] at one
    rw [Function.update_of_ne same'] at two
    exact exclusive first second found one two

theorem owner_of_cleared {task other : SenderTask} {value : α}
    (found : Function.update owner task none other = some value) :
    other ≠ task ∧ owner other = some value := by
  by_cases same : other = task
  · simp [same] at found
  · rw [Function.update_of_ne same] at found
    exact ⟨same, found⟩

theorem Exclusive.clear (exclusive : Exclusive owner) (task : SenderTask) :
    Exclusive (Function.update owner task none) :=
  fun first second value one two =>
    exclusive first second value (owner_of_cleared one).2 (owner_of_cleared two).2

theorem Exclusive.others (exclusive : Exclusive owner) {task other : SenderTask} {mine value : α}
    (had : owner task = some mine) (found : Function.update owner task none other = some value) :
    owner other = some value ∧ value ≠ mine := by
  obtain ⟨different, found⟩ := owner_of_cleared found
  exact ⟨found, fun same => different (exclusive other task mine (same ▸ found) had)⟩

end

/-! The slot table. -/

structure Tabled (connections : SlotIndex → Option ManagedConnection)
    (installed : List ManagedConnection) (removed : List Nat) (swapped : List (SenderTask × Nat)) :
    Prop where
  slot : ∀ index entry, connections index = some entry →
    entry.slotIndex = index ∧ entry ∈ installed ∧ entry.address ∉ removed
  kept : ∀ entry ∈ installed, connections entry.slotIndex = some entry ∨ entry.address ∈ removed
  unique : ∀ entry ∈ installed, ∀ other ∈ installed, entry.address = other.address → entry = other
  known : ∀ address ∈ removed, ∃ entry ∈ installed, entry.address = address
  gone : ∀ eviction ∈ swapped, eviction.2 ∈ removed

section
variable {connections : SlotIndex → Option ManagedConnection} {installed : List ManagedConnection}
  {removed : List Nat} {swapped : List (SenderTask × Nat)}

theorem Tabled.install (tabled : Tabled connections installed removed swapped)
    {entry : ManagedConnection} (free : connections entry.slotIndex = none)
    (new : ∀ other ∈ installed, other.address ≠ entry.address) :
    Tabled (Function.update connections entry.slotIndex (some entry)) (installed ++ [entry]) removed
      swapped := by
  constructor
  · intro index other found
    by_cases same : index = entry.slotIndex
    · subst same
      simp only [Function.update_self, Option.some.injEq] at found
      subst other
      refine ⟨rfl, by simp, fun gone => ?_⟩
      obtain ⟨earlier, member, address⟩ := tabled.known _ gone
      exact new earlier member address
    · rw [Function.update_of_ne same] at found
      obtain ⟨slot, member, present⟩ := tabled.slot index other found
      exact ⟨slot, by simp [member], present⟩
  · intro other member
    rcases List.mem_append.mp member with old | added
    · by_cases same : other.slotIndex = entry.slotIndex
      · rcases tabled.kept other old with here | gone
        · rw [same, free] at here
          simp at here
        · exact .inr gone
      · rw [Function.update_of_ne same]
        exact tabled.kept other old
    · obtain rfl := List.mem_singleton.mp added
      exact .inl (by simp)
  · intro first firstMember second secondMember address
    rcases List.mem_append.mp firstMember with old | added <;>
      rcases List.mem_append.mp secondMember with old' | added'
    · exact tabled.unique first old second old' address
    · obtain rfl := List.mem_singleton.mp added'
      exact absurd address (new first old)
    · obtain rfl := List.mem_singleton.mp added
      exact absurd address.symm (new second old')
    · rw [List.mem_singleton.mp added, List.mem_singleton.mp added']
  · intro address gone
    obtain ⟨other, member, same⟩ := tabled.known address gone
    exact ⟨other, by simp [member], same⟩
  · exact tabled.gone

theorem Tabled.evict (tabled : Tabled connections installed removed swapped) {index : SlotIndex}
    {entry : ManagedConnection} (here : connections index = some entry) (task : SenderTask) :
    Tabled (Function.update connections index none) installed (removed ++ [entry.address])
      ((task, entry.address) :: swapped) := by
  obtain ⟨slot, member, _⟩ := tabled.slot index entry here
  constructor
  · intro other found present
    by_cases same : other = index
    · subst same
      simp at present
    · rw [Function.update_of_ne same] at present
      obtain ⟨slot', member', stays⟩ := tabled.slot other found present
      refine ⟨slot', member', ?_⟩
      simp only [List.mem_append, List.mem_singleton, not_or]
      refine ⟨stays, fun address => same ?_⟩
      rw [← slot', ← slot, tabled.unique found member' entry member address]
  · intro other found
    rcases tabled.kept other found with present | gone
    · by_cases same : other.slotIndex = index
      · rw [same, here, Option.some.injEq] at present
        exact .inr (by simp [present])
      · exact .inl (by rw [Function.update_of_ne same, present])
    · exact .inr (by simp [gone])
  · exact tabled.unique
  · intro address gone
    rcases List.mem_append.mp gone with old | new
    · exact tabled.known address old
    · exact ⟨entry, member, (List.mem_singleton.mp new).symm⟩
  · intro eviction noted
    rcases List.mem_cons.mp noted with rfl | old
    · simp
    · exact List.mem_append_left _ (tabled.gone eviction old)

theorem Tabled.missed (tabled : Tabled connections installed removed swapped)
    {entry : ManagedConnection} (member : entry ∈ installed)
    (elsewhere : connections entry.slotIndex ≠ some entry) (task : SenderTask) :
    Tabled connections installed removed ((task, entry.address) :: swapped) := by
  -- An eviction that finds something else in the slot comes after the entry's removal.
  refine ⟨tabled.slot, tabled.kept, tabled.unique, tabled.known, fun eviction noted => ?_⟩
  rcases List.mem_cons.mp noted with rfl | old
  · exact (tabled.kept entry member).resolve_left elsewhere
  · exact tabled.gone eviction old

end

/-! Who keeps a ring alive. -/

structure Owned (connections : SlotIndex → Option ManagedConnection)
    (installed : List ManagedConnection) (handles : List (SenderTask × Nat)) (allocated : Nat)
    (fresh dying : SenderTask → Option Nat) (linked : Nat → Bool) : Prop where
  held : ∀ task address, (task, address) ∈ handles → address < allocated ∧ linked address = true
  tabled : ∀ index entry, connections index = some entry → linked entry.address = true
  numbered : ∀ entry ∈ installed, entry.address < allocated
  ending : ∀ task address, dying task = some address → address < allocated ∧ linked address = true ∧
    (∀ other, (other, address) ∉ handles) ∧
    ∀ index entry, connections index = some entry → entry.address ≠ address
  ending_once : Exclusive dying
  pristine : ∀ task address, fresh task = some address → address < allocated ∧
    ∀ entry ∈ installed, entry.address ≠ address
  pristine_once : Exclusive fresh

section
variable {connections : SlotIndex → Option ManagedConnection} {installed : List ManagedConnection}
  {handles : List (SenderTask × Nat)} {allocated : Nat} {fresh dying : SenderTask → Option Nat}
  {linked : Nat → Bool}

theorem Owned.hold (owned : Owned connections installed handles allocated fresh dying linked)
    {address : Nat} (bound : address < allocated) (alive : linked address = true)
    (living : ∀ task, dying task ≠ some address) (task : SenderTask) :
    Owned connections installed ((task, address) :: handles) allocated fresh dying linked := by
  refine ⟨?_, owned.tabled, owned.numbered, ?_, owned.ending_once, owned.pristine,
    owned.pristine_once⟩
  · intro other held member
    rcases List.mem_cons.mp member with same | old
    · obtain ⟨-, rfl⟩ := Prod.mk.inj same
      exact ⟨bound, alive⟩
    · exact owned.held other held old
  · intro other gone ending
    obtain ⟨within, still, unheld, untabled⟩ := owned.ending other gone ending
    refine ⟨within, still, fun holder member => ?_, untabled⟩
    rcases List.mem_cons.mp member with same | old
    · obtain ⟨-, rfl⟩ := Prod.mk.inj same
      exact living other ending
    · exact unheld holder old

theorem Owned.living_of_held
    (owned : Owned connections installed handles allocated fresh dying linked)
    {holder : SenderTask} {address : Nat} (held : (holder, address) ∈ handles) (task : SenderTask) :
    dying task ≠ some address :=
  fun ending => (owned.ending task address ending).2.2.1 holder held

theorem Owned.living_of_tabled
    (owned : Owned connections installed handles allocated fresh dying linked) {index : SlotIndex}
    {entry : ManagedConnection} (here : connections index = some entry) (task : SenderTask) :
    dying task ≠ some entry.address :=
  fun ending => (owned.ending task entry.address ending).2.2.2 index entry here rfl

theorem Owned.release (owned : Owned connections installed handles allocated fresh dying linked)
    (handle : SenderTask × Nat) :
    Owned connections installed (handles.erase handle) allocated fresh dying linked := by
  refine ⟨?_, owned.tabled, owned.numbered, ?_, owned.ending_once, owned.pristine,
    owned.pristine_once⟩
  · exact fun task address member => owned.held task address (List.mem_of_mem_erase member)
  · intro task address ending
    obtain ⟨within, still, unheld, untabled⟩ := owned.ending task address ending
    exact ⟨within, still, fun other member => unheld other (List.mem_of_mem_erase member), untabled⟩

theorem Owned.releaseLast (owned : Owned connections installed handles allocated fresh dying linked)
    {task : SenderTask} {address : Nat} (held : (task, address) ∈ handles)
    (last : ∀ other, (other, address) ∉ handles.erase (task, address))
    (untabled : ∀ index entry, connections index = some entry → entry.address ≠ address) :
    Owned connections installed (handles.erase (task, address)) allocated fresh
      (Function.update dying task (some address)) linked := by
  have released := owned.release (task, address)
  refine ⟨released.held, owned.tabled, owned.numbered, ?_, ?_, owned.pristine, owned.pristine_once⟩
  · intro other gone ending
    by_cases same : other = task
    · subst same
      simp only [Function.update_self, Option.some.injEq] at ending
      subst gone
      obtain ⟨within, alive⟩ := owned.held other address held
      exact ⟨within, alive, last, untabled⟩
    · rw [Function.update_of_ne same] at ending
      exact released.ending other gone ending
  · -- Nobody else can be dropping a ring this task still held.
    exact owned.ending_once.assign fun other => owned.living_of_held held other

theorem Owned.unlink (owned : Owned connections installed handles allocated fresh dying linked)
    {task : SenderTask} {address : Nat} (ending : dying task = some address) :
    Owned connections installed handles allocated fresh (Function.update dying task none)
      (Function.update linked address false) := by
  obtain ⟨within, alive, unheld, untabled⟩ := owned.ending task address ending
  refine ⟨?_, ?_, owned.numbered, ?_, ?_, owned.pristine, owned.pristine_once⟩
  · intro other kept member
    have different : kept ≠ address := fun same => unheld other (same ▸ member)
    rw [Function.update_of_ne different]
    exact owned.held other kept member
  · intro index entry here
    rw [Function.update_of_ne (untabled index entry here)]
    exact owned.tabled index entry here
  · intro other gone found
    obtain ⟨found, different⟩ := owned.ending_once.others ending found
    rw [Function.update_of_ne different]
    exact owned.ending other gone found
  · exact owned.ending_once.clear task

theorem Owned.allocate (owned : Owned connections installed handles allocated fresh dying linked)
    (task : SenderTask) :
    Owned connections installed ((task, allocated) :: handles) (allocated + 1)
      (Function.update fresh task (some allocated)) dying
        (Function.update linked allocated true) := by
  have older : ∀ {address}, address < allocated → ∀ {value : Bool}, linked address = value →
      Function.update linked allocated true address = value := by
    intro address bound value same
    rw [Function.update_of_ne (by omega), same]
  refine ⟨?_, ?_, ?_, ?_, owned.ending_once, ?_, ?_⟩
  · intro other kept member
    rcases List.mem_cons.mp member with same | old
    · obtain ⟨-, rfl⟩ := Prod.mk.inj same
      exact ⟨by omega, by simp⟩
    · obtain ⟨bound, alive⟩ := owned.held other kept old
      exact ⟨by omega, older bound alive⟩
  · intro index entry here
    by_cases same : entry.address = allocated
    · simp [same]
    · rw [Function.update_of_ne same]
      exact owned.tabled index entry here
  · exact fun entry member => Nat.lt_succ_of_lt (owned.numbered entry member)
  · intro other gone ending
    obtain ⟨within, still, unheld, untabled⟩ := owned.ending other gone ending
    refine ⟨by omega, older within still, fun holder member => ?_, untabled⟩
    rcases List.mem_cons.mp member with same | old
    · obtain ⟨-, rfl⟩ := Prod.mk.inj same
      omega
    · exact unheld holder old
  · intro other kept found
    by_cases same : other = task
    · subst same
      simp only [Function.update_self, Option.some.injEq] at found
      subst kept
      exact ⟨by omega, fun entry member => (owned.numbered entry member).ne⟩
    · rw [Function.update_of_ne same] at found
      obtain ⟨bound, new⟩ := owned.pristine other kept found
      exact ⟨by omega, new⟩
  · exact owned.pristine_once.assign fun other found =>
      Nat.lt_irrefl _ (owned.pristine other allocated found).1

theorem Owned.install (owned : Owned connections installed handles allocated fresh dying linked)
    {task : SenderTask} {index : SlotIndex} {entry : ManagedConnection}
    (mine : fresh task = some entry.address) (held : (task, entry.address) ∈ handles) :
    Owned (Function.update connections index (some entry)) (installed ++ [entry]) handles allocated
      (Function.update fresh task none) dying linked := by
  obtain ⟨bound, alive⟩ := owned.held task entry.address held
  refine ⟨owned.held, ?_, ?_, ?_, owned.ending_once, ?_, ?_⟩
  · intro other found here
    by_cases same : other = index
    · subst same
      simp only [Function.update_self, Option.some.injEq] at here
      subst found
      exact alive
    · rw [Function.update_of_ne same] at here
      exact owned.tabled other found here
  · intro other member
    rcases List.mem_append.mp member with old | new
    · exact owned.numbered other old
    · rw [List.mem_singleton.mp new]
      exact bound
  · intro other gone ending
    obtain ⟨within, still, unheld, untabled⟩ := owned.ending other gone ending
    refine ⟨within, still, unheld, fun slot found here => ?_⟩
    by_cases same : slot = index
    · subst same
      simp only [Function.update_self, Option.some.injEq] at here
      subst found
      exact fun clash => owned.living_of_held held other (clash ▸ ending)
    · rw [Function.update_of_ne same] at here
      exact untabled slot found here
  · intro other address found
    obtain ⟨found, different⟩ := owned.pristine_once.others mine found
    obtain ⟨within, new⟩ := owned.pristine other address found
    refine ⟨within, fun earlier member => ?_⟩
    rcases List.mem_append.mp member with old | added
    · exact new earlier old
    · rw [List.mem_singleton.mp added]
      exact different.symm
  · exact owned.pristine_once.clear task

theorem Owned.evict (owned : Owned connections installed handles allocated fresh dying linked)
    (index : SlotIndex) :
    Owned (Function.update connections index none) installed handles allocated fresh
      dying linked := by
  have fewer : ∀ slot entry, Function.update connections index none slot = some entry →
      connections slot = some entry := by
    intro slot entry found
    by_cases same : slot = index
    · simp [same] at found
    · rwa [Function.update_of_ne same] at found
  refine ⟨owned.held, ?_, owned.numbered, ?_, owned.ending_once, owned.pristine,
    owned.pristine_once⟩
  · exact fun slot entry here => owned.tabled slot entry (fewer slot entry here)
  · intro task gone ending
    obtain ⟨within, still, unheld, untabled⟩ := owned.ending task gone ending
    exact ⟨within, still, unheld, fun slot entry here =>
      untabled slot entry (fewer slot entry here)⟩

end

/-! The ring files. -/

structure Filed (files : List Path) (allocated : Nat) (paths : Nat → Path)
    (creating : SenderTask → Option Path) (linked : Nat → Bool) : Prop where
  present : ∀ address < allocated, linked address = true → paths address ∈ files
  distinct : ∀ first < allocated, ∀ second < allocated, linked first = true → linked second = true →
    paths first = paths second → first = second
  pending : ∀ task path, creating task = some path → path ∈ files ∧
    ∀ address < allocated, linked address = true → paths address ≠ path
  pending_once : Exclusive creating

section
variable {files : List Path} {allocated : Nat} {paths : Nat → Path}
  {creating : SenderTask → Option Path} {linked : Nat → Bool}

theorem Filed.createNew (filed : Filed files allocated paths creating linked) {path : Path}
    (absent : path ∉ files) (task : SenderTask) :
    Filed (path :: files) allocated paths (Function.update creating task (some path)) linked := by
  refine ⟨?_, filed.distinct, ?_, ?_⟩
  · exact fun address bound alive => List.mem_cons_of_mem _ (filed.present address bound alive)
  · intro other created found
    by_cases same : other = task
    · subst same
      simp only [Function.update_self, Option.some.injEq] at found
      subst created
      exact ⟨by simp, fun address bound alive clash => absent (clash ▸ filed.present address bound alive)⟩
    · rw [Function.update_of_ne same] at found
      obtain ⟨there, apart⟩ := filed.pending other created found
      exact ⟨by simp [there], apart⟩
  · exact filed.pending_once.assign fun other found => absent (filed.pending other path found).1

theorem Filed.allocate (filed : Filed files allocated paths creating linked) {task : SenderTask}
    {path : Path} (mine : creating task = some path) :
    Filed files (allocated + 1) (Function.update paths allocated path)
      (Function.update creating task none) (Function.update linked allocated true) := by
  obtain ⟨there, apart⟩ := filed.pending task path mine
  have older : ∀ {address}, address < allocated + 1 → address ≠ allocated →
      Function.update linked allocated true address = true →
      address < allocated ∧ linked address = true ∧
        Function.update paths allocated path address = paths address := by
    intro address bound different alive
    rw [Function.update_of_ne different] at alive
    exact ⟨by omega, alive, Function.update_of_ne different _ _⟩
  refine ⟨?_, ?_, ?_, ?_⟩
  · intro address bound alive
    by_cases same : address = allocated
    · simpa [same] using there
    · obtain ⟨bound, alive, path⟩ := older bound same alive
      rw [path]
      exact filed.present address bound alive
  · intro first firstBound second secondBound firstAlive secondAlive clash
    by_cases same : first = allocated <;> by_cases same' : second = allocated
    · rw [same, same']
    · obtain ⟨bound, alive, path⟩ := older secondBound same' secondAlive
      rw [same, Function.update_self, path] at clash
      exact absurd clash.symm (apart second bound alive)
    · obtain ⟨bound, alive, path⟩ := older firstBound same firstAlive
      rw [same', Function.update_self, path] at clash
      exact absurd clash (apart first bound alive)
    · obtain ⟨bound, alive, path⟩ := older firstBound same firstAlive
      obtain ⟨bound', alive', path'⟩ := older secondBound same' secondAlive
      rw [path, path'] at clash
      exact filed.distinct first bound second bound' alive alive' clash
  · intro other created found
    obtain ⟨found, different⟩ := filed.pending_once.others mine found
    obtain ⟨there', apart'⟩ := filed.pending other created found
    refine ⟨there', fun address bound alive => ?_⟩
    by_cases same : address = allocated
    · rw [same, Function.update_self]
      exact different.symm
    · obtain ⟨bound, alive, path⟩ := older bound same alive
      rw [path]
      exact apart' address bound alive
  · exact filed.pending_once.clear task

theorem Filed.removeFile (filed : Filed files allocated paths creating linked) {task : SenderTask}
    {path : Path} (mine : creating task = some path) :
    Filed (files.filter (· ≠ path)) allocated paths (Function.update creating task none)
      linked := by
  obtain ⟨-, apart⟩ := filed.pending task path mine
  refine ⟨?_, filed.distinct, ?_, ?_⟩
  · intro address bound alive
    simpa using ⟨filed.present address bound alive, apart address bound alive⟩
  · intro other created found
    obtain ⟨found, different⟩ := filed.pending_once.others mine found
    obtain ⟨there, apart'⟩ := filed.pending other created found
    exact ⟨by simpa using ⟨there, different⟩, apart'⟩
  · exact filed.pending_once.clear task

theorem Filed.unlink (filed : Filed files allocated paths creating linked) {address : Nat}
    (bound : address < allocated) (alive : linked address = true) :
    Filed (files.filter (· ≠ paths address)) allocated paths creating
      (Function.update linked address false) := by
  have others : ∀ {other}, Function.update linked address false other = true →
      linked other = true ∧ other ≠ address := by
    intro other still
    by_cases same : other = address
    · simp [same] at still
    · rw [Function.update_of_ne same] at still
      exact ⟨still, same⟩
  refine ⟨?_, ?_, ?_, filed.pending_once⟩
  · intro other within still
    obtain ⟨still, different⟩ := others still
    have apart : paths other ≠ paths address := fun clash =>
      different (filed.distinct other within address bound still alive clash)
    simpa using ⟨filed.present other within still, apart⟩
  · exact fun first within second within' still still' =>
      filed.distinct first within second within' (others still).1 (others still').1
  · intro task created found
    obtain ⟨there, apart⟩ := filed.pending task created found
    refine ⟨by simpa using ⟨there, (apart address bound alive).symm⟩, fun other within still => ?_⟩
    exact apart other within (others still).1

end

end Qlaster
