import Qlaster.Agreement

/-!
When a slot is occupied by a ring that nobody opens: a connection is made for a consumer that
already has its ring, or the announcement of a new one is lost.
-/

namespace Qlaster

open Interleaving Interleaving.Discipline LittleEndian PrefixCode

def SettingUp (link : Link) : Prop :=
  link.consumer = none ∧ link.requests.closed = false ∧
    (link.replies.closed = false ∨ link.replies.written ≠ [])

/-- The connection has not come out of `upsert_shm`, or the setup it was made for waits for the
reply. -/
def InFlight (state : ControlState) (address : Nat) : Prop :=
  (∀ connection, address ∉ (state.links connection).announced) ∨
    ∃ connection, address ∈ (state.links connection).announced ∧ SettingUp (state.links connection)

/-- Every connection of the table has its announcement in flight, or some setup has opened its ring.
-/
def NoOrphans (state : ControlState) : Prop :=
  ∀ index entry, state.sender.connections index = some entry →
    InFlight state entry.address ∨ entry.address ∈ state.adopted

/-- No connection is made for a consumer that has its ring, and sockets hold until the consumer has
it. -/
def keepsSetups (_ : ControlTask) : {β : Type} → ControlOp β → ControlState → Bool
  | _, .link connection (.note (.announcing _)), state => (state.links connection).consumer.isNone
  | _, .link connection (.fail _), state =>
      (state.links connection).consumer.isSome || (state.links connection).requests.closed
  | _, _, _ => true

/-! Steps that end nothing. -/

def Ends : {β : Type} → LinkOp β → Prop
  | _, .drop _ => True
  | _, .install _ => True
  | _, .fail _ => True
  | _, .note (.announcing _) => True
  | _, _ => False

structure Calm (before after : Link) : Prop where
  consumer : after.consumer = none ↔ before.consumer = none
  closed : after.requests.closed = before.requests.closed
  hungUp : after.replies.closed = before.replies.closed
  written : before.replies.written <+: after.replies.written
  announced : after.announced = before.announced
  refused : before.refused = true → after.refused = true
  health : (∀ side, before.health side = .sound) → after.health = before.health

theorem Calm.refl (link : Link) : Calm link link := by
  constructor <;> simp

theorem calm_spoil {link : Link} (side : Side) (bytes : Bytes) (count : Nat) :
    Calm link (link.spoil side bytes count) := by
  unfold Link.spoil
  split
  · rename_i failing
    refine ⟨by cases side <;> rfl, by cases side <;> rfl, by cases side <;> rfl, ?_, by cases side <;> rfl,
      by cases side <;> exact id, ?_⟩
    · cases side <;> simp [Link.put, Link.ail]
    · intro sound
      simp [sound side] at failing
  · exact .refl link

theorem calm_onFile {link : Link} (choice : ControlChoice) (granted : Except String Unit) :
    Calm link (link.onFile choice granted).2 := by
  unfold Link.onFile
  split
  · exact { Calm.refl link with refused := fun _ => rfl }
  · exact .refl link

theorem Link.exec_calm {link after : Link} {β : Type} {op : LinkOp β} {choice : ControlChoice}
    {files : List Path} {reply : β} (continues : ¬ Ends op)
    (executed : link.exec choice files op = some (reply, after)) :
    Calm link after := by
  cases op with
  | drop side => exact absurd trivial continues
  | install consumer => exact absurd trivial continues
  | fail side => exact absurd trivial continues
  | panicked => simp [Link.exec] at executed
  | writeAll side bytes =>
      rcases Link.exec_writeAll executed with ⟨-, -, -, rfl⟩ | ⟨-, ⟨-, rfl⟩ | ⟨-, rfl⟩⟩
      · cases side <;> constructor <;> simp [Link.put]
      · exact .refl _
      · exact calm_spoil side bytes _
  | sendmsg message fd =>
      simp only [Link.exec] at executed
      repeat' split at executed
      all_goals
        simp only [Option.some.injEq, Prod.mk.injEq] at executed
        obtain ⟨-, rfl⟩ := executed
      · exact .refl link
      · have calm : Calm link (link.spoil .server message choice.written) :=
          calm_spoil .server message _
        exact { calm with }
      · constructor <;> simp [Link.put]
  | readExact side count =>
      rcases Link.exec_readExact executed with ⟨-, -, rfl⟩ | ⟨-, -, rfl⟩
      · cases side <;> constructor <;> simp [Link.take]
      · exact .refl _
  | note note =>
      obtain ⟨-, rfl⟩ := Prod.mk.inj (Option.some.inj executed)
      cases note with
      | announcing eventfd => exact absurd trivial continues
      | _ => constructor <;> simp [Link.record]
  | loadSlotTokenIndex =>
      obtain ⟨consumer, -, same⟩ := Option.map_eq_some_iff.mp executed
      rw [← (Prod.mk.inj same).2]
      exact .refl link
  | loadSlotTokenGeneration =>
      obtain ⟨consumer, -, same⟩ := Option.map_eq_some_iff.mp executed
      rw [← (Prod.mk.inj same).2]
      exact .refl link
  | storeSlotTokenIndex index =>
      obtain ⟨consumer, here, same⟩ := Option.map_eq_some_iff.mp executed
      rw [← (Prod.mk.inj same).2]
      constructor <;> simp [here]
  | storeSlotTokenGeneration generation =>
      obtain ⟨consumer, here, same⟩ := Option.map_eq_some_iff.mp executed
      rw [← (Prod.mk.inj same).2]
      constructor <;> simp [here]
  | openRing path =>
      obtain rfl := congrArg Prod.snd (Option.some.inj executed)
      exact calm_onFile choice _
  | joinRing path eventfd =>
      obtain rfl := congrArg Prod.snd (Option.some.inj executed)
      exact calm_onFile choice _
  | _ =>
      simp only [Link.exec] at executed
      repeat' split at executed
      all_goals simp only [reduceCtorEq, Option.some.injEq, Prod.mk.injEq] at executed
      all_goals
        obtain ⟨-, rfl⟩ := executed
        constructor <;> simp [Link.take]

theorem Link.exec_refused {link after : Link} {β : Type} {op : LinkOp β} {choice : ControlChoice}
    {files : List Path} {reply : β} (executed : link.exec choice files op = some (reply, after))
    (refused : link.refused = true) : after.refused = true := by
  by_cases ends : Ends op
  · cases op with
    | drop side =>
        obtain ⟨-, rfl⟩ := Prod.mk.inj (Option.some.inj executed)
        cases side <;> exact refused
    | install consumer =>
        obtain ⟨-, rfl⟩ := Prod.mk.inj (Option.some.inj executed)
        exact refused
    | fail side =>
        obtain ⟨-, rfl⟩ := Prod.mk.inj (Option.some.inj executed)
        split <;> exact refused
    | note note =>
        obtain ⟨-, rfl⟩ := Prod.mk.inj (Option.some.inj executed)
        cases note <;> exact refused
    | _ => exact ends.elim
  · exact (Link.exec_calm ends executed).refused refused

theorem SettingUp.calm {before after : Link} (setting : SettingUp before)
    (calm : Calm before after) : SettingUp after := by
  obtain ⟨waiting, opened, replying⟩ := setting
  refine ⟨calm.consumer.mpr waiting, calm.closed.trans opened, ?_⟩
  rcases replying with opened | some
  · exact .inl (calm.hungUp.trans opened)
  · exact .inr fun none => some (List.prefix_nil.mp (none ▸ calm.written))

/-! The invariant of the runs that keep their setups. -/

structure SetupsKept (state : ControlState) : Prop where
  adopted : NoOrphans state
  -- Nothing fails during a setup.
  sound : ∀ connection, (state.links connection).consumer = none →
    (state.links connection).requests.closed = false →
    ∀ side, (state.links connection).health side = .sound
  -- A setup that has given up will not be announced another ring.
  finished : ∀ connection, (state.links connection).consumer = none →
    (state.links connection).requests.closed = true →
    (state.links connection).replies.closed = true ∨ (state.links connection).announced ≠ []

section
variable {control : Control} {state : ControlState} {connection : Nat} {link : Link}

theorem SetupsKept.sender {sender : SenderState} (setups : SetupsKept state)
    (inv : ControlInv control state)
    (inv' : SenderInv control.sender sender) (grows : Grows state.sender sender) :
    SetupsKept { state with sender := sender } := by
  refine ⟨fun index entry here => ?_, setups.sound, setups.finished⟩
  obtain ⟨-, installed, kept⟩ := inv'.tabled.slot index entry here
  by_cases before : entry ∈ state.sender.installed
  · have there := (inv.sender.tabled.kept entry before).resolve_right fun removed =>
      kept (grows.removed.subset removed)
    exact setups.adopted _ entry there
  · -- It was installed in this step.
    refine .inl (.inl fun connection announced => before ?_)
    obtain ⟨other, member, same⟩ := (inv.links connection).known _ announced
    rwa [← inv'.tabled.unique other (grows.installed.subset member) entry installed same]

theorem NoOrphans.setLink {adopted : List Nat} (clean : NoOrphans state)
    (more : state.adopted ⊆ adopted)
    (announced : ∀ address ∈ link.announced, address ∈ (state.links connection).announced)
    (kept : ∀ index entry, state.sender.connections index = some entry →
      entry.address ∈ (state.links connection).announced → SettingUp (state.links connection) →
      entry.address ∈ link.announced ∧ SettingUp link ∨ entry.address ∈ adopted) :
    NoOrphans { state.setLink connection link with adopted := adopted } := by
  intro index entry here
  rcases clean index entry here with (unannounced | ⟨other, member, setting⟩) | opened
  · refine .inl (.inl fun other member => ?_)
    by_cases same : other = connection
    · subst same
      simp only [ControlState.setLink_links] at member
      exact unannounced other (announced _ member)
    · simp only [ControlState.setLink, Function.update_of_ne same] at member
      exact unannounced other member
  · by_cases same : other = connection
    · subst same
      rcases kept index entry here member setting with still | opened
      · exact .inl (.inr ⟨other, by simpa using still⟩)
      · exact .inr opened
    · refine .inl (.inr ⟨other, ?_⟩)
      simp only [ControlState.setLink, Function.update_of_ne same]
      exact ⟨member, setting⟩
  · exact .inr (more opened)

theorem SetupsKept.setLink {adopted : List Nat} (setups : SetupsKept state)
    (clean : NoOrphans { state.setLink connection link with adopted := adopted })
    (sound : link.consumer = none → link.requests.closed = false →
      ∀ side, link.health side = .sound)
    (finished : link.consumer = none → link.requests.closed = true → link.replies.closed = true ∨
      link.announced ≠ []) :
    SetupsKept { state.setLink connection link with adopted := adopted } := by
  refine ⟨clean, fun other => ?_, fun other => ?_⟩
  · by_cases same : other = connection
    · subst same
      simpa using sound
    · simp only [ControlState.setLink, Function.update_of_ne same]
      exact setups.sound other
  · by_cases same : other = connection
    · subst same
      simpa using finished
    · simp only [ControlState.setLink, Function.update_of_ne same]
      exact setups.finished other

theorem SetupsKept.calm {adopted : List Nat} (setups : SetupsKept state)
    (more : state.adopted ⊆ adopted) (calm : Calm (state.links connection) link) :
    SetupsKept { state.setLink connection link with adopted := adopted } := by
  refine setups.setLink (setups.adopted.setLink more ?_ ?_) ?_ ?_
  · exact fun address member => calm.announced ▸ member
  · exact fun index entry _ member setting => .inl ⟨calm.announced.symm ▸ member, setting.calm calm⟩
  · intro waiting opened
    have sound := setups.sound connection (calm.consumer.mp waiting) (calm.closed ▸ opened)
    rwa [calm.health sound]
  · intro waiting closed
    rw [calm.hungUp, calm.announced]
    exact setups.finished connection (calm.consumer.mp waiting) (calm.closed ▸ closed)

theorem SetupsKept.announcing {eventfd : Nat} (setups : SetupsKept state)
    (inv : ControlInv control state)
    (guarded : noteGuard control state.sender (state.links connection) (.announcing eventfd))
    (waiting : (state.links connection).consumer = none) :
    SetupsKept
      { state.setLink connection ((state.links connection).record (.announcing eventfd)) with
      adopted := state.adopted } := by
  obtain ⟨opened, unannounced, -, request, next⟩ := guarded
  have running : (state.links connection).requests.closed = false := by
    by_contra closed
    have link := inv.links connection
    rcases setups.finished connection waiting (by simpa using closed) with hungUp | announced
    · simp [opened] at hungUp
    · obtain ⟨answer, member⟩ := List.exists_mem_of_ne_nil _ fun none =>
        announced (unannounced none)
      obtain ⟨only, -⟩ := link.begins waiting member
      have length := (next.trans (link.beginning waiting).asked).length_le
      simp [only] at length
  have setting : SettingUp ((state.links connection).record (.announcing eventfd)) :=
    ⟨waiting, running, .inl opened⟩
  refine setups.setLink ?_ (fun _ _ => setups.sound connection waiting running)
    (fun _ _ => .inr (by simp [Link.record]))
  intro index entry here
  by_cases same : entry.address = eventfd
  · exact .inl (.inr ⟨connection, by simpa [Link.record, same] using setting⟩)
  rcases setups.adopted index entry here with (absent | ⟨other, member, setting'⟩) | adopted
  · refine .inl (.inl fun other => ?_)
    by_cases target : other = connection
    · subst target
      simpa [Link.record, same] using absent other
    · simpa [ControlState.setLink, Function.update_of_ne target] using absent other
  · refine .inl (.inr ⟨other, ?_⟩)
    by_cases target : other = connection
    · subst target
      simp only [ControlState.setLink_links]
      exact ⟨List.mem_append_left _ member, setting⟩
    · simpa [ControlState.setLink, Function.update_of_ne target] using ⟨member, setting'⟩
  · exact .inr adopted

theorem SetupsKept.giveUp (setups : SetupsKept state) (inv : ControlInv control state)
    (fits : control.Fits) (waiting : (state.links connection).consumer = none)
    (granted : (state.links connection).refused = false)
    (excused : Excused control state.sender (state.links connection)) :
    SetupsKept { state.setLink connection ((state.links connection).hangUp .client) with adopted := state.adopted } := by
  -- A setup gives up only on a ring that is no longer in the table.
  refine setups.setLink (setups.adopted.setLink (List.Subset.refl _) (fun _ member => member) ?_)
    ?_ ?_
  · intro index entry here member setting
    exfalso
    rcases excused with ⟨side, ill⟩ | refused | ⟨hungUp, none⟩ | unfit | ⟨eventfd,
      announced, removed, -⟩
    · exact ill (setups.sound connection waiting setting.2.1 side)
    · simp [granted] at refused
    · rcases setting.2.2 with opened | some
      · simp [hungUp] at opened
      · exact some none
    · exact unfit fits
    · rw [announced, List.mem_singleton] at member
      exact (inv.sender.tabled.slot index entry here).2.2 (member ▸ removed)
  · intro _ opened
    simp [Link.hangUp] at opened
  · intro _ _
    by_cases running : (state.links connection).requests.closed = false
    · rcases excused with ⟨side, ill⟩ | refused | ⟨hungUp, none⟩ | unfit | ⟨eventfd,
        announced, -, -⟩
      · exact absurd (setups.sound connection waiting running side) ill
      · simp [granted] at refused
      · exact .inl hungUp
      · exact absurd fits unfit
      · exact .inr (by simp [Link.hangUp, announced])
    · exact setups.finished connection waiting (by simpa using running)

theorem SetupsKept.hangUp (setups : SetupsKept state)
    (replied : (state.links connection).announced ≠ [] →
      (state.links connection).replies.written ≠ [] ∨
      (state.links connection).health .server ≠ .sound ∨
        (state.links connection).requests.closed = true) :
    SetupsKept { state.setLink connection ((state.links connection).hangUp .server) with adopted := state.adopted } := by
  refine setups.setLink (setups.adopted.setLink (List.Subset.refl _) (fun _ member => member) ?_)
    (setups.sound connection) fun _ _ => .inl rfl
  intro index entry here member setting
  refine .inl ⟨member, setting.1, setting.2.1, .inr ?_⟩
  rcases replied (List.ne_nil_of_mem member) with written | ill | closed
  · exact written
  · exact absurd (setups.sound connection setting.1 setting.2.1 .server) ill
  · rw [setting.2.1] at closed
    simp at closed

theorem SetupsKept.install {consumer : ShmConsumer} (setups : SetupsKept state)
    (opened : ∀ eventfd ∈ (state.links connection).announced, eventfd ∈ state.adopted) :
    SetupsKept
      { state.setLink connection { state.links connection with consumer := some consumer } with
      adopted := state.adopted } := by
  refine setups.setLink (setups.adopted.setLink (List.Subset.refl _) (fun _ member => member)
    fun _ entry _ member _ => .inr (opened _ member)) ?_ ?_
  · intro waiting
    simp at waiting
  · intro waiting
    simp at waiting

theorem SetupsKept.fail (setups : SetupsKept state)
    (later : (state.links connection).consumer.isSome = true ∨
      (state.links connection).requests.closed = true)
    (same : link.consumer = (state.links connection).consumer ∧
      link.requests = (state.links connection).requests ∧
      link.replies = (state.links connection).replies ∧
        link.announced = (state.links connection).announced) :
    SetupsKept { state.setLink connection link with adopted := state.adopted } := by
  obtain ⟨consumer, requests, replies, announced⟩ := same
  refine setups.setLink
    (setups.adopted.setLink (List.Subset.refl _) (fun _ member => announced ▸ member) ?_) ?_ ?_
  · intro index entry here member setting
    refine .inl ⟨announced.symm ▸ member, ?_⟩
    rw [SettingUp, consumer, requests, replies]
    exact setting
  · intro waiting opened
    rw [consumer] at waiting
    rw [requests] at opened
    simp [waiting, opened] at later
  · rw [consumer, requests, replies, announced]
    exact setups.finished connection

/-- Every call on the file of a ring was granted. -/
def Granting (state : ControlState) : Prop := ∀ connection, (state.links connection).refused = false

theorem Granting.before {choice : ControlChoice} {task : ControlTask} {β : Type}
    {op : ControlOp β} {reply : β}
    {after : ControlState} (guarded : controlGuard control task op state)
    (executed : state.exec choice task op = some (reply, after)) (granting : Granting after) :
    Granting state := by
  intro other
  cases op with
  | sender op =>
      obtain ⟨actor, rfl, -⟩ := guarded
      obtain ⟨sender, -, rfl⟩ := exec_sender executed
      exact granting other
  | link connection op =>
      obtain ⟨link, done, rfl⟩ := exec_link executed
      have later := granting other
      by_cases same : other = connection
      · subst same
        simp only [Function.update_self] at later
        by_contra refused
        simp [Link.exec_refused done (by simpa using refused)] at later
      · simpa only [Function.update_of_ne same] using later

theorem SetupsKept.exec {choice : ControlChoice} {task : ControlTask} {β : Type}
    {op : ControlOp β} {reply : β}
    {after : ControlState} (fits : control.Fits) (inv : ControlInv control state)
    (guarded : controlGuard control task op state) (admitted : keepsSetups task op state = true)
    (granting : Granting state)
    (executed : state.exec choice task op = some (reply, after)) (setups : SetupsKept state) :
    SetupsKept after := by
  cases op with
  | sender op =>
      obtain ⟨actor, rfl, guarded⟩ := guarded
      obtain ⟨sender, done, rfl⟩ := exec_sender executed
      exact setups.sender inv ((sending control.sender).preserved inv.sender guarded done)
        (Grows.exec inv.sender done)
  | link connection op =>
      obtain ⟨-, guarded⟩ := guarded
      obtain ⟨link, done, rfl⟩ := exec_link executed
      by_cases ends : Ends op
      · cases op with
        | drop side =>
            obtain ⟨-, rfl⟩ := Prod.mk.inj (Option.some.inj done)
            cases side with
            | client => exact setups.giveUp inv fits guarded.1 (granting connection) guarded.2
            | server => exact setups.hangUp guarded
        | install consumer =>
            obtain ⟨-, rfl⟩ := Prod.mk.inj (Option.some.inj done)
            exact setups.install (guarded.2.2 fits)
        | fail side =>
            obtain ⟨-, rfl⟩ := Prod.mk.inj (Option.some.inj done)
            refine setups.fail (Bool.or_eq_true_iff.mp admitted) ?_
            split <;> exact ⟨rfl, rfl, rfl, rfl⟩
        | note note =>
            obtain ⟨-, rfl⟩ := Prod.mk.inj (Option.some.inj done)
            cases note with
            | announcing eventfd =>
              exact setups.announcing inv guarded (Option.isNone_iff_eq_none.mp admitted)
            | _ => exact ends.elim
        | _ => exact ends.elim
      · exact setups.calm (state.adopts_subset op reply) (Link.exec_calm ends done)

end

theorem sampleControl_fits : sampleControl.Fits where
  text := sampleControl_text
  request := by
    intro encoded written
    have same : bootstrap.encode defaultWincode = .ok encoded := written
    have known : (bootstrap.encode defaultWincode).map List.length = .ok 28 := by decide +kernel
    rw [same] at known
    have length : encoded.length = 28 := Except.ok.inj known
    omega
  reply := by
    intro slotIndex connectionId
    have short := sampleControl_path slotIndex connectionId
    simp only [ancillaryRecvBuf]
    omega
  capacity := by decide

theorem LinkOp.ownedBy.owner {task : ControlTask} {connection : Nat} {β : Type} {op : LinkOp β}
    {link after : Link}
    {choice : ControlChoice} {files : List Path} {reply : β} (owned : op.ownedBy task connection)
    (executed : link.exec choice files op = some (reply, after)) :
    task = .consumer connection ∨ task = .sender (.handler connection) ∨
      task = .network connection := by
  cases op with
  | panicked => simp [Link.exec] at executed
  | fail side => exact .inr (.inr owned)
  | accept => exact .inr (.inl owned)
  | sendmsg message fd => exact .inr (.inl owned)
  | readExact side count => cases side with
      | client => exact .inl owned
      | server => exact .inr (.inl owned)
  | writeAll side bytes => cases side with
      | client => exact .inl owned
      | server => exact .inr (.inl owned)
  | drop side => cases side with
      | client => exact .inl owned
      | server => exact .inr (.inl owned)
  | note note => cases note with
      | announcing eventfd => exact .inr (.inl owned)
      | answering answer => exact .inr (.inl owned)
      | _ => exact .inl owned
  | _ => exact .inl owned

end Qlaster
