import Mathlib.Logic.Relation
import Mathlib.Logic.Function.Basic

/-!
Programs made of atomic operations, and pools of tasks that interleave them. A
program is a tree of requests; a loop is a node of the tree and is unrolled one
turn at a time, so a program that never ends is still a finite description.
-/

namespace Interleaving

inductive Program (Op : Type → Type) : Type → Type 1
  | done {α : Type} (value : α) : Program Op α
  | request {α β : Type} (op : Op β) (next : β → Program Op α) : Program Op α
  | loop {α σ β : Type} (state : σ) (body : σ → Program Op (Sum σ β))
      (next : β → Program Op α) : Program Op α

namespace Program

variable {Op : Type → Type} {α β γ σ : Type}

def bind : {α : Type} → Program Op α → (α → Program Op γ) → Program Op γ
  | _, .done value, rest => rest value
  | _, .request op next, rest => .request op fun reply => (next reply).bind rest
  | _, .loop state body next, rest => .loop state body fun result => (next result).bind rest

instance : Monad (Program Op) where
  pure := .done
  bind := .bind

def perform (op : Op β) : Program Op β := .request op .done

/-- Repeat `body` until it answers `inr`; `inl` carries the state of the next turn. -/
def iterate (state : σ) (body : σ → Program Op (Sum σ β)) : Program Op β :=
  .loop state body .done

/-- One turn of a loop, followed by the loop itself or by what comes after it. -/
def unrolled (state : σ) (body : σ → Program Op (Sum σ β)) (next : β → Program Op α) :
    Program Op α :=
  (body state).bind fun turn =>
    match turn with
    | .inl again => .loop again body next
    | .inr result => next result

@[simp] theorem pure_eq (value : α) : (pure value : Program Op α) = .done value := rfl

@[simp] theorem bind_eq (program : Program Op α) (rest : α → Program Op β) :
    program >>= rest = program.bind rest := rfl

theorem bind_assoc (program : Program Op α) (first : α → Program Op β)
    (second : β → Program Op γ) :
    (program.bind first).bind second = program.bind fun value => (first value).bind second := by
  induction program with
  | done value => rfl
  | request op next ih =>
      simp only [bind]
      congr 1
      funext reply
      exact ih reply first
  | loop state body next _ ih =>
      simp only [bind]
      congr 1
      funext result
      exact ih result first

theorem bind_done (program : Program Op α) : program.bind .done = program := by
  induction program with
  | done value => rfl
  | request op next ih =>
      simp only [bind]
      congr 1
      funext reply
      exact ih reply
  | loop state body next _ ih =>
      simp only [bind]
      congr 1
      funext result
      exact ih result

def lift {Op' : Type → Type} (embed : {β : Type} → Op β → Op' β) :
    {α : Type} → Program Op α → Program Op' α
  | _, .done value => .done value
  | _, .request op next => .request (embed op) fun reply => (next reply).lift embed
  | _, .loop state body next =>
      .loop state (fun turn => (body turn).lift embed) fun result => (next result).lift embed

theorem lift_bind {Op' : Type → Type} (embed : {β : Type} → Op β → Op' β)
    (program : Program Op α) (rest : α → Program Op β) :
    (program.bind rest).lift embed = (program.lift embed).bind fun value =>
      (rest value).lift embed := by
  induction program with
  | done value => rfl
  | request op next ih =>
      simp only [bind, lift]
      congr 1
      funext reply
      exact ih reply rest
  | loop state body next _ ih =>
      simp only [bind, lift]
      congr 1
      funext result
      exact ih result rest

theorem unrolled_lift {Op' : Type → Type} (embed : {β : Type} → Op β → Op' β) (state : σ)
    (body : σ → Program Op (Sum σ β)) (next : β → Program Op α) :
    (unrolled state body next).lift embed =
      unrolled state (fun turn => (body turn).lift embed) fun result =>
        (next result).lift embed := by
  unfold unrolled
  rw [lift_bind]
  congr 1
  funext turn
  cases turn <;> rfl

/-- The value and the state a program without loops ends with; `none` where an operation is refused.
-/
def eval {State : Type} (exec : {β : Type} → Op β → State → Option (β × State)) :
    {α : Type} → Program Op α → State → Option (α × State)
  | _, .done value, state => some (value, state)
  | _, .request op next, state =>
    (exec op state).bind fun result => (next result.1).eval exec result.2
  | _, .loop _ _ _, _ => none

theorem eval_bind {State : Type} (exec : {β : Type} → Op β → State → Option (β × State))
    (program : Program Op α) (rest : α → Program Op β) (state : State) :
    (program.bind rest).eval exec state =
      (program.eval exec state).bind fun result => (rest result.1).eval exec result.2 := by
  induction program generalizing state with
  | done value => rfl
  | request op next ih =>
      simp only [bind, eval, Option.bind_assoc]
      congr 1
      funext result
      exact ih result.1 rest result.2
  | loop turn body next _ _ => rfl

def Only (allowed : {β : Type} → Op β → Prop) : {α : Type} → Program Op α → Prop
  | _, .done _ => True
  | _, .request op next => allowed op ∧ ∀ reply, (next reply).Only allowed
  | _, .loop _ body next =>
    (∀ turn, (body turn).Only allowed) ∧ ∀ result, (next result).Only allowed

theorem Only.bind {allowed : {β : Type} → Op β → Prop} {program : Program Op α}
    {rest : α → Program Op γ} (first : program.Only allowed)
    (second : ∀ value, (rest value).Only allowed) : (program.bind rest).Only allowed := by
  induction program with
  | done value => exact second value
  | request op next ih => exact ⟨first.1, fun reply => ih reply (first.2 reply) second⟩
  | loop state body next _ ih => exact ⟨first.1, fun result => ih result (first.2 result) second⟩

theorem only_true (program : Program Op α) : program.Only fun _ => True := by
  induction program with
  | done value => trivial
  | request op next ih => exact ⟨trivial, fun reply => ih reply⟩
  | loop state body next ihBody ih => exact ⟨fun turn => ihBody turn, fun result => ih result⟩

theorem Only.mono {first second : {β : Type} → Op β → Prop}
    (weaker : ∀ {β : Type} (op : Op β), first op → second op) {program : Program Op α}
    (only : program.Only first) : program.Only second := by
  induction program with
  | done value => trivial
  | request op next ih => exact ⟨weaker op only.1, fun reply => ih reply (only.2 reply)⟩
  | loop state body next ihBody ih =>
      exact ⟨fun turn => ihBody turn (only.1 turn), fun result => ih result (only.2 result)⟩

theorem Only.perform {allowed : {β : Type} → Op β → Prop} {op : Op β} (holds : allowed op) :
    (Program.perform op).Only allowed :=
  ⟨holds, fun _ => trivial⟩

theorem Only.iterate {allowed : {β : Type} → Op β → Prop} {state : σ}
    {body : σ → Program Op (Sum σ β)} (holds : ∀ turn, (body turn).Only allowed) :
    (Program.iterate state body).Only allowed :=
  ⟨holds, fun _ => trivial⟩

theorem Only.unrolled {allowed : {β : Type} → Op β → Prop} {state : σ}
    {body : σ → Program Op (Sum σ β)} {next : β → Program Op α}
    (turns : ∀ turn, (body turn).Only allowed) (after : ∀ result, (next result).Only allowed) :
    (unrolled state body next).Only allowed := by
  refine (turns state).bind fun turn => ?_
  cases turn with
  | inl again => exact ⟨turns, after⟩
  | inr result => exact after result

theorem lift_only {Op' : Type → Type} {embed : {β : Type} → Op β → Op' β}
    {allowed : {β : Type} → Op' β → Prop} (each : ∀ {β : Type} (op : Op β), allowed (embed op))
    (program : Program Op α) : (program.lift embed).Only allowed := by
  induction program with
  | done value => trivial
  | request op next ih => exact ⟨each op, fun reply => ih reply⟩
  | loop state body next ihBody ih => exact ⟨fun turn => ihBody turn, fun result => ih result⟩

theorem Only.lift {Op' : Type → Type} {embed : {β : Type} → Op β → Op' β}
    {inside : {β : Type} → Op β → Prop}
    {allowed : {β : Type} → Op' β → Prop} (each : ∀ {β : Type} (op : Op β), inside op →
      allowed (embed op))
    {program : Program Op α} (only : program.Only inside) : (program.lift embed).Only allowed := by
  induction program with
  | done value => trivial
  | request op next ih => exact ⟨each op only.1, fun reply => ih reply (only.2 reply)⟩
  | loop state body next ihBody ih =>
      exact ⟨fun turn => ihBody turn (only.1 turn), fun result => ih result (only.2 result)⟩

def Yields : {α : Type} → (α → Prop) → Program Op α → Prop
  | _, leaf, .done value => leaf value
  | _, leaf, .request _ next => ∀ reply, (next reply).Yields leaf
  | _, leaf, .loop (β := β) _ body next => ∃ result : β → Prop,
      (∀ turn, (body turn).Yields fun outcome => ∀ value, outcome = .inr value → result value) ∧
        ∀ value, result value → (next value).Yields leaf

theorem Yields.mono {first second : α → Prop} (weaker : ∀ value, first value → second value)
    {program : Program Op α} (yields : program.Yields first) : program.Yields second := by
  induction program with
  | done value => exact weaker value yields
  | request op next ih => exact fun reply => ih reply weaker (yields reply)
  | loop state body next _ ih =>
      obtain ⟨result, turns, after⟩ := yields
      exact ⟨result, turns, fun value holds => ih value weaker (after value holds)⟩

theorem yields_true (program : Program Op α) : program.Yields fun _ => True := by
  induction program with
  | done value => trivial
  | request op next ih => exact fun reply => ih reply
  | loop state body next ihBody ih =>
      exact ⟨fun _ => True, fun turn => (ihBody turn).mono fun _ _ _ _ => trivial,
        fun value _ => ih value⟩

theorem Yields.bind {mid : α → Prop} {leaf : γ → Prop} {program : Program Op α}
    {rest : α → Program Op γ}
    (first : program.Yields mid) (second : ∀ value, mid value → (rest value).Yields leaf) :
    (program.bind rest).Yields leaf := by
  induction program with
  | done value => exact second value first
  | request op next ih => exact fun reply => ih reply (first reply) second
  | loop state body next _ ih =>
      obtain ⟨result, turns, after⟩ := first
      exact ⟨result, turns, fun value holds => ih value (after value holds) second⟩

theorem Yields.unrolled {leaf : α → Prop} {state : σ} {body : σ → Program Op (Sum σ β)}
    {next : β → Program Op α} (yields : (Program.loop state body next).Yields leaf) :
    (unrolled state body next).Yields leaf := by
  obtain ⟨result, turns, after⟩ := yields
  refine (turns state).bind fun outcome holds => ?_
  cases outcome with
  | inl again => exact ⟨result, turns, after⟩
  | inr value => exact after value (holds value rfl)

end Program

/-- Tasks of a system answer calls one at a time. An operation is executed under a
choice that settles whatever the environment decides; `none` means that the task
is blocked there. -/
structure System (Op : Type → Type) (Task State Choice Call : Type) where
  exec : Choice → Task → ∀ {β : Type}, Op β → State → Option (β × State)
  program : Call → Program Op Unit
  mayStart : Task → Call → Bool

structure Config (Op : Type → Type) (Task State : Type) where
  shared : State
  pool : Task → Program Op Unit

def Program.isDone {Op : Type → Type} {α : Type} : Program Op α → Bool
  | .done _ => true
  | _ => false

theorem Program.eq_done {Op : Type → Type} {program : Program Op Unit}
    (finished : program.isDone = true) : program = .done () := by
  cases program with
  | done value => rfl
  | request op next => simp [isDone] at finished
  | loop turn body next => simp [isDone] at finished

namespace System

variable {Op : Type → Type} {Task State Choice Call : Type} [DecidableEq Task]

/-- The system whose operations are only executed in the states that `admits` accepts. -/
def restrict (system : System Op Task State Choice Call)
    (admits : Task → ∀ {β : Type}, Op β → State → Bool) : System Op Task State Choice Call :=
  { system with
    exec := fun choice task _ op state =>
      if admits task op state then system.exec choice task op state else none }

inductive Step (system : System Op Task State Choice Call) :
    Config Op Task State → Config Op Task State → Prop
  | start {config} (task : Task) (call : Call) :
      config.pool task = .done () → system.mayStart task call = true →
      Step system config
        { config with pool := Function.update config.pool task (system.program call) }
  | unroll {config} (task : Task) {σ β : Type} (state : σ)
      (body : σ → Program Op (Sum σ β)) (next : β → Program Op Unit) :
      config.pool task = .loop state body next →
      Step system config
        { config with pool := Function.update config.pool task (.unrolled state body next) }
  | exec {config} (choice : Choice) (task : Task) {β : Type} (op : Op β)
      (next : β → Program Op Unit) (reply : β) (shared : State) :
      config.pool task = .request op next →
      system.exec choice task op config.shared = some (reply, shared) →
      Step system config
        { shared := shared, pool := Function.update config.pool task (next reply) }

def Executes (system : System Op Task State Choice Call) (task : Task) {β : Type} (op : Op β)
    (before after : Config Op Task State) : Prop :=
  ∃ choice next reply shared, before.pool task = .request op next ∧
    system.exec choice task op before.shared = some (reply, shared) ∧
    after = ⟨shared, Function.update before.pool task (next reply)⟩

inductive Reachable (system : System Op Task State Choice Call)
    (initial : Config Op Task State) : Config Op Task State → Prop
  | initial : Reachable system initial initial
  | step {before after} : Reachable system initial before → Step system before after →
      Reachable system initial after

theorem Step.unrestricted {system : System Op Task State Choice Call}
    {admits : Task → ∀ {β : Type}, Op β → State → Bool} {before after : Config Op Task State}
    (step : (system.restrict admits).Step before after) : system.Step before after := by
  cases step with
  | start task call idle allowed => exact .start task call idle allowed
  | unroll task state body next running => exact .unroll task state body next running
  | exec choice task op next reply shared running executed =>
      simp only [restrict] at executed
      split at executed
      · exact .exec choice task op next reply shared running executed
      · simp at executed

theorem Reachable.unrestricted {system : System Op Task State Choice Call}
    {admits : Task → ∀ {β : Type}, Op β → State → Bool} {initial config : Config Op Task State}
    (run : (system.restrict admits).Reachable initial config) :
    system.Reachable initial config := by
  induction run with
  | initial => exact .initial
  | step _ step ih => exact ih.step step.unrestricted

theorem Reachable.trans {system : System Op Task State Choice Call}
    {first second third : Config Op Task State}
    (earlier : Reachable system first second) (later : Reachable system second third) :
    Reachable system first third := by
  induction later with
  | initial => exact earlier
  | step _ step ih => exact Reachable.step ih step

/-- What a schedule asks for: a task takes up a call, or makes its next step. -/
inductive Command (Task Choice Call : Type)
  | start (task : Task) (call : Call)
  | step (task : Task) (choice : Choice)

def Command.task : Command Task Choice Call → Task
  | .start task _ => task
  | .step task _ => task

def command (system : System Op Task State Choice Call) (config : Config Op Task State) :
    Command Task Choice Call → Option (Config Op Task State)
  | .start task call =>
      match config.pool task with
      | .done () =>
          if system.mayStart task call then
            some { config with pool := Function.update config.pool task (system.program call) }
          else none
      | _ => none
  | .step task choice =>
      match config.pool task with
      | .done () => none
      | .loop state body next =>
          some { config with pool := Function.update config.pool task (.unrolled state body next) }
      | .request op next =>
          match system.exec choice task op config.shared with
          | none => none
          | some (reply, shared) =>
              some { shared := shared, pool := Function.update config.pool task (next reply) }

def schedule (system : System Op Task State Choice Call) (config : Config Op Task State) :
    List (Command Task Choice Call) → Option (Config Op Task State)
  | [] => some config
  | first :: rest => (system.command config first).bind fun next => system.schedule next rest

theorem command_step {system : System Op Task State Choice Call}
    {config next : Config Op Task State} {command : Command Task Choice Call}
    (ran : system.command config command = some next) : Step system config next := by
  cases command with
  | start task call =>
      simp only [System.command] at ran
      split at ran
      · rename_i idle
        split at ran
        · rename_i allowed
          simp only [Option.some.injEq] at ran
          subst next
          exact Step.start task call idle allowed
        · simp at ran
      · simp at ran
  | step task choice =>
      simp only [System.command] at ran
      split at ran
      · simp at ran
      · rename_i state body rest running
        simp only [Option.some.injEq] at ran
        subst next
        exact Step.unroll task state body rest running
      · rename_i op rest running
        split at ran
        · simp at ran
        · rename_i reply shared executed
          simp only [Option.some.injEq] at ran
          subst next
          exact Step.exec choice task op rest reply shared running executed

theorem schedule_reachable {system : System Op Task State Choice Call}
    {config final : Config Op Task State} {commands : List (Command Task Choice Call)}
    (ran : system.schedule config commands = some final) : Reachable system config final := by
  induction commands generalizing config with
  | nil =>
      simp only [schedule, Option.some.injEq] at ran
      subst final
      exact Reachable.initial
  | cons first rest ih =>
      simp only [schedule, Option.bind_eq_some_iff] at ran
      obtain ⟨next, stepped, finished⟩ := ran
      exact Reachable.trans (Reachable.step Reachable.initial (command_step stepped)) (ih finished)

theorem command_pool {system : System Op Task State Choice Call}
    {config next : Config Op Task State}
    {command : Command Task Choice Call} (ran : system.command config command = some next)
    {task : Task} (other : task ≠ command.task) : next.pool task = config.pool task := by
  cases command with
  | start worker call =>
      simp only [System.command] at ran
      repeat' split at ran
      all_goals simp only [reduceCtorEq, Option.some.injEq] at ran
      subst next
      exact Function.update_of_ne other _ _
  | step worker choice =>
      simp only [System.command] at ran
      repeat' split at ran
      all_goals simp only [reduceCtorEq, Option.some.injEq] at ran
      all_goals
        subst next
        exact Function.update_of_ne other _ _

theorem schedule_pool {system : System Op Task State Choice Call}
    {config final : Config Op Task State} {commands : List (Command Task Choice Call)}
    (ran : system.schedule config commands = some final)
    {task : Task} (unnamed : task ∉ commands.map Command.task) :
    final.pool task = config.pool task := by
  induction commands generalizing config with
  | nil =>
      simp only [schedule, Option.some.injEq] at ran
      rw [ran]
  | cons first rest ih =>
      simp only [schedule, Option.bind_eq_some_iff] at ran
      obtain ⟨next, stepped, finished⟩ := ran
      simp only [List.map_cons, List.mem_cons, not_or] at unnamed
      rw [ih finished unnamed.2, command_pool stepped unnamed.1]

theorem schedule_outside {system : System Op Task State Choice Call}
    {config final : Config Op Task State} {commands : List (Command Task Choice Call)}
    (ran : system.schedule config commands = some final) {tasks : List Task}
    (named : ∀ command ∈ commands, command.task ∈ tasks) {task : Task} (outside : task ∉ tasks) :
    final.pool task = config.pool task := by
  refine schedule_pool ran fun listed => outside ?_
  obtain ⟨command, member, rfl⟩ := List.mem_map.mp listed
  exact named command member

theorem schedule_finds {system : System Op Task State Choice Call} {config : Config Op Task State}
    {commands : List (Command Task Choice Call)} {check : Config Op Task State → Bool}
    (ran : (system.schedule config commands).any check = true) :
    ∃ final, Reachable system config final ∧ check final = true := by
  obtain ⟨final, finished, checked⟩ := (Option.any_eq_true _ _).mp ran
  exact ⟨final, schedule_reachable finished, checked⟩

end System

end Interleaving
