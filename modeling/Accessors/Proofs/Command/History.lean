import Accessors.Proofs.Text.ByteOrder
import Accessors.Session
import Mathlib.Data.List.Induction

/-!
# Commands over time

A registry is a map from commands to handlers in which the last writer wins. What changes it is a
list of `Change`s, and `latest?` says what the map is after them: the last change to a command
decides, and changes to other commands do not matter. A registry `Represents` this map if all that
can be asked of it, and all that it runs, follows from the map.

In a session, changes are mixed with edits, runs and commands that are executed. `Session.change?`
says which step is a change; a command made of the plan keeps the plan of that moment.
-/

namespace Accessors

namespace Registry

variable {σ : Type}

/-! ## Changes -/

/-- A change to a registry. -/
inductive Change (σ : Type)
  /-- Gives a command a handler. -/
  | insert (command : String) (handler : Handler σ)
  /-- Takes the handler of a command away. -/
  | erase (command : String)

namespace Change

/-- The command that a change is about. -/
def command : Change σ → String
  | insert command _ => command
  | erase command => command

/-- The handler that the command has after the change. -/
def handler? : Change σ → Option (Handler σ)
  | insert _ handler => some handler
  | erase _ => none

/-- The registry after a change. -/
def apply (registry : Registry σ) : Change σ → Registry σ
  | insert command handler => registry.insert command handler
  | erase command => registry.erase command

theorem getElem?_apply (registry : Registry σ) (change : Change σ) (command : String) :
    (change.apply registry).handlers[command]? =
      if change.command = command then change.handler? else registry.handlers[command]? := by
  cases change with
  | insert name handler =>
    show (registry.handlers.insert name handler)[command]? =
      if name = command then some handler else registry.handlers[command]?
    rw [Std.TreeMap.getElem?_insert]
    simp only [Std.LawfulEqCmp.compare_eq_iff_eq]
  | erase name =>
    show (registry.handlers.erase name)[command]? =
      if name = command then none else registry.handlers[command]?
    rw [Std.TreeMap.getElem?_erase]
    simp only [Std.LawfulEqCmp.compare_eq_iff_eq]

end Change

/-- The registry after changes, one after the other. -/
def after (changes : List (Change σ)) (registry : Registry σ) : Registry σ :=
  changes.foldl Change.apply registry

/-- The handler that the last change to a command has left it with. -/
def latest? (changes : List (Change σ)) (command : String) : Option (Handler σ) :=
  ((changes.filter (·.command == command)).getLast?).bind Change.handler?

theorem latest?_concat (changes : List (Change σ)) (change : Change σ) (command : String) :
    latest? (changes ++ [change]) command =
      if change.command = command then change.handler? else latest? changes command := by
  by_cases h : change.command = command
  · simp [latest?, h]
  · simp [latest?, h]

/-- **After changes, a command has the handler that the last change to it has left.** -/
theorem getElem?_after (changes : List (Change σ)) (command : String) :
    (after changes {}).handlers[command]? = latest? changes command := by
  induction changes using List.reverseRecOn with
  | nil => rfl
  | append_singleton changes change ih =>
    rw [after, List.foldl_append, List.foldl_cons, List.foldl_nil, Change.getElem?_apply,
      latest?_concat, ← after, ih]

/-! ## What a registry answers -/

/-- Whether a registry is the map, as far as can be seen: the commands with a handler, their list,
which is in the order of bytes, and what running each of them comes to. -/
structure Represents (registry : Registry σ) (map : String → Option (Handler σ)) : Prop where
  contains_eq : ∀ command, registry.contains command = (map command).isSome
  mem_commands_iff : ∀ command, command ∈ registry.commands ↔ (map command).isSome = true
  commands_sorted : registry.commands.Pairwise fun a b => Text.utf8 a < Text.utf8 b
  run_of_some : ∀ command handler editor, map command = some handler →
    registry.run command editor =
      { handler editor with notices := .executing command :: (handler editor).notices }
  run_of_none : ∀ command editor, map command = none →
    registry.run command editor = { result := .error (.unknownCommand command), editor }

theorem commands_sorted (registry : Registry σ) :
    registry.commands.Pairwise fun a b => Text.utf8 a < Text.utf8 b := by
  have hordered := registry.handlers.ordered_keys
  refine hordered.imp fun h => Text.utf8_lt_iff.2 ?_
  exact compareOfLessAndEq_eq_lt.1 h

theorem represents_getElem? (registry : Registry σ) :
    registry.Represents fun command => registry.handlers[command]? := by
  have hcontains (command : String) :
      registry.contains command = registry.handlers[command]?.isSome :=
    Std.TreeMap.contains_eq_isSome_getElem?
  refine ⟨hcontains, fun command => ?_, registry.commands_sorted, ?_, ?_⟩
  · rw [registry.mem_commands, hcontains]
  · intro command handler editor h
    rw [run, h]
  · intro command editor h
    rw [run, h]

theorem represents_after (changes : List (Change σ)) :
    (after changes {}).Represents (latest? changes) := by
  have hmap : (fun command => (after changes {}).handlers[command]?) = latest? changes :=
    funext (getElem?_after changes)
  exact hmap ▸ represents_getElem? (after changes {})

end Registry

/-! ## Sessions -/

namespace Session

/-- The change that a step makes to the commands of a session, if it makes one. -/
def change? (session : Session) : Step → Option (Registry.Change Desk)
  | .install => some (.insert Registry.generateCommand (Handler.ofPlan session.plan))
  | .uninstall => some (.erase Registry.generateCommand)
  | .addCommand command (.ok handler) => some (.insert command handler)
  | .removeCommand command => some (.erase command)
  | _ => none

/-- The session after steps, one after the other. -/
def history (steps : List Step) (session : Session) : Session :=
  steps.foldl (fun session step => (session.perform step).session) session

/-- The changes that steps make to the commands, in order. -/
def changes : List Step → Session → List (Registry.Change Desk)
  | [], _ => []
  | step :: steps, session =>
    (session.change? step).toList ++ changes steps (session.perform step).session

theorem registry_ofTree (session : Session) (tree? : Except Files.Fault Files.Tree) :
    (session.ofTree tree?).session.registry = session.registry := by
  cases tree? <;> rfl

theorem registry_perform (session : Session) (step : Step) :
    (session.perform step).session.registry =
      Registry.after (session.change? step).toList session.registry := by
  cases step with
  | addCommand command handler => cases handler <;> rfl
  | choose plan => cases plan <;> rfl
  | openFile path cursor =>
    rw [perform]
    split <;> rfl
  | writeFile => exact registry_ofTree session _
  | makeDirectory => exact registry_ofTree session _
  | makeLink => exact registry_ofTree session _
  | remove => exact registry_ofTree session _
  | _ => rfl

theorem registry_history (steps : List Step) (session : Session) :
    (history steps session).registry = Registry.after (changes steps session) session.registry := by
  induction steps generalizing session with
  | nil => rfl
  | cons step steps ih =>
    show (history steps (session.perform step).session).registry = _
    rw [ih, registry_perform, changes, Registry.after, Registry.after, Registry.after,
      List.foldl_append]

theorem registry_perform_of_none {session : Session} {step : Step}
    (h : session.change? step = none) :
    (session.perform step).session.registry = session.registry := by
  rw [registry_perform, h]
  rfl

theorem getElem?_perform {session : Session} {step : Step} {command : String}
    (h : ∀ change ∈ session.change? step, change.command ≠ command) :
    (session.perform step).session.registry.handlers[command]? =
      session.registry.handlers[command]? := by
  cases hchange : session.change? step with
  | none => rw [registry_perform_of_none hchange]
  | some change =>
    have hne : change.command ≠ command := h change hchange
    rw [registry_perform, hchange]
    show (change.apply session.registry).handlers[command]? = _
    rw [Registry.Change.getElem?_apply, if_neg hne]

/-- Whether a session answers about its commands, and executes them, as a map says. -/
structure Serves (session : Session) (map : String → Option (Handler Desk)) : Prop where
  present : ∀ command,
    (session.perform (.hasCommand command)).answer = .present (map command).isSome
  removed : ∀ command,
    (session.perform (.removeCommand command)).answer = .removed (map command).isSome
  /-- A command does what its handler does, and nothing else happens to the session. -/
  run_of_some : ∀ command handler, map command = some handler →
    let response := handler session.desk
    let reply := session.perform (.runCommand command)
    reply.answer = (match response.result with
      | .ok outcome => .outcome outcome
      | .error error => .failed error) ∧
    reply.session = { session with desk := response.editor } ∧
    reply.notices = .executing command :: response.notices
  run_of_none : ∀ command, map command = none →
    session.perform (.runCommand command) =
      { answer := .failed (.unknownCommand command), session }

theorem serves_of_represents {session : Session}
    {map : String → Option (Handler Desk)} (h : session.registry.Represents map) :
    session.Serves map where
  present command := congrArg Answer.present (h.contains_eq command)
  removed command := congrArg Answer.removed (h.contains_eq command)
  run_of_some command handler hmap := by
    have hreply : session.perform (.runCommand command) =
        session.ofResponse (session.registry.run command session.desk) .outcome := rfl
    rw [hreply, h.run_of_some command handler session.desk hmap]
    refine ⟨?_, rfl, rfl⟩
    simp only [ofResponse]
    cases (handler session.desk).result <;> rfl
  run_of_none command hmap := by
    have hreply : session.perform (.runCommand command) =
        session.ofResponse (session.registry.run command session.desk) .outcome := rfl
    rw [hreply, h.run_of_none command session.desk hmap]
    rfl

/-- **The last writer wins.** After any changes to a registry for editors of any kind, the registry
is the map that leads each command to the handler that the last change to it has left it with.

After any steps of a session that begins without commands, its registry is that map for the changes
among the steps, whatever else was done in between. It answers and executes by this map, a command
that is executed changes no command, and a step leaves the commands alone that it is not about. -/
theorem last_writer_wins :
    (∀ (σ : Type) (changes : List (Registry.Change σ)),
      (Registry.after changes {}).Represents (Registry.latest? changes)) ∧
    ∀ (desk : Desk) (plan : Plan) (steps : List Step),
      let start : Session := { desk, plan }
      let session := history steps start
      let map := Registry.latest? (changes steps start)
      session.registry.Represents map ∧ session.Serves map ∧
        (∀ command,
          (session.perform (.runCommand command)).session.registry = session.registry) ∧
        ∀ step command, (∀ change ∈ session.change? step, change.command ≠ command) →
          (session.perform step).session.registry.handlers[command]? =
            session.registry.handlers[command]? := by
  refine ⟨fun _ => Registry.represents_after, fun desk plan steps => ?_⟩
  have hregistry := registry_history steps { desk, plan }
  have hmap : (history steps { desk, plan }).registry.Represents
      (Registry.latest? (changes steps { desk, plan })) := by
    rw [hregistry]
    exact Registry.represents_after _
  exact ⟨hmap, serves_of_represents hmap, fun _ => registry_perform_of_none rfl,
    fun _ _ => getElem?_perform⟩

end Session

end Accessors
