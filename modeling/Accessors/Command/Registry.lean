import Accessors.Plan
import Std.Data.TreeMap

/-!
# Commands

A `Registry` maps the names of commands to their handlers, one handler to a name; inserting a
name again replaces its handler. Names are listed in the order of their characters.
-/

namespace Accessors

/-- What a command does to an editor. -/
abbrev Handler (σ : Type) := σ → Response σ Outcome

namespace Handler

variable {σ : Type} [Editor σ]

def ofPlan (plan : Plan) : Handler σ :=
  plan.run

def idle : Handler σ := fun editor =>
  { result := .ok .noDocument, editor }

def failing (detail : String) : Handler σ := fun editor =>
  { result := .error (.editor detail), editor }

/-- Puts fragments in at the cursor. -/
def inserting (declaration : String) (fragments : List String) : Handler σ := fun editor =>
  match Editor.cursor? editor with
  | none => { result := .ok .noDocument, editor }
  | some cursor =>
    let response := Editor.insert editor cursor fragments
    { response with
      result := response.result.map fun _ => .inserted declaration fragments.length cursor }

end Handler

/-- The commands of a program and their handlers. -/
structure Registry (σ : Type) where
  /-- The handler of each command. -/
  handlers : Std.TreeMap String (Handler σ) := {}

namespace Registry

variable {σ : Type}

/-- The command that generates accessors. -/
def generateCommand : String := "extension.genGettersSetters"

def contains (registry : Registry σ) (command : String) : Bool :=
  registry.handlers.contains command

/-- The commands that have a handler, in order. -/
def commands (registry : Registry σ) : List String :=
  registry.handlers.keys

/-- Gives a command a handler in place of the one it has. -/
def insert (registry : Registry σ) (command : String) (handler : Handler σ) : Registry σ :=
  ⟨registry.handlers.insert command handler⟩

/-- What giving a command a handler reports. -/
def insertNotices (registry : Registry σ) (command : String) : List Log.Notice :=
  if registry.contains command then [.registeredTwice command] else []

/-- Takes the handler of a command away. -/
def erase (registry : Registry σ) (command : String) : Registry σ :=
  ⟨registry.handlers.erase command⟩

/-- Runs the handler of a command. -/
def run (registry : Registry σ) (command : String) : Handler σ := fun editor =>
  match registry.handlers[command]? with
  | none => { result := .error (.unknownCommand command), editor }
  | some handler =>
    let response := handler editor
    { response with notices := .executing command :: response.notices }

/-- Makes the command that generates accessors run a plan. -/
def install [Editor σ] (registry : Registry σ) (plan : Plan) : Registry σ :=
  registry.insert generateCommand (Handler.ofPlan plan)

/-- Takes the command that generates accessors away. -/
def uninstall (registry : Registry σ) : Registry σ :=
  registry.erase generateCommand

theorem contains_insert (registry : Registry σ) (command other : String) (handler : Handler σ) :
    (registry.insert command handler).contains other =
      (command == other || registry.contains other) := by
  rw [Bool.eq_iff_iff]
  simp [insert, contains, Std.TreeMap.contains_insert]

theorem contains_erase (registry : Registry σ) (command other : String) :
    (registry.erase command).contains other = (command != other && registry.contains other) := by
  rw [Bool.eq_iff_iff]
  simp [erase, contains, Std.TreeMap.contains_erase]

theorem mem_commands (registry : Registry σ) (command : String) :
    command ∈ registry.commands ↔ registry.contains command = true := by
  simp [commands, contains]

end Registry

end Accessors
