import Accessors.CommandLine.Invocation
import Accessors.Text.Number

/-!
# Reading the command line

Arguments are read from left to right. An option takes its value from the same argument, behind an
equals sign or right behind a one-letter name, or from the next argument if that is no option. What
an argument gives is settled when the next one is recognised, so an argument that is not recognised
is reported before a bad value right in front of it. What is missing is seen at the end.
-/

namespace Accessors.CommandLine

/-- Why arguments are not read as an invocation. -/
inductive Fault
  /-- The file or the line is missing. -/
  | missing
  /-- An argument is not known, or is one too many. -/
  | unknown
  /-- An option has no value, or a path is empty. -/
  | noValue
  /-- A value is not a number that fits. -/
  | badValue
  /-- An option is given twice. -/
  | repeated
  /-- A flag is given a value. -/
  | unwantedValue
  | help
deriving DecidableEq, Repr, Inhabited

/-- The exit code for arguments that are not read; asking for help is no error. -/
def Fault.exitCode : Fault → Nat
  | help => 0
  | _ => 2

/-- What a value can be given for. -/
inductive Slot
  | file
  | line
  | column
  | declaration
  | config
  /-- What goes in front of names. -/
  | lead
  /-- What goes behind names. -/
  | tail
  | indent
deriving DecidableEq, Repr, Inhabited

/-- What can be switched on. -/
inductive Flag
  /-- Lines of white space only are passed over. -/
  | skipBlank
  /-- The accessors are printed. -/
  | dryRun
  /-- The properties are printed. -/
  | list
  | verbose
  | jsonLogs
deriving DecidableEq, Repr, Inhabited

/-- What a name on the command line stands for. -/
inductive Item
  /-- An option with a value. -/
  | slot (slot : Slot)
  /-- An option without one. -/
  | flag (flag : Flag)
  | help
deriving DecidableEq, Repr, Inhabited

def longItem? : String → Option Item
  | "line" => some (.slot .line)
  | "column" => some (.slot .column)
  | "interface" => some (.slot .declaration)
  | "config" => some (.slot .config)
  | "prefix" => some (.slot .lead)
  | "suffix" => some (.slot .tail)
  | "indent" => some (.slot .indent)
  | "skip-blank-lines" => some (.flag .skipBlank)
  | "dry-run" => some (.flag .dryRun)
  | "list" => some (.flag .list)
  | "verbose" => some (.flag .verbose)
  | "json-logs" => some (.flag .jsonLogs)
  | "help" => some .help
  | _ => none

def shortItem? : Char → Option Item
  | 'l' => some (.slot .line)
  | 'i' => some (.slot .declaration)
  | 'c' => some (.slot .config)
  | 'v' => some (.flag .verbose)
  | 'h' => some .help
  | _ => none

/-! ## Values -/

/-- A number of 32 bits, with a sign or without. -/
def word? (text : String) : Option UInt32 :=
  let number? : Option Int :=
    match text.toList with
    | '+' :: cs => (Text.decimal? cs).map Int.ofNat
    | '-' :: cs => (Text.decimal? cs).map fun number => -Int.ofNat number
    | cs => (Text.decimal? cs).map Int.ofNat
  match number? with
  | some number =>
    if 0 ≤ number ∧ number < UInt32.size then some (UInt32.ofNat number.toNat) else none
  | none => none

/-- A number of 64 bits, with a plus sign or without. -/
def count? (text : String) : Option Nat :=
  let number? :=
    match text.toList with
    | '+' :: cs => Text.decimal? cs
    | cs => Text.decimal? cs
  number?.filter (· < UInt64.size)

/-! ## The state of reading -/

/-- What has been read: the values that are settled, the flags that are on, and what is left open. -/
structure Draft where
  file : Option String := none
  line : Option UInt32 := none
  column : Option UInt32 := none
  declaration : Option String := none
  config : Option String := none
  lead : Option String := none
  tail : Option String := none
  indent : Option Nat := none
  flags : List Flag := []
  /-- What is not settled yet, with its value if there is one. -/
  pending : Option (Slot × Option String) := none
  /-- Whether all further arguments are values. -/
  onlyValues : Bool := false
deriving DecidableEq, Repr, Inhabited

namespace Draft

def isGiven (draft : Draft) : Slot → Bool
  | .file => draft.file.isSome
  | .line => draft.line.isSome
  | .column => draft.column.isSome
  | .declaration => draft.declaration.isSome
  | .config => draft.config.isSome
  | .lead => draft.lead.isSome
  | .tail => draft.tail.isSome
  | .indent => draft.indent.isSome

/-- A value that is there, or a fault. -/
def orFault {α : Type} (fault : Fault) : Option α → Except Fault α
  | some a => .ok a
  | none => .error fault

/-- A path, which is not empty. -/
def path? (text : String) : Option String :=
  if text.isEmpty then none else some text

/-- Settles the value of a slot. -/
def store (draft : Draft) (slot : Slot) (text : String) : Except Fault Draft :=
  if draft.isGiven slot then
    .error .repeated
  else
    match slot with
    | .file => do return { draft with file := some (← orFault .noValue (path? text)) }
    | .line => do return { draft with line := some (← orFault .badValue (word? text)) }
    | .column => do return { draft with column := some (← orFault .badValue (word? text)) }
    | .declaration => .ok { draft with declaration := some text }
    | .config => do return { draft with config := some (← orFault .noValue (path? text)) }
    | .lead => .ok { draft with lead := some text }
    | .tail => .ok { draft with tail := some text }
    | .indent => do return { draft with indent := some (← orFault .badValue (count? text)) }

/-- Settles what is pending. -/
def settle (draft : Draft) : Except Fault Draft :=
  match draft.pending with
  | none => .ok draft
  | some (_, none) => .error .noValue
  | some (slot, some text) => { draft with pending := none }.store slot text

def switch (draft : Draft) (flag : Flag) : Except Fault Draft := do
  let draft ← draft.settle
  if draft.flags.contains flag then throw .repeated
  return { draft with flags := flag :: draft.flags }

/-- Gives a slot the value from its own argument. -/
def give (draft : Draft) (slot : Slot) (text : String) : Except Fault Draft := do
  (← draft.settle).store slot text

/-- Leaves a slot waiting for its value. -/
def await (draft : Draft) (slot : Slot) : Except Fault Draft := do
  return { ← draft.settle with pending := some (slot, none) }

/-- Settles what is pending and gives way to the request for help. -/
def askHelp (draft : Draft) : Except Fault Draft := do
  let _ ← draft.settle
  throw .help

/-! ## One argument -/

/-- Reads a long option, without its dashes. -/
def readLong (draft : Draft) (cs : List Char) : Except Fault Draft :=
  let name := String.ofList (cs.takeWhile (· ≠ '='))
  let value? :=
    match cs.dropWhile (· ≠ '=') with
    | [] => none
    | _ :: text => some (String.ofList text)
  match longItem? name, value? with
  | none, _ => .error .unknown
  | some (.slot slot), some text => draft.give slot text
  | some (.slot slot), none => draft.await slot
  | some (.flag flag), none => draft.switch flag
  | some .help, none => draft.askHelp
  | some _, some _ => .error .unwantedValue

/-- Reads one-letter options, without their dash. -/
def readShort (draft : Draft) : List Char → Except Fault Draft
  | [] => .ok draft
  | c :: cs =>
    match shortItem? c with
    | none => .error .unknown
    | some (.flag flag) => do (← draft.switch flag).readShort cs
    | some .help => draft.askHelp
    | some (.slot slot) =>
      match cs with
      | [] => draft.await slot
      | '=' :: text => draft.give slot (String.ofList text)
      | text => draft.give slot (String.ofList text)

def hasFile (draft : Draft) : Bool :=
  draft.file.isSome || draft.pending.any (·.1 == .file)

/-- Reads the name of the file, of which there is one. -/
def readFile (draft : Draft) (text : String) : Except Fault Draft :=
  if draft.hasFile then .error .unknown
  else do return { ← draft.settle with pending := some (.file, some text) }

/-- Reads an argument that is no option: the value that is waited for, or the file. -/
def readValue (draft : Draft) (text : String) : Except Fault Draft :=
  match draft.pending with
  | some (slot, none) => .ok { draft with pending := some (slot, some text) }
  | _ => draft.readFile text

/-- Reads an argument. -/
def read (draft : Draft) (argument : String) : Except Fault Draft :=
  if draft.onlyValues then draft.readFile argument
  else
    match argument.toList with
    | ['-', '-'] => .ok { draft with onlyValues := true }
    | '-' :: '-' :: cs => draft.readLong cs
    | '-' :: c :: cs => draft.readShort (c :: cs)
    | _ => draft.readValue argument

/-- The invocation, if nothing is missing. -/
def finish (draft : Draft) : Except Fault Invocation := do
  let draft ← draft.settle
  let file ← orFault .missing draft.file
  let line ← orFault .missing draft.line
  return {
    file
    line
    column := draft.column.getD 1
    declaration := draft.declaration
    config := draft.config
    lead := draft.lead
    tail := draft.tail
    indent := draft.indent
    skipBlank := draft.flags.contains .skipBlank
    dryRun := draft.flags.contains .dryRun
    list := draft.flags.contains .list
    verbose := draft.flags.contains .verbose
    jsonLogs := draft.flags.contains .jsonLogs }

end Draft

/-- Reads the arguments of the program. -/
def read (arguments : List String) : Except Fault Invocation := do
  (← arguments.foldlM Draft.read {}).finish

end Accessors.CommandLine
