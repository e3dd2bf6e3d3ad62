import Accessors.Command.Registry
import Accessors.CommandLine.Reader
import Accessors.Editor.OpenFile
import Accessors.Json.Records
import Accessors.Log.Filter

/-!
# The program

`Program.run` is all that the program does, as a function of its arguments, the log filter and the
files: it reads the arguments, puts the settings together, opens the file, and prints the
properties, prints the accessors, or puts the accessors into the file. What it comes to is a
`Report`.
-/

namespace Accessors.Program

/-! ## The work of an invocation -/

/-- What work comes to. -/
structure Work where
  /-- What is printed, or why the work failed. -/
  result : Except Error String
  /-- What happened on the way, in order. -/
  notices : List Log.Notice
  tree : Files.Tree

/-- What printing shows for properties: a list in JSON, or the accessors. -/
def preview (invocation : Invocation) (plan : Plan) (properties : List Property) : String :=
  if invocation.list then Property.listToJson properties ++ "\n"
  else if properties.isEmpty then ""
  else plan.layout.block properties ++ "\n"

/-- Prints the properties or the accessors and leaves the file alone. -/
def print (invocation : Invocation) (plan : Plan) (desk : FileDesk) : Work :=
  match plan.properties? desk with
  | .error error => { result := .error error, notices := [], tree := desk.tree }
  | .ok none => { result := .ok "", notices := [], tree := desk.tree }
  | .ok (some (declaration, properties)) =>
    { result := .ok (preview invocation plan properties)
      notices := plan.searchNotices desk
        ++ [.counted properties.length (plan.query.interface declaration)]
      tree := desk.tree }

/-- What is printed for an outcome. -/
def outcomeText : Outcome → String
  | .inserted declaration count position =>
    "✅ Inserted accessors for " ++ toString count ++ " properties of " ++ declaration
      ++ " at line " ++ toString (position.line + 1).toNat ++ "\n"
  | _ => ""

/-- What an outcome reports. -/
def outcomeNotices (path : String) : Outcome → List Log.Notice
  | .inserted _ _ _ => []
  | .noProperties declaration => [.nothingInserted declaration path]
  | .noDocument => [.nothingToEdit]

def edit (plan : Plan) (desk : FileDesk) : Work :=
  let registry := Registry.install {} plan
  let response := registry.run Registry.generateCommand desk
  let tree := response.editor.tree
  match response.result with
  | .error error => { result := .error error, notices := response.notices, tree }
  | .ok outcome =>
    { result := .ok (outcomeText outcome)
      notices := response.notices ++ outcomeNotices desk.file.path outcome
      tree }

/-- Does what an invocation asks for with the file that is open. -/
def serve (invocation : Invocation) (plan : Plan) (desk : FileDesk) : Work :=
  if invocation.list || invocation.dryRun then print invocation plan desk
  else edit plan desk

/-- Does what an invocation asks for. -/
def carryOut (invocation : Invocation) (tree : Files.Tree) : Work :=
  match invocation.check with
  | .error error => { result := .error error, notices := [], tree }
  | .ok () =>
    let setting := invocation.settingsNotices tree
    match invocation.settings tree with
    | .error error => { result := .error error, notices := setting, tree }
    | .ok settings =>
      match OpenFile.open? tree invocation.file invocation.cursor with
      | .error error => { result := .error error, notices := setting, tree }
      | .ok file =>
        let work := serve invocation (settings.plan invocation.declaration) ⟨file, tree⟩
        { work with notices := setting ++ file.openedNotice :: work.notices }

/-! ## The run of the program -/

/-- A line on the error channel. -/
inductive ErrorLine
  | logged (notice : Log.Notice)
  /-- A message for the user. -/
  | plain (text : String)
deriving DecidableEq, Repr

/-- What a run of the program comes to. -/
structure Report where
  exitCode : Nat
  output : String := ""
  /-- What goes to the error channel, in order. -/
  errors : List ErrorLine := []
  /-- Whether notices are written in JSON. -/
  jsonLogs : Bool := false
  tree : Files.Tree

def logLines (filter : Log.Filter) (notices : List Log.Notice) : List ErrorLine :=
  (notices.filter filter.passes).map .logged

/-- What work on an invocation comes to for the user. -/
def conclude (invocation : Invocation) (filter : Log.Filter) (work : Work) : Report :=
  let logged := logLines filter work.notices
  match work.result with
  | .ok output =>
    { exitCode := 0, output, errors := logged, jsonLogs := invocation.jsonLogs, tree := work.tree }
  | .error error =>
    { exitCode := 1
      errors :=
        logged ++ logLines filter [.failed error, .advice error]
          ++ [.plain ("❌ " ++ error.friendly)]
      jsonLogs := invocation.jsonLogs
      tree := work.tree }

/-- Runs the program on its arguments, with a log filter if one is given. -/
def run (arguments : List String) (logFilter : Option String) (tree : Files.Tree) : Report :=
  match CommandLine.read arguments with
  | .error fault => { exitCode := fault.exitCode, tree }
  | .ok invocation =>
    let filter := Log.Filter.choose invocation.verbose logFilter
    conclude invocation filter (carryOut invocation tree)

end Accessors.Program
