import Accessors.Command.Registry
import Accessors.Editor.Buffer
import Accessors.Editor.OpenFile
import Accessors.Editor.Recorder
import Accessors.Settings.Source

/-!
# Sessions

A session is a desk with one editor and the files around it, a plan to run, and a registry of
commands. `Session.perform` takes one step and replies; a history of steps is a fold of it.
-/

namespace Accessors

/-- The editor of a session. -/
inductive AnyEditor
  | buffer (buffer : Buffer)
  | file (file : OpenFile)
  | recorder (recorder : Recorder)
deriving Repr, Inhabited

/-- An editor of any kind and the files around it. -/
structure Desk where
  editor : AnyEditor := .buffer {}
  tree : Files.Tree := {}

namespace Desk

/-- Puts fragments in with the editor of the desk. -/
def insert (desk : Desk) (position : Text.Position) (fragments : List String) :
    Response Desk Unit :=
  match desk.editor with
  | .buffer buffer =>
    let response := Editor.insert buffer position fragments
    { response with editor := { desk with editor := .buffer response.editor } }
  | .file file =>
    let response := Editor.insert (FileDesk.mk file desk.tree) position fragments
    { response with editor := ⟨.file response.editor.file, response.editor.tree⟩ }
  | .recorder recorder =>
    let response := Editor.insert recorder position fragments
    { response with editor := { desk with editor := .recorder response.editor } }

instance : Editor Desk where
  lines? desk :=
    match desk.editor with
    | .buffer buffer => Editor.lines? buffer
    | .file file => Editor.lines? (FileDesk.mk file desk.tree)
    | .recorder recorder => Editor.lines? recorder
  fileName? desk :=
    match desk.editor with
    | .buffer buffer => Editor.fileName? buffer
    | .file file => Editor.fileName? (FileDesk.mk file desk.tree)
    | .recorder recorder => Editor.fileName? recorder
  cursor? desk :=
    match desk.editor with
    | .buffer buffer => Editor.cursor? buffer
    | .file file => Editor.cursor? (FileDesk.mk file desk.tree)
    | .recorder recorder => Editor.cursor? recorder
  insert := insert

/-- Moves the cursor of a document in memory; other cursors stay where they are. -/
def moveTo (desk : Desk) (cursor : Text.Position) : Desk :=
  match desk.editor with
  | .buffer buffer => { desk with editor := .buffer (buffer.moveTo cursor) }
  | _ => desk

end Desk

/-- A desk, the plan to run, and the commands. -/
structure Session where
  desk : Desk := {}
  /-- The plan that is run and that a command is made of. -/
  plan : Plan := {}
  registry : Registry Desk := {}

namespace Session

/-- A step of a session. -/
inductive Step
  | openBuffer (document : Option Document)
  | openFile (path : String) (cursor : Text.Position)
  | openRecorder (recorder : Recorder)
  | moveTo (cursor : Text.Position)
  | lines
  | fileName
  | insert (edit : Edit)
  | choose (plan : Except Error Plan)
  /-- Asks which declaration is looked for in a file. -/
  | declaration (fileName : String)
  | properties
  | run
  /-- Makes a command of the plan. -/
  | install
  /-- Takes that command away. -/
  | uninstall
  /-- Gives a command a handler. -/
  | addCommand (command : String) (handler : Except Error (Handler Desk))
  /-- Takes the handler of a command away. -/
  | removeCommand (command : String)
  /-- Asks whether a command has a handler. -/
  | hasCommand (command : String)
  | runCommand (command : String)
  /-- Writes a file from outside. -/
  | writeFile (path : String) (bytes : ByteArray) (mode : Files.Mode)
  /-- Makes a directory from outside. -/
  | makeDirectory (path : String)
  /-- Makes a symbolic link from outside. -/
  | makeLink (path target : String)
  /-- Removes a file from outside. -/
  | remove (path : String)

/-- The answer to a step. -/
inductive Answer
  | done
  | failed (error : Error)
  | lines (lines : Option (List String))
  | fileName (name : Option String)
  /-- The declaration that is looked for. -/
  | declaration (name : Option String)
  /-- There is no document to read properties from. -/
  | nothing
  | properties (declaration : String) (properties : List Property) (interface block : String)
  | outcome (outcome : Outcome)
  /-- Whether a handler was taken away. -/
  | removed (value : Bool)
  /-- Whether a command has a handler. -/
  | present (value : Bool)
  /-- The files could not be changed from outside. -/
  | blocked (fault : Files.Fault)
deriving Repr, Inhabited

/-- The answer to a step, the session after it, and what happened. -/
structure Reply where
  answer : Answer
  session : Session
  /-- What happened, in order. -/
  notices : List Log.Notice := []

def withEditor (session : Session) (editor : AnyEditor) : Session :=
  { session with desk := { session.desk with editor } }

def withTree (session : Session) (tree : Files.Tree) : Session :=
  { session with desk := { session.desk with tree } }

/-- The reply with what a response came to. -/
def ofResponse {α : Type} (session : Session) (response : Response Desk α) (answer : α → Answer) :
    Reply where
  answer :=
    match response.result with
    | .ok a => answer a
    | .error error => .failed error
  session := { session with desk := response.editor }
  notices := response.notices

/-- The reply after the files were changed, or could not be. -/
def ofTree (session : Session) (tree? : Except Files.Fault Files.Tree) : Reply :=
  match tree? with
  | .ok tree => { answer := .done, session := session.withTree tree }
  | .error fault => { answer := .blocked fault, session }

def addCommand (session : Session) (command : String) (handler : Handler Desk) : Reply where
  answer := .done
  session := { session with registry := session.registry.insert command handler }
  notices := session.registry.insertNotices command

def readProperties (session : Session) : Reply :=
  let plan := session.plan
  let answer :=
    match plan.properties? session.desk with
    | .error error => .failed error
    | .ok none => .nothing
    | .ok (some (declaration, properties)) =>
      .properties declaration properties (plan.query.interface declaration)
        (plan.layout.block properties)
  { answer, session, notices := plan.searchNotices session.desk }

def perform (session : Session) : Step → Reply
  | .openBuffer document =>
    { answer := .done
      session := session.withEditor (.buffer (document.elim {} Buffer.ofDocument)) }
  | .openFile path cursor =>
    match OpenFile.open? session.desk.tree path cursor with
    | .error error => { answer := .failed error, session }
    | .ok file =>
      { answer := .done
        session := session.withEditor (.file file)
        notices := [file.openedNotice] }
  | .openRecorder recorder =>
    { answer := .done, session := session.withEditor (.recorder recorder) }
  | .moveTo cursor =>
    { answer := .done, session := { session with desk := session.desk.moveTo cursor } }
  | .lines => { answer := .lines (Editor.lines? session.desk), session }
  | .fileName => { answer := .fileName (Editor.fileName? session.desk), session }
  | .insert edit =>
    session.ofResponse (Editor.insert session.desk edit.position edit.fragments) fun _ => .done
  | .choose (.ok plan) => { answer := .done, session := { session with plan } }
  | .choose (.error error) => { answer := .failed error, session }
  | .declaration fileName =>
    { answer := .declaration (session.plan.declarationOf? fileName), session }
  | .properties => session.readProperties
  | .run => session.ofResponse (session.plan.run session.desk) .outcome
  | .install =>
    session.addCommand Registry.generateCommand (Handler.ofPlan session.plan)
  | .uninstall =>
    { answer := .done, session := { session with registry := session.registry.uninstall } }
  | .addCommand command (.ok handler) => session.addCommand command handler
  | .addCommand _ (.error error) => { answer := .failed error, session }
  | .removeCommand command =>
    { answer := .removed (session.registry.contains command)
      session := { session with registry := session.registry.erase command } }
  | .hasCommand command =>
    { answer := .present (session.registry.contains command), session }
  | .runCommand command =>
    session.ofResponse (session.registry.run command session.desk) .outcome
  | .writeFile path bytes mode =>
    session.ofTree (session.desk.tree.writeFile path bytes mode)
  | .makeDirectory path => session.ofTree (session.desk.tree.makeDirectory path)
  | .makeLink path target => session.ofTree (session.desk.tree.makeLink path target)
  | .remove path =>
    session.ofTree (session.desk.tree.removeFile path)

end Session

end Accessors
