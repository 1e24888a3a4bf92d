import Dataflow.Command.Basic
import Dataflow.Command.Output
import Dataflow.Store.Disk

/-!
# Running a command

A command works on the store in a folder and prints what it did.  Running it, `Command.runLine`, is
a function from the folder and the supply of ids to an `Outcome`: what was printed, how the command
ended, and the folder and the supply afterwards.

What a command does and what it prints are kept apart.  `Command.draft` calls the service and leaves
the items to be printed, and only then are they laid out for the screen.  A failure of a service is
printed and ends the command.  A document that cannot be read as text ends it without a message, and
so does an item that cannot be printed; each of these is an `Abort`.

The outer program has to know which files a command may read, `Command.reads`, so that it can fetch
them before the command runs, and which have changed afterwards, `Command.written`.
-/

set_option autoImplicit false

namespace Dataflow

/-- Why a command broke off. -/
inductive Abort where
  /-- A file could not be read as text. -/
  | failed (failure : Failure)
  /-- A directory was given for a file. -/
  | directory
  /-- A path leads through a file. -/
  | belowFile
  /-- Something printed closes a style that is not open. -/
  | markup

/-- How a command ended. -/
inductive Ending where
  /-- It did what was asked. -/
  | success
  /-- It printed why it did not. -/
  | failure
  /-- It broke off. -/
  | aborted (cause : Abort)
  /-- The command line was not understood. -/
  | misuse

/-- The status with which the program ends. -/
def Ending.status : Ending → Nat
  | success => 0
  | failure => 1
  | aborted _ => 1
  | misuse => 2

/-- What came of a command. -/
structure Outcome where
  /-- How it ended. -/
  ending : Ending
  /-- What it printed. -/
  printed : Text
  /-- The files afterwards. -/
  folder : Folder
  /-- The ids afterwards. -/
  ids : IdSupply

/-! ## Running -/

namespace Command

/-- The text of a file, the items to print if there is no file, or the reason to break off. -/
inductive DocumentFile where
  | document (t : Text)
  | missing (items : List ScreenItem)
  | unreadable (cause : Abort)

/-- Read a file that was named on the command line. -/
def readDocument (folder : Folder) (file : Text) : DocumentFile :=
  let path := (Path.ofText file).toText
  if path.contains '\x00' then .unreadable (.failed .nullInPath)
  else
    match folder.bytes? path with
    | some bytes =>
      match Folder.textOf bytes with
      | .ok t => .document t
      | .error fault => .unreadable (.failed (.undecodableFile fault))
    | none =>
      if folder.isDirectory path then .unreadable .directory
      else if folder.isBelowFile path then .unreadable .belowFile
      else .missing [failureLine (text "File not found: " ++ path)]

/-- What a command leaves to be printed. -/
structure Draft where
  /-- How it ends if all can be printed. -/
  ending : Ending
  /-- What is to be printed. -/
  items : List ScreenItem
  /-- The store and the ids afterwards. -/
  desk : Desk DiskStore

/-- The draft after a service: what is printed on success, or the failure. -/
def draftOf {α : Type} (outcome : Except Failure α × Desk DiskStore)
    (success : α → Ending × List ScreenItem) : Draft :=
  match outcome with
  | (.ok a, desk) => ⟨(success a).1, (success a).2, desk⟩
  | (.error failure, desk) => ⟨.failure, [failureLine failure.message.shown], desk⟩

/-- The draft of a command that needs a document. -/
def withDocument (desk : Desk DiskStore) (file : Text) (next : Text → Draft) : Draft :=
  match readDocument desk.store.folder file with
  | .document t => next t
  | .missing items => ⟨.failure, items, desk⟩
  | .unreadable cause => ⟨.aborted cause, [], desk⟩

/-- What a command does, before anything is printed. -/
def draft (desk : Desk DiskStore) (defaults : Defaults) : Command → Draft
  | .show workspace dataflow =>
    draftOf (desk.view workspace dataflow, desk) fun v => (.success, viewItems v)
  | .addQuery workspace dataflow name code file attr sectionAttr =>
    let add (expression : Text) : Draft :=
      draftOf (desk.addQuery workspace dataflow (Text.widen name) (Text.widen expression)
          (attr.map Text.widen) (sectionAttr.map Text.widen) defaults)
        fun _ => (.success, [.line (styled "green" (text "Upserted") ++ text " query '" ++ name
          ++ text "' in dataflow " ++ dataflow)])
    match code, file with
    | some expression, _ => add expression
    | none, some file => withDocument desk file add
    | none, none =>
      ⟨.failure, [failureLine (text "Either --code or --code-file must be provided.")], desk⟩
  | .addConnections workspace dataflow ids kind path cluster =>
    let ids := Connection.idsAmong [] (ids.map fun id => .string (Text.widen id))
    let lookup : Option ClusterLookup :=
      match cluster with
      | none | some [] => none
      | some c => some fun _ => .ok (some (Text.widen c))
    let requests := ids.map fun id => ⟨id, Text.widen kind, Text.widen path⟩
    draftOf (desk.addConnections workspace dataflow requests lookup defaults)
      fun _ => (.success, [.line (styled "green" (text "Registered") ++ ' ' :: decimal ids.length
        ++ text " connection(s) in dataflow " ++ dataflow)])
  | .save workspace dataflow file validateOnly =>
    withDocument desk file fun document =>
      draftOf (desk.saveDocument workspace dataflow (Text.widen document) validateOnly defaults)
        fun r => (match r.stage with
          | .validation | .parsing => .failure
          | .validated | .saved => .success, saveItems dataflow r)
  | .validate file =>
    withDocument desk file fun document =>
      let r := Mashup.inspect document
      let verdict := text (if r.isGen2 then "Gen2 FastCopy" else "Gen1 Pipeline")
      if r.isValid then
        ⟨.success, reportLines r ++
          [.line (styled "green" (text "Valid") ++ text " (" ++ verdict ++ text ")")], desk⟩
      else ⟨.failure, reportLines r, desk⟩
  | .patch workspace dataflow name loadEnabled hidden =>
    draftOf (desk.patchQuery workspace dataflow (Text.widen name) ⟨loadEnabled, hidden, none⟩)
      fun _ => (.success, [.line (styled "green" (text "Patched") ++ text " metadata for query '"
        ++ name ++ text "'")])

/-- The outcome of a command line. -/
def runLine (line : List Text) (e : Environment) (folder : Folder) (ids : IdSupply) : Outcome :=
  match parse? line with
  | none => ⟨.misuse, [], folder, ids⟩
  | some command =>
    let d := command.draft ⟨⟨e.storePath, folder⟩, ids⟩ e.defaults
    let (printed, complete) := ScreenItem.renderAll d.items
    ⟨if complete then d.ending else .aborted .markup, printed, d.desk.store.folder, d.desk.ids⟩

/-! ## The files of a command -/

/-- The document that a command is given. -/
def documentFile? : Command → Option Text
  | .addQuery _ _ _ none (some file) _ _ => some file
  | .save _ _ file _ => some file
  | .validate file => some file
  | _ => none

/-- The dataflow on which a command works. -/
def target? : Command → Option (Text × Text)
  | .show workspace dataflow => some (workspace, dataflow)
  | .addQuery workspace dataflow _ _ _ _ _ => some (workspace, dataflow)
  | .addConnections workspace dataflow _ _ _ _ => some (workspace, dataflow)
  | .save workspace dataflow _ _ => some (workspace, dataflow)
  | .validate _ => none
  | .patch workspace dataflow _ _ _ => some (workspace, dataflow)

/-- The path of the definition on which a command works, if its ids can be part of one. -/
def targetFile? (e : Environment) (c : Command) : Option Text :=
  match c.target? with
  | none => none
  | some (workspace, dataflow) =>
    ((⟨e.storePath, .empty⟩ : DiskStore).placeFor workspace dataflow).toOption

/-- The paths that a command line may read. -/
def reads (e : Environment) (line : List Text) : List Text :=
  match parse? line with
  | none => []
  | some c =>
    (c.documentFile?.map fun file => (Path.ofText file).toText).toList ++ (c.targetFile? e).toList

/-- The files of an outcome that differ from those of the folder before it. -/
def written (before after : Folder) : List (Text × Bytes) :=
  after.files.filter fun file => before.bytes? file.1 != some file.2

/-- The directory in which a path lies. -/
def parentOf (path : Text) : Text := (path.reverse.dropWhile (· ≠ '/')).reverse

end Command

end Dataflow
