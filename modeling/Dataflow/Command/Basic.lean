import Dataflow.Command.Arguments
import Dataflow.Metadata.Basic
import Dataflow.Store.Folder
import Dataflow.Text.Upper

/-!
# Commands and settings

What a run of the program does is decided in two places.  Three variables of the environment say
where the definitions are kept and what is filled in where metadata is silent (`Environment`); a
variable that is not set, and a locale of blanks only, give way to a default.  The command line
names one `Command` with its arguments, and `Command.parse?` gives nothing for a line that is not
understood: an unknown command or option, an argument too many or too few.
-/

set_option autoImplicit false

namespace Dataflow

/-! ## Settings -/

/-- The variables that are looked at. -/
structure Environment where
  /-- `DATAFLOW_DOCUMENT_LOCALE`. -/
  locale : Option Text
  /-- `DATAFLOW_STORE_DIR`. -/
  storeDir : Option Text
  /-- `DATAFLOW_LOG_LEVEL`. -/
  logLevel : Option Text

namespace Environment

/-- The values for what metadata does not say. -/
def defaults (e : Environment) : Defaults :=
  match Text.strip (e.locale.getD Defaults.standardLocale) with
  | [] => .standard
  | locale => ⟨locale, false⟩

/-- The directory of the store. -/
def storePath (e : Environment) : Path := Path.ofText (e.storeDir.getD (text ".dataflows"))

/-- The level of the log. -/
def level (e : Environment) : Text := Text.upper (e.logLevel.getD (text "WARNING"))

end Environment

/-! ## Commands -/

/-- A command with its arguments. -/
inductive Command where
  /-- Print a definition. -/
  | show (workspace dataflow : Text)
  /-- Write a query, its code given or in a file. -/
  | addQuery (workspace dataflow name : Text) (code file attr sectionAttr : Option Text)
  /-- List connections. -/
  | addConnections (workspace dataflow : Text) (ids : List Text) (kind path : Text)
      (cluster : Option Text)
  /-- Save the document in a file. -/
  | save (workspace dataflow file : Text) (validateOnly : Bool)
  /-- Check the document in a file. -/
  | validate (file : Text)
  /-- Patch the entry of a query. -/
  | patch (workspace dataflow name : Text) (loadEnabled hidden : Option Bool)

namespace Command

/-- The options of `add-query`. -/
def addQueryOptions : List (String × OptionRole) :=
  [("--code", .value "code"), ("--code-file", .value "file"),
    ("--attribute", .value "attribute"), ("--section-attribute", .value "section")]

/-- The options of `add-connection`. -/
def addConnectionOptions : List (String × OptionRole) :=
  [("--kind", .value "kind"), ("--path", .value "path"), ("--cluster-id", .value "cluster")]

/-- The options of `save`. -/
def saveOptions : List (String × OptionRole) :=
  [("--validate-only", .switch "validate" true), ("--no-validate-only", .switch "validate" false)]

/-- The options of `patch-metadata`. -/
def patchOptions : List (String × OptionRole) :=
  [("--load-enabled", .switch "load" true), ("--no-load-enabled", .switch "load" false),
    ("--hidden", .switch "hidden" true), ("--visible", .switch "hidden" false)]

/-- The command of a name with its arguments. -/
def ofName? (name : String) (args : List Text) : Option Command :=
  match name with
  | "show" =>
    match Arguments.parse? [] args with
    | some ⟨[workspace, dataflow], _, _⟩ => some (.show workspace dataflow)
    | _ => none
  | "add-query" =>
    match Arguments.parse? addQueryOptions args with
    | some a =>
      match a.plain with
      | [workspace, dataflow, query] =>
        some (.addQuery workspace dataflow query (a.value? "code") (a.value? "file")
          (a.value? "attribute") (a.value? "section"))
      | _ => none
    | none => none
  | "add-connection" =>
    match Arguments.parse? addConnectionOptions args with
    | some a =>
      match a.plain, a.value? "kind", a.value? "path" with
      | workspace :: dataflow :: id :: ids, some kind, some path =>
        some (.addConnections workspace dataflow (id :: ids) kind path (a.value? "cluster"))
      | _, _, _ => none
    | none => none
  | "save" =>
    match Arguments.parse? saveOptions args with
    | some a =>
      match a.plain with
      | [workspace, dataflow, file] =>
        some (.save workspace dataflow file ((a.switch? "validate").getD false))
      | _ => none
    | none => none
  | "validate" =>
    match Arguments.parse? [] args with
    | some ⟨[file], _, _⟩ => some (.validate file)
    | _ => none
  | "patch-metadata" =>
    match Arguments.parse? patchOptions args with
    | some a =>
      match a.plain with
      | [workspace, dataflow, query] =>
        some (.patch workspace dataflow query (a.switch? "load") (a.switch? "hidden"))
      | _ => none
    | none => none
  | _ => none

/-- The command that a line names. -/
def parse? : List Text → Option Command
  | [] => none
  | ['-', '-'] :: name :: args => ofName? (String.ofList name) args
  | name :: args => ofName? (String.ofList name) args

end Command

end Dataflow
