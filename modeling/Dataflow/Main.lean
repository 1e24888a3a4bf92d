import Dataflow.Command.Run
import Dataflow.Metadata.Basic

/-!
# The command line

Fetches the files that the command line may read, runs the command on them, stores the files that
it wrote, and prints its output.
-/

set_option autoImplicit false

open Dataflow

/-- The folder of those of the paths at which there is a file. -/
def loadFolder (paths : List Text) : IO Folder :=
  paths.foldlM
    (fun folder path => do
      try
        let bytes ← IO.FS.readBinFile (String.ofList path)
        return folder.write path bytes.toList
      catch
        | .noFileOrDirectory _ _ _ => return folder
        | e => throw e)
    Folder.empty

/-- Write files, with the directories in which they lie. -/
def storeFiles (files : List (Text × Bytes)) : IO Unit := do
  for (path, bytes) in files do
    let parent := Command.parentOf path
    unless parent.isEmpty do
      IO.FS.createDirAll (String.ofList parent)
    IO.FS.writeBinFile (String.ofList path) bytes.toByteArray

/-- The variables of the environment. -/
def readEnvironment : IO Environment := do
  let look (name : String) : IO (Option Text) := do
    return (← IO.getEnv name).map String.toList
  return ⟨← look "DATAFLOW_DOCUMENT_LOCALE", ← look "DATAFLOW_STORE_DIR",
    ← look "DATAFLOW_LOG_LEVEL"⟩

/-- Run the command that the arguments name. -/
def main (args : List String) : IO UInt32 := do
  let line := args.map String.toList
  let environment ← readEnvironment
  let folder ← loadFolder (Command.reads environment line)
  let seed ← IO.rand 0 (Nat.pow 2 62)
  let outcome := Command.runLine line environment folder (.random seed)
  storeFiles (Command.written folder outcome.folder)
  IO.print (String.ofList outcome.printed)
  return outcome.ending.status.toUInt32
