import ServiceWiring.CommandLine.Run

/-!
# The program

Runs a command line on the files below the working directory as they are when it
starts. All that is decided is decided by `CommandLine.run`; here files and variables
are read and the outcome is written.
-/

namespace ServiceWiring.CommandLine

/-- The tree of what a directory entry names. Only files, links and directories count;
a link holds the path that it leads to in the end. -/
partial def readTree (entry : IO.FS.DirEntry) : IO (List (String × FileTree)) := do
  match (← entry.path.symlinkMetadata).type with
  | .dir => return [(entry.fileName, .directory (← entries (← entry.path.readDir)))]
  | .file => return [(entry.fileName, .file (← IO.FS.readBinFile entry.path))]
  | .symlink => return [(entry.fileName, .link (← IO.FS.realPath entry.path).toString)]
  | .other => return []
where
  /-- The trees of several entries. -/
  entries (found : Array IO.FS.DirEntry) : IO (List (String × FileTree)) := do
    return (← found.toList.mapM readTree).flatten

/-- The files below the working directory. -/
def currentFiles : IO FileSystem := do
  let directory ← IO.currentDir
  let entries ← readTree.entries (← directory.readDir)
  let place := (FileSystem.pieces directory.toString).filter (!·.isEmpty)
  return ⟨FileTree.empty.insert place (.directory entries), place⟩

/-- The variables in a text in which each of them ends in a null character. -/
def variablesIn (text : String) : List (String × String) :=
  (Text.splitOnChar '\x00' text.toList).filterMap fun line =>
    (Text.cutAt '=' line).map fun (name, value) => (String.ofList name, String.ofList value)

/-- The environment variables of the process, where the system shows them. -/
def currentVariables : IO (List (String × String)) := do
  try
    return variablesIn ((String.fromUTF8? (← IO.FS.readBinFile "/proc/self/environ")).getD "")
  catch _ => return []

/-- The file that a run has written, if it has. -/
def written? (arguments : List String) (outcome : Outcome) : Option (String × String) :=
  match outcome.code, Invocation.ofArguments arguments with
  | 0, .ok invocation => do
    let path ← invocation.output
    return (path, ← outcome.system.readText? path)
  | _, _ => none

end ServiceWiring.CommandLine

open ServiceWiring.CommandLine

/-- Runs the command line of the process. -/
def main (arguments : List String) : IO UInt32 := do
  let outcome := run arguments (← currentFiles) (← currentVariables)
  if let some (path, text) := written? arguments outcome then IO.FS.writeFile path text
  IO.print outcome.output
  IO.eprint outcome.errors
  return outcome.code.toUInt32
