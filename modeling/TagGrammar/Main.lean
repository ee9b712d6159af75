import TagGrammar.Command

/-!
# The command line program

Reads the files that an invocation may access, runs it on them, prints what it reports and writes
back the files it changed. The settings are those of the environment: no settings file is loaded.
-/

namespace TagGrammar.Program

def readEnvironment : IO Environment := do
  let texts ← Variable.all.filterMapM fun v => do
    return (← IO.getEnv v.name).map (v.name, ·)
  return ⟨Table.ofList texts⟩

/-- Adds what stands at a place, and all that stands below it. -/
partial def readPlace (tree : FileTree) (place : Place) : IO FileTree := do
  let file := (← IO.currentDir) / (Path.mk .root place).toString
  if ← file.isDir then
    let entries ← file.readDir
    entries.foldlM (fun tree entry => readPlace tree (place ++ [entry.fileName]))
      (tree.set place .directory)
  else if ← file.pathExists then
    return tree.set place (.file (← IO.FS.readBinFile file))
  else return tree

/-- Adds the directories on the way to a place, and what stands there. -/
def readAround (tree : FileTree) (path : Path) : IO FileTree := do
  let steps := ((Path.mk .root tree.working).within path).steps
  let tree ← (List.range steps.length).foldlM (fun tree n => do
    let place := steps.take n
    let file := (← IO.currentDir) / (Path.mk .root place).toString
    return if ← file.isDir then tree.set place .directory else tree) tree
  readPlace tree steps

/-- Writes back a file that a run changed. -/
def writeBack (before after : FileTree) (path : Path) : IO Unit := do
  let file := (← IO.currentDir) / path.toString
  match (before.read path).toOption, (after.read path).toOption with
  | old, some new => if old.map ByteArray.data ≠ some new.data then IO.FS.writeBinFile file new
  | some _, none => IO.FS.removeFile file
  | none, none => return

def report (run : Run) : IO Unit := do
  run.complaint.forM fun message => IO.eprintln message
  run.progress.log.forM fun record =>
    IO.eprintln s!"{record.source} - {record.level.name} - {record.message}"
  run.progress.printed.forM fun line => IO.println line

def finish : Outcome → IO UInt32
  | .exit code => return UInt32.ofInt code
  | .usage .help => do
    Command.help.forM fun line => IO.println line
    return 0
  | .usage .misuse => do
    Command.help.forM fun line => IO.eprintln line
    return 2
  | .escaped error => do
    IO.eprintln error.message
    return 1

/-- Runs the program. No test runner is attached to it, and its output takes every line. -/
def run (arguments : List String) : IO UInt32 := do
  let env ← readEnvironment
  let host : Host := ⟨.ok env, "python", fun _ => .finished 127, fun _ _ => none, .later⟩
  let working := Path.ofString (← IO.currentDir).toString
  let bare := FileTree.bare working.steps
  let paths := match arguments with
    | name :: rest =>
      match Invocation.read? host.edition name rest with
      | some (.ok invocation) => invocation.paths env working
      | _ => []
    | [] => []
  let before ← paths.foldlM readAround bare
  let run := Command.run host before arguments
  paths.forM (writeBack before run.progress.tree)
  report run
  finish run.outcome

end TagGrammar.Program

def main (arguments : List String) : IO UInt32 :=
  TagGrammar.Program.run arguments
