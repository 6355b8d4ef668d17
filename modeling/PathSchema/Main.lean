import PathSchema.Execution
import PathSchema.Pattern.Engine

/-!
# The program

The program collects what a command may look at, runs the command on it, and writes
what the command wrote.
-/

namespace PathSchema

namespace Program

/-- The bytes of a file; one that cannot be read has bytes that are no text. -/
def content (path : String) : IO ByteArray := do
  try IO.FS.readBinFile path catch _ => return ⟨#[0xff]⟩

/-- The tree of a directory with these entries.  Links are not followed, and of the
files only the manifests are read. -/
partial def directory (entries : Array IO.FS.DirEntry) : IO FileTree := do
  let mut children := #[]
  for entry in entries do
    match (← entry.path.symlinkMetadata).type with
    | .dir =>
      children := children.push (entry.fileName, ← directory (← entry.path.readDir))
    | .file =>
      if Harvest.isManifest entry.fileName then
        children := children.push (entry.fileName, .file (← content entry.path.toString))
    | _ => pure ()
  return .directory children.toList

def tree? (path : String) : IO (Option FileTree) := do
  match ← (IO.FS.realPath path).toBaseIO with
  | .error _ => return none
  | .ok place =>
    if ← place.isDir then return some (← directory (← place.readDir))
    else return some (.file (← content path))

/-- The values of some environment variables. -/
def environment (names : List String) : IO (String → Option String) := do
  let values ← names.filterMapM fun name => do
    if name.isEmpty then return none
    else return (← IO.getEnv name).map fun value => (name, value)
  return fun name => values.lookup name

/-- The directory of the user's configurations. -/
def configHome : IO (Option String) := do
  match ← IO.getEnv "XDG_CONFIG_HOME" with
  | some home => if home.startsWith "/" then return some home
  | none => pure ()
  return (← IO.getEnv "HOME").map fun home => FileTree.joinPath home ".config"

/-- The line with which a shell completes the names of the commands. -/
def script (shell : Shell) : String :=
  let names := String.intercalate " " (Verb.all.map Verb.name)
  let program := "schematic"
  Console.line <|
    match shell with
    | .bash => "complete -W '" ++ names ++ "' " ++ program
    | .zsh => "compctl -k '(" ++ names ++ ")' " ++ program
    | .fish => "complete -c " ++ program ++ " -f -a '" ++ names ++ "'"
    | .powerShell =>
      "Register-ArgumentCompleter -Native -CommandName " ++ program ++
        " -ScriptBlock \x7b '" ++ names ++ "' -split ' ' \x7d"
    | .elvish =>
      "set edit:completion:arg-completer[" ++ program ++ "] = \x7b |@words| put " ++ names ++
        " \x7d"

/-- Runs an invocation, and gives its exit code. -/
def execute (invocation : Invocation) : IO UInt32 := do
  let stdout ← IO.getStdout
  let stderr ← IO.getStderr
  let home ← configHome
  let trees ← (Execution.places home invocation).mapM fun path =>
    return (path, ← tree? path)
  let around : Surroundings :=
    { files := fun path => (trees.lookup path).join
      environment := fun _ => none
      configHome := home }
  let around :=
    { around with environment := ← environment (Execution.environmentNames around invocation) }
  let color := !invocation.noColor && (← stdout.isTty)
  let execution := Execution.run script around color invocation
  stdout.putStr execution.output
  stdout.flush
  match execution.result with
  | .ok () => return 0
  | .error failure =>
    stderr.putStrLn (failure.labelled color)
    if failure.showsHelp then stderr.putStrLn "\nFor more information, try '--help'"
    return failure.exitCode.toUInt32

end Program

end PathSchema

open PathSchema in
/-- Runs what the command line asks for. -/
def main (arguments : List String) : IO UInt32 := do
  let names := (Parameter.known none).filterMap Parameter.environmentName?
  match Invocation.ofArguments (← Program.environment names) arguments with
  | .ok invocation => Program.execute invocation
  | .error error =>
    let stream ← if error.exitCode = 0 then IO.getStdout else IO.getStderr
    stream.putStr error.message
    return error.exitCode.toUInt32
