import CCompiler.Command.Run

/-!
# The command line

Reads the files that the arguments name and the headers that these may include, runs the command, and
prints and writes what it leaves behind. No other program is started from here.
-/
namespace CCompiler.CommandLine

/-- The name of a header in a line: what stands behind the word for including, in quotes or angle
    brackets. -/
def headerName? (line : List Char) : Option String := do
  let (_, behind) ← Text.cutAt? "include".toList line
  let behind := behind.dropWhile fun c => c != '"' && c != '<'
  let name := (behind.drop 1).takeWhile fun c => c != '"' && c != '>'
  if name.isEmpty then none else some (String.ofList name)

def headerNames (text : String) : List String := (Text.lines text.toList).filterMap headerName?

/-- The directories that options name, each in the same argument or the next. -/
def optionDirs : List String → List String
  | [] => []
  | argument :: rest =>
    let here := ["-I", "-iquote", "-isystem", "-idirafter"].filterMap fun option =>
      if option.toList.isPrefixOf argument.toList then some (argument.toList.drop option.length) else none
    match here with
    | [] => optionDirs rest
    | [] :: _ => rest.take 1 ++ optionDirs rest
    | dir :: _ => String.ofList dir :: optionDirs rest

def readFile? (path : String) : IO (Option String) := do
  try return some (← IO.FS.readFile path) catch _ => return none

/-- Reads files and the headers that they may include, from their own directories and some others. -/
partial def gather (dirs : List String) : List String → Files → IO Files
  | [], files => return files
  | path :: rest, files => do
    let place := (Path.ofText path).resolve
    if files.any (·.1 == place) then gather dirs rest files
    else match ← readFile? path with
      | none => gather dirs rest files
      | some text =>
        let folders := (Path.ofText path).parent :: dirs.map Path.ofText
        let headers := (headerNames text).flatMap fun name =>
          folders.map fun folder => (folder.join (Path.ofText name)).text
        gather dirs (headers ++ rest) ((place, .text text) :: files)

/-- The text on the input, if an argument asks for it. -/
def readInput (argv : List String) : IO String := do
  if argv.contains "-" then
    let input ← IO.getStdin
    input.readToEnd
  else return ""

/-- Prints and writes what a run leaves behind. -/
def finish (outcome : Outcome) : IO UInt32 := do
  IO.print outcome.out
  IO.eprint outcome.err
  for (path, text) in outcome.written do
    IO.FS.writeFile path.text text
  return outcome.exit.toNat.toUInt32

def run (argv : List String) : IO UInt32 := do
  let files ← gather (optionDirs argv) argv []
  let surroundings : Surroundings :=
    { world := { files }, input := ← readInput argv, tool := fun _ => .missing }
  match runCommand surroundings argv with
  | .ok outcome => finish outcome
  | .error (.compile failure) =>
    IO.eprintln failure.message
    return 1
  | .error (.generation failure) =>
    IO.eprintln failure.message
    return 1
  | .error (.nameless fault) =>
    IO.eprintln fault.message
    return 1

end CCompiler.CommandLine

def main (argv : List String) : IO UInt32 := CCompiler.CommandLine.run argv
