import GrammarConversion.CommandLine.Plan

/-!
# The program

Reads the arguments and the stored model, and carries the actions of the run out on the file
system.  All that is decided is decided by the plan of the run; here it is only carried out.
-/

namespace GrammarConversion.CommandLine

def usageText : String :=
  "usage: " ++ programName ++ " [-h] [--name NAME] [--output-dir OUTPUT_DIR]\n"
    ++ "                   [--push-state-fn PUSH_STATE_FN] [--pop-state-fn POP_STATE_FN]\n"
    ++ "                   [--ignore-case | --no-ignore-case]\n"
    ++ "                   [--validate | --no-validate]\n"
    ++ "                   [--log \x7bcritical,error,warning,info,debug\x7d]\n"
    ++ "                   top_level\n"

/-- Shows a record that matters at least as much as `level`. -/
def showRecord (level : Level) (record : LogRecord) : IO Unit := do
  for shown in LogRecord.atLeast level [record] do
    (← IO.getStderr).putStrLn shown.text

def lacking (parameter : Parameter) : IO.Error :=
  IO.userError ("argument " ++ parameter.title ++ ": no value")

/-- Carries actions out and gives the status of the run. -/
def carryOut (level : Level) : List Action → IO UInt32
  | [] => pure 0
  | .log record :: rest => do
    showRecord level record
    carryOut level rest
  | .makeDirectory path :: rest => do
    IO.FS.createDirAll (if path = "" then "." else path)
    carryOut level rest
  | .write path content :: rest => do
    IO.FS.writeFile path content
    carryOut level rest
  | .writeApart files :: rest => do
    IO.FS.withTempDir fun directory => do
      for file in files do
        IO.FS.writeFile (pathIn directory.toString file.1) file.2
    carryOut level rest
  | .exit status :: _ => pure status.toUInt32
  | .abort _ :: _ => throw (IO.userError "the model is not a grammar")
  | .lack parameter :: _ => throw (lacking parameter)

/-- A run of the program on the file system. -/
def runProgram (arguments : List String) : IO UInt32 := do
  match Options.ofArguments arguments with
  | .error .help =>
    IO.print usageText
    pure 0
  | .error (.usage message) =>
    IO.eprint usageText
    IO.eprintln (programName ++ ": error: " ++ message)
    pure 2
  | .ok options =>
    match options.level with
    | none => throw (lacking .log)
    | some level =>
      let here := Text.pathComponents (← IO.currentDir).toString
      let place := resolved here options.model
      showRecord level (loadingNote place)
      match Model.Grammar.read? (← IO.FS.readFile (pathOf place)) with
      | none => throw (IO.userError "the file holds no grammar model")
      | some grammar => carryOut level (actions options place grammar none)

end GrammarConversion.CommandLine

def main (arguments : List String) : IO UInt32 :=
  GrammarConversion.CommandLine.runProgram arguments
