import GrammarConversion.CommandLine.FileTree
import GrammarConversion.CommandLine.Options
import GrammarConversion.Compiler
import GrammarConversion.Conversion.Grammar
import GrammarConversion.Model.Stored

/-!
# Runs of the program

A run reads a model, converts it and writes two files.  Once the model is read, all that is left
to do is known as a list of actions (`actions`), which can be carried out on a file tree (`perform`)
as well as on the file system of a machine.

The compiler gets the files in a directory of its own, which is gone after the run, so what it
makes of them does not get in the way.
-/

namespace GrammarConversion.CommandLine

open GrammarConversion.Antlr
open GrammarConversion.Conversion
open GrammarConversion.Model
open GrammarConversion.Text

def programName : String := "javacc2antlr"

/-- One thing to do. -/
inductive Action where
  | log (record : LogRecord)
  | makeDirectory (path : String)
  | write (path content : String)
  /-- Write files with the given paths into a directory of their own, which is gone afterwards. -/
  | writeApart (files : List (String × String))
  /-- End the run with a status. -/
  | exit (status : Nat)
  /-- End the run because of a failure that is no conversion error. -/
  | abort (failure : Failure)
  /-- End the run because an option that it needs has no value. -/
  | lack (parameter : Parameter)

def programNote (level : Level) (message : String) : Action :=
  .log ⟨level, "antlr_writer", message⟩

def overridden (options : Options) (grammar : Grammar) : Grammar :=
  let functions := grammar.stateFunctions
  { grammar with
    ignoreCase := options.ignoreCase.getD grammar.ignoreCase
    givenFunctions := some {
      push := (filled options.pushFunction).or functions.push
      pop := (filled options.popFunction).or functions.pop } }

/-- The name that the grammars are called after. -/
def chosenName (options : Options) (place : Location) : String :=
  (filled options.name).getD (grammarName (pathOf place))

/-- Writes the files of a pair of grammars into a directory.  The file of the lexer is there before
it is known whether the lexer has a document. -/
def saveActions (pair : GrammarPair) (directory : String) : List Action :=
  let lexerPath := pathIn directory (Compiler.fileName pair.lexer.name)
  match pair.lexerDocument with
  | .error failure => [.write lexerPath "", .abort failure]
  | .ok document =>
    [.write lexerPath document,
     .write (pathIn directory (Compiler.fileName pair.parser.name)) pair.parserDocument]

/-- Has the compiler check a pair of grammars, where `run` is what comes of calling it. -/
def validateActions (pair : GrammarPair) (run : Option Compiler.Run) : List Action :=
  [programNote .info "validating generated grammars",
   .writeApart
     [(Compiler.fileName pair.lexer.name, pair.lexer.document),
      (Compiler.fileName pair.parser.name, pair.parserDocument)],
   .log (Compiler.callNote pair)]
    ++ (Compiler.answerLog run).map .log
    ++ match Compiler.verdict run with
      | .ok () => [.exit 0]
      | .error error =>
        [programNote .critical ("Generated grammars are invalid: " ++ error.message), .exit 1]

def loadingNote (place : Location) : LogRecord :=
  ⟨.info, "antlr_writer", "loading grammar model " ++ pathOf place⟩

/-- **What is left to do** once the model at `place` has been read. -/
def actions (options : Options) (place : Location) (grammar : Grammar)
    (run : Option Compiler.Run) : List Action :=
  let name := chosenName options place
  let conversion := convert name (overridden options grammar)
  conversion.log.map .log ++
    match conversion.result with
    | .error (.conversion error) =>
      [programNote .critical ("Error converting grammar " ++ name ++ ": " ++ error.message),
       .exit 1]
    | .error failure => [.abort failure]
    | .ok pair =>
      match options.outputDirectory with
      | none => [.lack .outputDirectory]
      | some directory =>
        [.makeDirectory directory,
         programNote .info ("writing " ++ pair.lexer.name ++ " and " ++ pair.parser.name)]
          ++ saveActions pair directory
          ++ if options.validate then validateActions pair run else [.exit 0]

/-! ## Carrying actions out -/

inductive Ending where
  | exit (status : Nat)
  /-- The arguments are wrong. -/
  | usage (message : String)
  /-- A file or a directory cannot be used. -/
  | file (error : FileError)
  /-- The file of the model holds no model. -/
  | noModel
  /-- The model has a fault that is no conversion error. -/
  | abort (failure : Failure)
  /-- An option that is needed has no value. -/
  | lack (parameter : Parameter)

/-- What a run leaves: its end, its log, and the file tree. -/
structure Report where
  ending : Ending
  log : List LogRecord
  tree : FileTree

/-- Where a run takes place: the working directory, the place of a directory that is there for a
while, and what comes of calling the compiler. -/
structure Surroundings where
  here : Location
  apart : Location
  compiler : Option Compiler.Run := none

/-- Carries actions out on a file tree, up to the first that fails. -/
def perform (around : Surroundings) (tree : FileTree) (log : List LogRecord) :
    List Action → Report
  | [] => ⟨.exit 0, log, tree⟩
  | .log record :: rest => perform around tree (log ++ [record]) rest
  | .exit status :: _ => ⟨.exit status, log, tree⟩
  | .abort failure :: _ => ⟨.abort failure, log, tree⟩
  | .lack parameter :: _ => ⟨.lack parameter, log, tree⟩
  | .makeDirectory path :: rest =>
    match tree.makePath (namesFromRoot around.here path) with
    | .ok tree => perform around tree log rest
    | .error error => ⟨.file error, log, tree⟩
  | .write path content :: rest =>
    match tree.write (namesFromRoot around.here path) content with
    | .ok tree => perform around tree log rest
    | .error error => ⟨.file error, log, tree⟩
  | .writeApart files :: rest =>
    let written := FileTree.writeAll around.apart files (tree.withDirectory around.apart)
    let tree := written.1.without around.apart
    match written.2 with
    | none => perform around tree log rest
    | some error => ⟨.file error, log, tree⟩

/-- The run for some options.  The path of the model is looked at before anything is logged. -/
def runFor (around : Surroundings) (tree : FileTree) (options : Options) : Report :=
  let place := resolved around.here options.model
  let log := [loadingNote place]
  match checkNames (namesFromRoot around.here options.model) with
  | .error error => ⟨.file error, [], tree⟩
  | .ok () =>
    match tree.read place with
    | .error error => ⟨.file error, log, tree⟩
    | .ok document =>
      match Grammar.read? document with
      | none => ⟨.noModel, log, tree⟩
      | some grammar =>
        perform around tree log (actions options place grammar around.compiler)

/-- **A run of the program** on a file tree.  Without a level nothing can be logged, so nothing is
done. -/
def runOn (around : Surroundings) (tree : FileTree) (arguments : List String) : Report :=
  match Options.ofArguments arguments with
  | .error .help => ⟨.exit 0, [], tree⟩
  | .error (.usage message) => ⟨.usage message, [], tree⟩
  | .ok options =>
    match options.level with
    | none => ⟨.lack .log, [], tree⟩
    | some level =>
      let report := runFor around tree options
      { report with log := LogRecord.atLeast level report.log }

end GrammarConversion.CommandLine
