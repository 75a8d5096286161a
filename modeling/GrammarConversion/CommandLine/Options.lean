import GrammarConversion.Log
import GrammarConversion.Text.Quoted
import GrammarConversion.Text.Word

/-!
# Options of the command line

The arguments are read in two passes.  The first says of every argument whether it is an option
(`Word.ofText`); an option may be cut short as long as no other one begins alike, and after `--`
there are no options.  The second takes the words in order (`readWords`): an option that takes a
value takes the next argument, the first other argument is the path of the model, and what is left
over is refused at the end.
-/

namespace GrammarConversion.CommandLine

open GrammarConversion.Text

/-! ## Parameters -/

/-- What an option sets. -/
inductive Parameter where
  | help
  | name
  | outputDirectory
  | pushFunction
  | popFunction
  | ignoreCase
  | validate
  | log
  deriving DecidableEq, Repr

/-- The spellings of the options in the order in which they are listed. -/
def spellings : List (String × Parameter) :=
  [("-h", .help), ("--help", .help), ("--name", .name), ("--output-dir", .outputDirectory),
   ("--push-state-fn", .pushFunction), ("--pop-state-fn", .popFunction),
   ("--ignore-case", .ignoreCase), ("--no-ignore-case", .ignoreCase), ("--validate", .validate),
   ("--no-validate", .validate), ("--log", .log)]

namespace Parameter

def takesValue : Parameter → Bool
  | .help => false
  | .ignoreCase => false
  | .validate => false
  | _ => true

/-- The name of a parameter in messages: all its spellings. -/
def title (parameter : Parameter) : String :=
  "/".intercalate ((spellings.filter fun spelling => spelling.2 == parameter).map Prod.fst)

end Parameter

/-- The levels of the log by their names on the command line. -/
def levelNames : List (String × Level) :=
  [("critical", .critical), ("error", .error), ("warning", .warning), ("info", .info),
   ("debug", .debug)]

/-- The values that the arguments set.  An option may be left without a value (`writtenValue`). -/
structure Options where
  model : String
  name : Option String := none
  outputDirectory : Option String := some "."
  pushFunction : Option String := none
  popFunction : Option String := none
  ignoreCase : Option Bool := none
  validate : Bool := false
  level : Option Level := some .info
  deriving DecidableEq, Repr

/-- Why the arguments do not lead to a run. -/
inductive Stop where
  /-- The user asks how the program is used. -/
  | help
  /-- The arguments are wrong. -/
  | usage (message : String)
  deriving DecidableEq, Repr

def argumentError (parameter : Parameter) (message : String) : Stop :=
  .usage ("argument " ++ parameter.title ++ ": " ++ message)

/-- The error about a value given to an option that takes none. -/
def ignoredArgument (parameter : Parameter) (value : String) : Stop :=
  argumentError parameter ("ignored explicit argument " ++ quoted value)

/-! ## The first pass: words -/

/-- What an argument is. -/
inductive Word where
  /-- The mark after which there are no options. -/
  | endOfOptions
  /-- An argument that is no option. -/
  | plain (text : String)
  /-- An option as it is spelled in full, with the value that is written together with it. -/
  | option (spelling : String) (parameter : Parameter) (value : Option String)
  /-- An option that is not known. -/
  | unknown (text : String)
  deriving DecidableEq, Repr

/-- A text before and after its first equals sign. -/
def splitAtEquals (text : String) : String × Option String :=
  let cs := text.toList
  match cs.dropWhile (· ≠ '=') with
  | [] => (text, none)
  | _ :: value => (String.ofList (cs.takeWhile (· ≠ '=')), some (String.ofList value))

/-- A text without the line break that it may end with. -/
def withoutLastBreak : List Char → List Char
  | [] => []
  | ['\n'] => []
  | c :: cs => c :: withoutLastBreak cs

/-- Whether an argument looks like a negative number, with a line break after it or not. -/
def isNegativeNumber (text : String) : Bool :=
  match withoutLastBreak text.toList with
  | '-' :: digits =>
    let fraction := digits.dropWhile isDecimalDigit
    match fraction with
    | [] => !digits.isEmpty
    | '.' :: more => !more.isEmpty && more.all isDecimalDigit
    | _ => false
  | _ => false

/-- The options that an argument may be short for, with the value written together with it. -/
def candidates (text : String) : List Word :=
  let split := splitAtEquals text
  (spellings.filter fun spelling => split.1.toList.isPrefixOf spelling.1.toList).map
    fun spelling => .option spelling.1 spelling.2 split.2

def Word.spelling : Word → String
  | .option spelling _ _ => spelling
  | _ => ""

/-- What an argument is which begins with a dash and is no option in full. -/
def Word.ofShortened (text : String) : Except Stop Word :=
  let long := text.toList.take 2 == ['-', '-']
  if !long && text.toList.take 2 == ['-', 'h'] then
    .ok (.option "-h" .help (some (String.ofList (text.toList.drop 2))))
  else
    match if long then candidates text else [] with
    | [word] => .ok word
    | [] =>
      if isNegativeNumber text || text.toList.contains ' ' then .ok (.plain text)
      else .ok (.unknown text)
    | words =>
      .error (.usage ("ambiguous option: " ++ text ++ " could match "
        ++ ", ".intercalate (words.map Word.spelling)))

/-- **What an argument is,** if options may still come. -/
def Word.ofText (text : String) : Except Stop Word :=
  if text.toList.head? ≠ some '-' then .ok (.plain text)
  else
    match spellings.lookup text with
    | some parameter => .ok (.option text parameter none)
    | none =>
      if text = "-" then .ok (.plain text)
      else
        let split := splitAtEquals text
        match split.2, spellings.lookup split.1 with
        | some value, some parameter => .ok (.option split.1 parameter (some value))
        | _, _ => Word.ofShortened text

def words : List String → Except Stop (List Word)
  | [] => .ok []
  | text :: texts =>
    if text = "--" then .ok (.endOfOptions :: texts.map .plain)
    else do
      let word ← Word.ofText text
      let rest ← words texts
      .ok (word :: rest)

/-! ## The second pass: values -/

/-- What has been read so far: the path of the model if it has come, the options as they would be
for that path, and the arguments that are left over. -/
structure Reading where
  model : Option String := none
  options : Options := { model := "" }
  leftOver : List String := []

def levelNamed (name : String) : Except Stop Level :=
  match levelNames.lookup name with
  | some level => .ok level
  | none =>
    .error (argumentError .log ("invalid choice: " ++ quoted name ++ " (choose from "
      ++ ", ".intercalate (levelNames.map fun level => quoted level.1) ++ ")"))

/-- Sets a parameter that takes a value, or leaves it without one. -/
def setValue (options : Options) (parameter : Parameter) (value : Option String) :
    Except Stop Options :=
  match parameter with
  | .name => .ok { options with name := value }
  | .outputDirectory => .ok { options with outputDirectory := value }
  | .pushFunction => .ok { options with pushFunction := value }
  | .popFunction => .ok { options with popFunction := value }
  | .log => do
    let level ← value.mapM levelNamed
    .ok { options with level := level }
  | _ => .ok options

/-- The value that a text gives which is written together with its option.  The mark after which
there are no options is no value. -/
def writtenValue (text : String) : Option String :=
  if text = "--" then none else some text

def setFlag (options : Options) (parameter : Parameter) (spelling : String) :
    Except Stop Options :=
  let positive := !("--no-".toList.isPrefixOf spelling.toList)
  match parameter with
  | .ignoreCase => .ok { options with ignoreCase := some positive }
  | .validate => .ok { options with validate := positive }
  | .help => .error .help
  | _ => .ok options

/-- What a text comes to that is written together with the short option for help.  Each letter `h`
asks for help again; what is left from the first other letter on is refused. -/
def repeatedHelp : List Char → Stop
  | ['h'] => .help
  | 'h' :: c :: rest => repeatedHelp (c :: rest)
  | value => ignoredArgument .help (String.ofList value)

/-- What a text comes to that is written together with an option which takes no value. -/
def unwantedValue (spelling : String) (parameter : Parameter) (text : String) : Stop :=
  if spelling = "-h" then repeatedHelp text.toList else ignoredArgument parameter text

/-- **Reads words in order.** -/
def readWords (reading : Reading) : List Word → Except Stop Reading
  | [] => .ok reading
  | .plain text :: rest =>
    match reading.model with
    | some _ => readWords { reading with leftOver := reading.leftOver ++ [text] } rest
    | none =>
      match rest with
      | .endOfOptions :: rest => readWords { reading with model := some text } rest
      | rest => readWords { reading with model := some text } rest
  | .endOfOptions :: rest =>
    match reading.model, rest with
    | none, .plain text :: rest => readWords { reading with model := some text } rest
    | _, rest => readWords { reading with leftOver := reading.leftOver ++ ["--"] } rest
  | .unknown text :: rest =>
    readWords { reading with leftOver := reading.leftOver ++ [text] } rest
  | .option spelling parameter value :: rest =>
    if parameter.takesValue then
      match value, rest with
      | some value, rest => do
        let options ← setValue reading.options parameter (writtenValue value)
        readWords { reading with options := options } rest
      | none, .plain value :: rest => do
        let options ← setValue reading.options parameter (some value)
        readWords { reading with options := options } rest
      | none, _ => .error (argumentError parameter "expected one argument")
    else
      match value with
      | some value => .error (unwantedValue spelling parameter value)
      | none => do
        let options ← setFlag reading.options parameter spelling
        readWords { reading with options := options } rest

/-- **The options that the arguments set.** -/
def Options.ofArguments (arguments : List String) : Except Stop Options := do
  let reading ← readWords {} (← words arguments)
  match reading.model with
  | none => .error (.usage "the following arguments are required: top_level")
  | some model =>
    if reading.leftOver.isEmpty then .ok { reading.options with model := model }
    else .error (.usage ("unrecognized arguments: " ++ " ".intercalate reading.leftOver))

end GrammarConversion.CommandLine
