import GrammarConversion.Text.Path

/-!
# Directories and files

The part of a file system that the command line sees, as a value: the directories and the files
with their contents, each at a location, which is the list of the names that lead there from the
root.  A path is followed from the working directory, name by name.
-/

namespace GrammarConversion.CommandLine

open GrammarConversion.Text

/-- Why a path cannot be used. -/
inductive FileError where
  | notFound
  | exists
  | notADirectory
  | isADirectory
  | nameTooLong
  | nullCharacter
  deriving DecidableEq, Repr

def FileError.message : FileError → String
  | .notFound => "No such file or directory"
  | .exists => "File exists"
  | .notADirectory => "Not a directory"
  | .isADirectory => "Is a directory"
  | .nameTooLong => "File name too long"
  | .nullCharacter => "embedded null byte"

/-- A place in a file tree. -/
abbrev Location := List String

/-- Whether a name has more bytes than a file system takes. -/
def isTooLong (name : String) : Bool :=
  decide (255 < name.utf8ByteSize)

/-- Refuses names with the null character, which ends every name for a file system. -/
def checkNames (names : List String) : Except FileError Unit :=
  if names.any fun name => name.toList.contains (Char.ofNat 0) then .error .nullCharacter
  else .ok ()

/-- The directories but the root, and the files. -/
structure FileTree where
  directories : List Location := []
  files : List (Location × String) := []

namespace FileTree

def isDirectory (tree : FileTree) (place : Location) : Bool :=
  place.isEmpty || tree.directories.contains place

def content? (tree : FileTree) (place : Location) : Option String :=
  tree.files.lookup place

/-- The location that some names lead to from `place`.  Only the last of them may lead nowhere. -/
def follow (tree : FileTree) (place : Location) : List String → Except FileError Location
  | [] => .ok place
  | name :: names =>
    if name = ".." then follow tree place.dropLast names
    else if isTooLong name then .error .nameTooLong
    else
      let next := place ++ [name]
      if names.isEmpty || tree.isDirectory next then follow tree next names
      else if (tree.content? next).isSome then .error .notADirectory
      else .error .notFound

def read (tree : FileTree) (names : List String) : Except FileError String := do
  let place ← tree.follow [] names
  if tree.isDirectory place then .error .isADirectory
  else
    match tree.content? place with
    | some content => .ok content
    | none => .error .notFound

def put (tree : FileTree) (place : Location) (content : String) : FileTree :=
  { tree with files := tree.files.filter (fun file => file.1 != place) ++ [(place, content)] }

def write (tree : FileTree) (names : List String) (content : String) :
    Except FileError FileTree := do
  checkNames names
  let place ← tree.follow [] names
  if tree.isDirectory place then .error .isADirectory
  else .ok (tree.put place content)

def withDirectory (tree : FileTree) (place : Location) : FileTree :=
  { tree with directories := tree.directories ++ [place] }

def without (tree : FileTree) (place : Location) : FileTree :=
  { directories := tree.directories.filter fun directory => !place.isPrefixOf directory
    files := tree.files.filter fun file => !place.isPrefixOf file.1 }

/-- Makes the directories that some names lead through, as far as they are missing. -/
def makeDirectories (tree : FileTree) (place : Location) :
    List String → Except FileError FileTree
  | [] => .ok tree
  | name :: names =>
    if name = ".." then makeDirectories tree place.dropLast names
    else if isTooLong name then .error .nameTooLong
    else
      let next := place ++ [name]
      if tree.isDirectory next then makeDirectories tree next names
      else if (tree.content? next).isSome then
        .error (if names.isEmpty then .exists else .notADirectory)
      else
        makeDirectories (tree.withDirectory next) next names

/-- Makes the directory at the end of some names, and all that lead there. -/
def makePath (tree : FileTree) (names : List String) : Except FileError FileTree := do
  checkNames names
  tree.makeDirectories [] names

end FileTree

/-! ## Paths -/

def isAbsolute (path : String) : Bool :=
  path.toList.head? == some '/'

/-- The names that lead to a path from the root, where `here` is the working directory. -/
def namesFromRoot (here : Location) (path : String) : List String :=
  if isAbsolute path then pathComponents path else here ++ pathComponents path

/-- Names without steps back, each of which takes the name before it away. -/
def withoutStepsBack (names : List String) : List String :=
  names.foldl (fun done name => if name = ".." then done.dropLast else done ++ [name]) []

/-- The location that a path stands for, whether anything is there or not. -/
def resolved (here : Location) (path : String) : Location :=
  withoutStepsBack (namesFromRoot here path)

def pathOf (place : Location) : String :=
  "/" ++ "/".intercalate place

def pathIn (directory file : String) : String :=
  if isAbsolute file || directory = "" then file else directory ++ "/" ++ file

/-- Writes files, each with its path, up to the first that cannot be written. -/
def FileTree.writeAll (here : Location) :
    List (String × String) → FileTree → FileTree × Option FileError
  | [], tree => (tree, none)
  | (path, content) :: files, tree =>
    match tree.write (namesFromRoot here path) content with
    | .ok tree => FileTree.writeAll here files tree
    | .error error => (tree, some error)

end GrammarConversion.CommandLine
