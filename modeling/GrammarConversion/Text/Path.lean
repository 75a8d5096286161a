/-!
# File paths

A path is a text whose components are parted by slashes.  Empty components and single dots do not
count.  The stem of a path is its last component less its suffix, the part from the last dot on;
a dot at the beginning or at the end of the component starts no suffix.
-/

namespace GrammarConversion.Text

/-- The parts of `cs` between the characters `mark`, in order; there is always one. -/
def splitAtMark (mark : Char) : List Char → List (List Char)
  | [] => [[]]
  | c :: cs =>
    if c = mark then [] :: splitAtMark mark cs
    else match splitAtMark mark cs with
      | [] => [[c]]
      | part :: parts => (c :: part) :: parts

def pathComponents (path : String) : List String :=
  ((splitAtMark '/' path.toList).filter fun part => part ≠ [] ∧ part ≠ ['.']).map String.ofList

/-- The last component of a path; empty if there is none. -/
def pathName (path : String) : String :=
  (pathComponents path).getLast?.getD ""

def stemOf (name : List Char) : List Char :=
  let backwards := name.reverse
  let suffix := backwards.takeWhile (· ≠ '.')
  let stem := ((backwards.dropWhile (· ≠ '.')).drop 1).reverse
  if suffix = [] ∨ stem = [] then name else stem

def pathStem (path : String) : String :=
  String.ofList (stemOf (pathName path).toList)

end GrammarConversion.Text
