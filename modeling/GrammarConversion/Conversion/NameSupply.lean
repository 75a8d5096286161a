import GrammarConversion.Model.Grammar

/-!
# Names for tokens without a label

A token without a label is named after the kind of its production and a number, as in `SKIP0` or
`MORE2`.  Each kind counts for itself, and reserved names are passed over.

A counter never has to pass over more names than are reserved, so a search of that length finds a
free one (`NameSupply.next`).
-/

namespace GrammarConversion.Conversion

open GrammarConversion.Model

/-- The next number of each kind, and the names that are never given. -/
structure NameSupply where
  counters : ProductionKind → Nat := fun _ => 0
  reserved : List String := []

namespace NameSupply

def numbered (kind : ProductionKind) (number : Nat) : String :=
  kind.name ++ toString number

/-- The first number from `number` on that gives a name which is not reserved, or the one after
`more` numbers that do not. -/
def freeNumber (reserved : List String) (kind : ProductionKind) :
    (more number : Nat) → Nat
  | 0, number => number
  | more + 1, number =>
    if numbered kind number ∈ reserved then freeNumber reserved kind more (number + 1)
    else number

/-- **The next name of a kind,** and the supply without it. -/
def next (supply : NameSupply) (kind : ProductionKind) : String × NameSupply :=
  let number := freeNumber supply.reserved kind supply.reserved.length (supply.counters kind)
  (numbered kind number,
    { supply with
      counters := fun other => if other = kind then number + 1 else supply.counters other })

end NameSupply

end GrammarConversion.Conversion
