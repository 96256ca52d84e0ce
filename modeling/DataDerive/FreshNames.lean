import DataDerive.Substitution

/-!
# Fresh type variables

A fresh variable is a base name followed by `#` and a number that was not used
before.  No declared name has a `#` in it, so a fresh variable meets none of
them, and the numbers keep the fresh variables apart from each other.
-/

namespace DataDerive

/--
A supply of fresh variables, by the number of those already taken.

A counter of thirty-two bits is enough for the number.  Every variable that is taken
is a name of its own in the table of names, which holds the empty name besides and
stops the program rather than hold more than `2 ^ 32` names, so the table is full
before the number could pass `2 ^ 32 - 1`.
-/
structure FreshNames where
  taken : Nat
  deriving Repr, DecidableEq

namespace FreshNames

/-- The supply from which nothing is taken. -/
def start : FreshNames := ⟨0⟩

/-- The part of a name before its first `#`. -/
def base (name : String) : String :=
  String.ofList (name.toList.takeWhile (· ≠ '#'))

/-- A fresh variable named after another name, and the supply without it. -/
def fresh (supply : FreshNames) (name : String) : String × FreshNames :=
  (base name ++ "#" ++ toString (supply.taken + 1), ⟨supply.taken + 1⟩)

/-- A fresh variable for each name of a list, and the supply without them. -/
def freshAll (supply : FreshNames) : List String → List (String × String) × FreshNames
  | [] => ([], supply)
  | name :: rest =>
      let (variant, supply) := supply.fresh name
      let (variants, supply) := supply.freshAll rest
      ((name, variant) :: variants, supply)

/-- The substitution of each name by a fresh variable, and the supply without those. -/
def renameApart (supply : FreshNames) (names : List String) : Substitution × FreshNames :=
  let (variants, supply) := supply.freshAll names
  (.ofPairs (variants.map fun (name, variant) => (name, .var variant)), supply)

/-- Whether a name has the form of a fresh variable. -/
def isFresh (name : String) : Bool :=
  name.toList.contains '#'

end FreshNames

end DataDerive
