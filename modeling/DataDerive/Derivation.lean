/-!
# Derivations

The kinds of code that can be derived for a data type, with the names by which
they are asked for.
-/

namespace DataDerive

/-- A kind of derived code. -/
inductive Derivation where
  /-- The trait of the cases and the function that matches by handlers. -/
  | matcher
  /-- A function for each constructor. -/
  | constructors
  /-- Values that are computed on demand. -/
  | lazy
  /-- A test and a conditional match for each constructor. -/
  | caseOf
  /-- The fields of a single constructor as a tuple. -/
  | destructure
  /-- Functions that read a field. -/
  | getters
  /-- Functions that replace or change a field. -/
  | modifiers
  /-- The structural fold. -/
  | catamorphism
  /-- A structure whose methods build each constructor. -/
  | factory
  deriving Repr, DecidableEq, Inhabited

namespace Derivation

/-- All kinds in the order in which they are generated. -/
def all : List Derivation :=
  [.matcher, .constructors, .lazy, .caseOf, .destructure, .getters, .modifiers, .catamorphism,
    .factory]

theorem mem_all (derivation : Derivation) : derivation ∈ all := by
  cases derivation <;> decide

/-- The name by which a kind is asked for. -/
def word : Derivation → String
  | .matcher => "matcher"
  | .constructors => "constructors"
  | .lazy => "lazy"
  | .caseOf => "case_of"
  | .destructure => "destructure"
  | .getters => "getters"
  | .modifiers => "modifiers"
  | .catamorphism => "catamorphism"
  | .factory => "factory"

/-- The kind with a name. -/
def ofWord? (word : String) : Option Derivation :=
  all.find? fun derivation => derivation.word == word

end Derivation

end DataDerive
