import DataDerive.Derivation
import DataDerive.Derive.Access
import DataDerive.Derive.Construction
import DataDerive.Derive.Dispatch

/-!
# Generating code for a data type

Every generated module has the enum of the data type, with a variant for each
constructor, and after it the code of each derivation that was asked for.  A
derivation that is asked for twice is generated once, at its first place.
-/

namespace DataDerive.DataType

/-- The enum with a variant for each constructor. -/
def enumCode (data : DataType) : CodeUnit :=
  (CodeUnit.ofType (.enum data.typeName
    (some s!"Cases of `{data.name}`, one variant per matcher case.")
    data.generics ["Clone"]
    (data.constructors.map fun constructor =>
      ⟨constructor.variantName, data.storedFields constructor⟩))).importing data.storageImports

/-- The code of a derivation.  `request` is where the derivations were asked for. -/
def derive (data : DataType) (request : Span) : Derivation → CodeUnit
  | .matcher => data.matcherCode
  | .constructors => data.constructorFunctions
  | .lazy => data.lazyValue
  | .caseOf => data.caseFunctions
  | .destructure => data.destructuring request
  | .getters => data.getters request
  | .modifiers => data.modifiers request
  | .catamorphism => data.catamorphism
  | .factory => data.factory

/-- The enum and the code of the derivations that were asked for. -/
def generate
    (data : DataType)
    (request : Span)
    (derivations : List Derivation) : Derived CodeUnit :=
  if data.constructors.isEmpty then
    .error {
      code := .internal
      text := s!"`{data.name}` reached synthesis without constructors"
      places := [] }
  else
    .ok (.concat (data.enumCode :: (distinct derivations).map (data.derive request)))

end DataDerive.DataType
