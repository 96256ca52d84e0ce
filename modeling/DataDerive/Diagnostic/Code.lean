import DataDerive.Text.Basic

/-!
# Codes of diagnostics

Every diagnostic has a code.  The letter of its identifier gives the severity,
and the first digit the phase: one for the model of a declaration, two for the
search of instances, three for the generated code and nine for faults of the
program itself.
-/

namespace DataDerive

/-- How serious a diagnostic is. -/
inductive Severity where
  | error
  | warning
  | note
  deriving Repr, DecidableEq, Inhabited

/-- The word for a severity. -/
def Severity.word : Severity → String
  | .error => "error"
  | .warning => "warning"
  | .note => "note"

/-- What a diagnostic is about. -/
inductive Code where
  | noMatcher
  | severalMatchers
  | matcherNotGeneric
  | caseNotFunction
  | undeclaredVariable
  | unusedParameter
  | repeatedConstructor
  | fieldNameCount
  | unknownInterface
  | repeatedField
  | unknownDerivation
  | noCases
  | noInstance
  | ambiguousInstance
  | noGenerator
  | searchTooDeep
  | lowPriorityInstance
  | severalConstructors
  | conflictingField
  | internal
  deriving Repr, DecidableEq, Inhabited

namespace Code

/-- The codes in the order in which they are listed. -/
def all : List Code :=
  [.noMatcher, .severalMatchers, .matcherNotGeneric, .caseNotFunction, .undeclaredVariable,
    .unusedParameter, .repeatedConstructor, .fieldNameCount, .unknownInterface, .repeatedField,
    .unknownDerivation, .noCases, .noInstance, .ambiguousInstance, .noGenerator, .searchTooDeep,
    .lowPriorityInstance, .severalConstructors, .conflictingField, .internal]

theorem mem_all (code : Code) : code ∈ all := by
  cases code <;> decide

/-- The identifier under which a code is reported. -/
def id : Code → String
  | .noMatcher => "E1001"
  | .severalMatchers => "E1002"
  | .matcherNotGeneric => "E1003"
  | .caseNotFunction => "E1004"
  | .undeclaredVariable => "E1005"
  | .unusedParameter => "E1006"
  | .repeatedConstructor => "E1007"
  | .fieldNameCount => "E1008"
  | .unknownInterface => "E1009"
  | .repeatedField => "E1010"
  | .unknownDerivation => "E1011"
  | .noCases => "E1012"
  | .noInstance => "E2001"
  | .ambiguousInstance => "E2002"
  | .noGenerator => "E2003"
  | .searchTooDeep => "E2004"
  | .lowPriorityInstance => "I2001"
  | .severalConstructors => "W3001"
  | .conflictingField => "W3002"
  | .internal => "E9001"

/-- What a code means, in one line. -/
def explanation : Code → String
  | .noMatcher => "the data declaration has no abstract matcher method"
  | .severalMatchers => "the data declaration has more than one abstract method"
  | .matcherNotGeneric =>
      "the matcher must return a type variable declared on the matcher itself"
  | .caseNotFunction => "every matcher case must be a function returning the result type"
  | .undeclaredVariable =>
      "a constructor uses a type variable the declaration does not declare"
  | .unusedParameter => "a declared type parameter is not used by any constructor"
  | .repeatedConstructor => "two matcher cases share a constructor name"
  | .fieldNameCount => "the number of explicit field names differs from the case arity"
  | .unknownInterface => "the visitor interface named by the matcher is not in scope"
  | .repeatedField => "two fields of one constructor share a name"
  | .unknownDerivation => "the annotation requests an unknown derivation"
  | .noCases => "the matcher declares no cases"
  | .noInstance => "no instance of the type class was found for a field type"
  | .ambiguousInstance => "several equally specific instances match a field type"
  | .noGenerator => "no instance generator is registered for the type class"
  | .searchTooDeep => "instance search nested deeper than the resolution limit"
  | .lowPriorityInstance => "an instance was found only through a low-priority provider"
  | .severalConstructors => "destructuring applies only to single-constructor types"
  | .conflictingField =>
      "a field name is used with different types by different constructors"
  | .internal => "internal invariant violation"

/-- The severity of every diagnostic with a code. -/
def severity : Code → Severity
  | .lowPriorityInstance => .note
  | .severalConstructors | .conflictingField => .warning
  | _ => .error

/-- The code with an identifier, in either case and with white space around it. -/
def ofText? (text : String) : Option Code :=
  let upper := (Text.trim text.toList).map Char.toUpper
  all.find? fun code => code.id.toList == upper

end Code

end DataDerive
