import DataDerive.Span
import DataDerive.TypeExpr.Basic

/-!
# Declarations

What is known about the program for which code is derived: data declarations
with their annotations, the interfaces their matchers may refer to, and the
static members among which instances are searched.

All of it is parameterized by what a type is.  In a document that was read types
are texts still; everywhere else, and by default, they are type expressions.
-/

namespace DataDerive

/-- A name and where it is written. -/
structure Named where
  name : String
  span : Span
  deriving Repr, DecidableEq, Inhabited

/-- A parameter of a method. -/
structure Parameter (Ty : Type := TypeExpr) where
  name : String
  span : Span
  type : Ty
  /-- Names for the fields of a case; none if the case does not name them. -/
  fieldNames : List String
  deriving Repr, DecidableEq, Inhabited

/-- The signature of a method. -/
structure Method (Ty : Type := TypeExpr) where
  name : String
  span : Span
  typeParams : List Named
  parameters : List (Parameter Ty)
  result : Ty
  isAbstract : Bool
  deriving Repr, DecidableEq, Inhabited

/-- The annotation that asks for derived code. -/
structure Request where
  span : Span
  /-- The derivations asked for; nothing leaves the choice to the configuration. -/
  derive : Option (List Named)
  /-- The type classes of which an instance is asked for. -/
  instances : List Named
  deriving Repr, DecidableEq, Inhabited

/-- A static member that may provide an instance. -/
inductive StaticMember (Ty : Type := TypeExpr) where
  | field (name : String) (span : Span) (type : Ty)
  | method
      (name : String)
      (span : Span)
      (typeParams : List Named)
      (parameters : List Ty)
      (result : Ty)
  deriving Repr, DecidableEq, Inhabited

namespace StaticMember

/-- The name of a member. -/
def name {Ty : Type} : StaticMember Ty → String
  | .field name _ _ => name
  | .method name _ _ _ _ => name

/-- Where a member is written. -/
def span {Ty : Type} : StaticMember Ty → Span
  | .field _ span _ => span
  | .method _ span _ _ _ => span

/-- The type that a member provides: the type of a field, the result of a method. -/
def provides {Ty : Type} : StaticMember Ty → Ty
  | .field _ _ type => type
  | .method _ _ _ _ result => result

end StaticMember

/-- A data declaration. -/
structure Declaration (Ty : Type := TypeExpr) where
  name : String
  span : Span
  typeParams : List Named
  request : Request
  methods : List (Method Ty)
  statics : List (StaticMember Ty)
  deriving Repr, DecidableEq, Inhabited

namespace Declaration

/-- The names of the type parameters. -/
def parameterNames {Ty : Type} (declaration : Declaration Ty) : List String :=
  declaration.typeParams.map Named.name

/-- The methods without a body, in their order. -/
def abstractMethods {Ty : Type} (declaration : Declaration Ty) : List (Method Ty) :=
  declaration.methods.filter Method.isAbstract

/-- Whether a name is one of the type parameters. -/
def declares {Ty : Type} (declaration : Declaration Ty) (name : String) : Bool :=
  declaration.parameterNames.contains name

/-- The declared type applied to its own type parameters. -/
def selfType {Ty : Type} (declaration : Declaration Ty) : TypeExpr :=
  .con declaration.name (declaration.parameterNames.map .var)

end Declaration

/-- An interface whose methods are the cases of a matcher. -/
structure Interface (Ty : Type := TypeExpr) where
  name : String
  span : Span
  typeParams : List Named
  methods : List (Method Ty)
  deriving Repr, DecidableEq, Inhabited

/-- A named group of static members. -/
structure Provider (Ty : Type := TypeExpr) where
  name : String
  span : Span
  members : List (StaticMember Ty)
  deriving Repr, DecidableEq, Inhabited

/-- Everything that is known for one run. -/
structure Snapshot (Ty : Type := TypeExpr) where
  /-- The path of the source, for reports. -/
  path : Option String
  /-- The text of the source, for lines and columns. -/
  source : Option String
  declarations : List (Declaration Ty)
  interfaces : List (Interface Ty)
  providers : List (Provider Ty)
  /-- The names of the providers that are searched only when all others failed. -/
  lowPriority : List String
  deriving Repr, DecidableEq, Inhabited

namespace Snapshot

/-- The first interface with a name. -/
def interface? {Ty : Type} (snapshot : Snapshot Ty) (name : String) : Option (Interface Ty) :=
  snapshot.interfaces.find? fun interface => interface.name == name

/-- Whether a provider is searched only when all others failed. -/
def isLowPriority {Ty : Type} (snapshot : Snapshot Ty) (provider : String) : Bool :=
  snapshot.lowPriority.contains provider

end Snapshot

end DataDerive
