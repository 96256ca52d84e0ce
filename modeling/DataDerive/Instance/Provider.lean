import DataDerive.Declaration

/-!
# The order of providers

Instances for a declaration are searched in a fixed order of providers.  The
declaration's own static members come first.  Then come sources taken from the
snapshot by name: the one named after the class, those named after a type
constructor of the field types, and all others.  Sources that are marked as low
priority are searched afterwards, in the order in which they are listed.

A name takes the first source of that name that is not taken yet.
-/

namespace DataDerive.Provider

/-- The source that a name takes from those left, if any, and what is left then. -/
def take
    (snapshot : Snapshot)
    (name : String)
    (left : List Provider) : Option Provider × List Provider :=
  let named (source : Provider) : Bool := source.name == name
  if snapshot.isLowPriority name then
    (none, left)
  else
    (left.find? named, left.eraseP named)

/-- The sources that names take one after the other. -/
def takeAll (snapshot : Snapshot) : (names : List String) → List Provider → List Provider
  | [], _ => []
  | name :: rest, left =>
      let (taken, left) := take snapshot name left
      taken.toList ++ takeAll snapshot rest left

/-- The names in the order in which they take sources. -/
def takingOrder
    (snapshot : Snapshot)
    (className : String)
    (targets : List TypeExpr) : List String :=
  className :: distinct (targets.flatMap TypeExpr.constructors) ++
    snapshot.providers.map Provider.name

/-- The static members of a declaration as a provider. -/
def ofDeclaration (declaration : Declaration) : Provider :=
  ⟨declaration.name, declaration.span, declaration.statics⟩

/-- The providers searched for instances of a class at the field types of a declaration. -/
def forDerivation
    (snapshot : Snapshot)
    (declaration : Declaration)
    (className : String)
    (targets : List TypeExpr) : List Provider :=
  ofDeclaration declaration ::
    takeAll snapshot (takingOrder snapshot className targets) snapshot.providers

/-- The providers searched when all others failed. -/
def lowPriority (snapshot : Snapshot) : List Provider :=
  snapshot.lowPriority.filterMap fun name =>
    snapshot.providers.find? fun source => source.name == name

end DataDerive.Provider
