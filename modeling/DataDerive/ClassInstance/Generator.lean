import DataDerive.Derive.Spelling

/-!
# Instance generators

A generator makes the instance of one type class from instances for the fields.
Any class may have one.  The instances of the standard classes are functions that
match their operands; each arm consults the instance of every argument once, in
order.  Witnesses are not consulted.

| class  | function                 | method          |
|--------|--------------------------|-----------------|
| `Eq`   | two values to a truth    | `eq(a, b)`      |
| `Show` | a value to a text        | `show(a)`       |
| `Ord`  | two values to an order   | `compare(a, b)` |
| `Hash` | a value to a number      | `hash(a)`       |
-/

namespace DataDerive

/-- A class of which every run can make instances. -/
inductive StandardClass where
  /-- Values are equal if their cases are the same and their fields are equal. -/
  | equality
  /-- A value is shown as its case with its fields. -/
  | display
  /-- Values are ordered by their cases and then by their fields. -/
  | ordering
  /-- A value is hashed with its case and its fields. -/
  | hashing
  deriving Repr, DecidableEq, Inhabited

namespace StandardClass

/-- The standard classes. -/
def all : List StandardClass :=
  [.equality, .display, .ordering, .hashing]

theorem mem_all (standard : StandardClass) : standard ∈ all := by
  cases standard <;> decide

/-- The name of a class. -/
def className : StandardClass → String
  | .equality => "Eq"
  | .display => "Show"
  | .ordering => "Ord"
  | .hashing => "Hash"

/-- The method by which an instance is consulted. -/
def method : StandardClass → String
  | .equality => "eq"
  | .display => "show"
  | .ordering => "compare"
  | .hashing => "hash"

/-- The operands of the function. -/
def operands : StandardClass → Operands
  | .equality | .ordering => .two
  | .display | .hashing => .one

/-- The letters that start the names bound for the arguments of each operand. -/
def letters : StandardClass → List String
  | .equality | .ordering => ["l", "r"]
  | .display | .hashing => ["v"]

/-- The paths that an instance imports. -/
def imports : StandardClass → List String
  | .ordering => ["std::cmp::Ordering"]
  | _ => []

/-- The arguments of a constructor with their instances and positions. -/
def consulted
    (constructor : Constructor)
    (receivers : List Expr) : List ((Field × Expr) × Nat) :=
  (constructor.arguments.zip receivers).zipIdx

/-- Consult the instance of each argument. -/
def consultations
    (standard : StandardClass)
    (data : DataType)
    (constructor : Constructor)
    (receivers : List Expr) : List Expr :=
  (consulted constructor receivers).map fun ((field, receiver), index) =>
    .method receiver standard.method (standard.letters.map fun letter =>
      data.borrowed constructor field (letter ++ toString index))

/-- One comparison after the other, as long as they find no difference. -/
def thenCompare : List Expr → Expr
  | [] => .member "Ordering" "Equal"
  | first :: rest =>
      rest.foldl (fun comparison next => .method comparison "then_with" [.delayed next]) first

/-- The text of a case with a hole for each argument. -/
def caseTemplate (name : String) (holes : Nat) : String :=
  name ++ "(" ++ ", ".intercalate (List.replicate holes "\x7b\x7d") ++ ")"

/-- Put the outcomes of the consultations together. -/
def combine
    (standard : StandardClass)
    (constructor : Constructor)
    (outcomes : List Expr) : Expr :=
  match standard with
  | .equality => if outcomes.isEmpty then .ident "true" else .all outcomes
  | .display =>
      if outcomes.isEmpty then
        .call (.member "String" "from") [.quoted constructor.name]
      else
        .formatted (caseTemplate constructor.name outcomes.length) outcomes
  | .ordering => thenCompare outcomes
  | .hashing => .hashOf (.number constructor.index "_u64" :: outcomes)

/-- The pattern for operands that are all built by one constructor. -/
def pattern
    (standard : StandardClass)
    (data : DataType)
    (constructor : Constructor) : Pattern :=
  match standard.operands with
  | .one => data.numberedPattern "v" constructor
  | .two => .pair (data.numberedPattern "l" constructor) (data.numberedPattern "r" constructor)

/-- How operands of different cases are treated. -/
def fallback (standard : StandardClass) (data : DataType) : Fallback :=
  if data.isSingleCase then
    .none
  else
    match standard with
    | .equality => .constant (.ident "false")
    | .ordering => .caseNumbers (data.constructors.map fun constructor =>
        (data.openPattern constructor, constructor.index))
    | .display | .hashing => .none

/-- The instance made from the instances for the arguments of each constructor. -/
def value
    (standard : StandardClass)
    (data : DataType)
    (receivers : List (List Expr)) : ClassFunction where
  className := standard.className
  type := data.selfCode
  operands := standard.operands
  arms := data.constructors.map fun constructor =>
    ⟨standard.pattern data constructor,
      standard.combine constructor
        (standard.consultations data constructor (receivers[constructor.index]?.getD []))⟩
  fallback := standard.fallback data

end StandardClass

/-- A generator of instances of one class. -/
structure InstanceGenerator where
  /-- The class of which it makes instances. -/
  className : String
  /-- The paths that an instance imports. -/
  imports : List String
  /-- The instance made from the instances for the arguments of each constructor. -/
  value : DataType → List (List Expr) → ClassValue
  deriving Inhabited

/-- The generator for a standard class. -/
def StandardClass.generator (standard : StandardClass) : InstanceGenerator where
  className := standard.className
  imports := standard.imports
  value data receivers := .function (standard.value data receivers)

namespace InstanceGenerator

/-- The generator of equality. -/
def equality : InstanceGenerator :=
  StandardClass.equality.generator

/-- The generator of texts. -/
def display : InstanceGenerator :=
  StandardClass.display.generator

/-- The generator of orders. -/
def ordering : InstanceGenerator :=
  StandardClass.ordering.generator

/-- The generator of hashes. -/
def hashing : InstanceGenerator :=
  StandardClass.hashing.generator

/-- The generators that every run has. -/
def all : List InstanceGenerator :=
  [equality, display, ordering, hashing]

end InstanceGenerator

/-- The generators of a run, at most one for each class. -/
structure GeneratorRegistry where
  generators : List InstanceGenerator
  deriving Inhabited

namespace GeneratorRegistry

/-- No generators. -/
def empty : GeneratorRegistry := ⟨[]⟩

/-- The generator for a class. -/
def get? (registry : GeneratorRegistry) (className : String) : Option InstanceGenerator :=
  registry.generators.find? fun generator => generator.className == className

/-- Add a generator.  The answer is the one that it replaces. -/
def register
    (registry : GeneratorRegistry)
    (generator : InstanceGenerator) : Option InstanceGenerator × GeneratorRegistry :=
  (registry.get? generator.className,
    ⟨registry.generators.filter (fun other => other.className != generator.className) ++
      [generator]⟩)

/-- The registry of some generators. -/
def ofList (generators : List InstanceGenerator) : GeneratorRegistry :=
  generators.foldl (fun registry generator => (registry.register generator).2) empty

/-- The generators of the standard classes. -/
def full : GeneratorRegistry := ofList InstanceGenerator.all

/-- The classes for which there is a generator, in alphabetical order. -/
def classes (registry : GeneratorRegistry) : List String :=
  (registry.generators.map InstanceGenerator.className).mergeSort fun left right => left ≤ right

end GeneratorRegistry

end DataDerive
