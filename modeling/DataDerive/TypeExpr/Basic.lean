import DataDerive.NameTable

/-!
# Type expressions

The type of a field, a parameter or a static member as a declaration writes it:
a type variable, a constructor applied to arguments, or a function type.  The
names that are variables are the type parameters in scope where the type was
read; nothing here binds a variable.

`replace` puts a type for each variable at once, and every other operation that
changes variables is an instance of it.
-/

namespace DataDerive

/-- A type expression. -/
inductive TypeExpr where
  /-- A type variable. -/
  | var (name : String)
  /-- A type constructor applied to its arguments. -/
  | con (name : String) (arguments : List TypeExpr)
  /-- A function type. -/
  | arrow (parameters : List TypeExpr) (result : TypeExpr)
  deriving Repr, Inhabited

namespace TypeExpr

mutual

/-- Decide whether two types are the same. -/
def decEq : (left right : TypeExpr) → Decidable (left = right)
  | .var x, .var y =>
      if same : x = y then
        isTrue (by rw [same])
      else
        isFalse (by simp [same])
  | .con f xs, .con g ys =>
      if same : f = g then
        match decEqAll xs ys with
        | isTrue equal => isTrue (by rw [same, equal])
        | isFalse differ => isFalse (by simp [differ])
      else
        isFalse (by simp [same])
  | .arrow xs r, .arrow ys s =>
      match decEqAll xs ys, decEq r s with
      | isTrue equal, isTrue same => isTrue (by rw [equal, same])
      | isFalse differ, _ => isFalse (by simp [differ])
      | _, isFalse differ => isFalse (by simp [differ])
  | .var _, .con _ _ => isFalse (by simp)
  | .var _, .arrow _ _ => isFalse (by simp)
  | .con _ _, .var _ => isFalse (by simp)
  | .con _ _, .arrow _ _ => isFalse (by simp)
  | .arrow _ _, .var _ => isFalse (by simp)
  | .arrow _ _, .con _ _ => isFalse (by simp)

/-- Decide whether two lists of types are the same. -/
def decEqAll : (left right : List TypeExpr) → Decidable (left = right)
  | [], [] => isTrue rfl
  | x :: xs, y :: ys =>
      match decEq x y, decEqAll xs ys with
      | isTrue same, isTrue equal => isTrue (by rw [same, equal])
      | isFalse differ, _ => isFalse (by simp [differ])
      | _, isFalse differ => isFalse (by simp [differ])
  | [], _ :: _ => isFalse (by simp)
  | _ :: _, [] => isFalse (by simp)

end

instance : DecidableEq TypeExpr := decEq

/-- A constructor without arguments. -/
def atom (name : String) : TypeExpr :=
  .con name []

/-- The name of a bare variable. -/
def asVar? : TypeExpr → Option String
  | .var name => some name
  | _ => none

/-- The outermost constructor. -/
def head? : TypeExpr → Option String
  | .con name _ => some name
  | _ => none

mutual

/-- Put `target x` for every variable `x` at once. -/
def replace (target : String → TypeExpr) : TypeExpr → TypeExpr
  | .var name => target name
  | .con name arguments => .con name (replaceAll target arguments)
  | .arrow parameters result => .arrow (replaceAll target parameters) (replace target result)

/-- Replace the variables of every type of a list. -/
def replaceAll (target : String → TypeExpr) : List TypeExpr → List TypeExpr
  | [] => []
  | type :: rest => replace target type :: replaceAll target rest

end

@[simp]
theorem replaceAll_eq_map (target : String → TypeExpr) (types : List TypeExpr) :
    replaceAll target types = types.map (replace target) := by
  induction types with
  | nil => rfl
  | cons type rest ih => simp [replaceAll, ih]

mutual

/-- Every occurrence of a variable, from left to right. -/
def variableOccurrences : TypeExpr → List String
  | .var name => [name]
  | .con _ arguments => variableOccurrencesAll arguments
  | .arrow parameters result =>
      variableOccurrencesAll parameters ++ variableOccurrences result

/-- Every occurrence of a variable in a list of types. -/
def variableOccurrencesAll : List TypeExpr → List String
  | [] => []
  | type :: rest => variableOccurrences type ++ variableOccurrencesAll rest

end

@[simp]
theorem variableOccurrencesAll_eq_flatMap (types : List TypeExpr) :
    variableOccurrencesAll types = types.flatMap variableOccurrences := by
  induction types with
  | nil => rfl
  | cons type rest ih => simp [variableOccurrencesAll, ih]

/-- The variables in the order of their first occurrence. -/
def freeVars (type : TypeExpr) : List String :=
  distinct type.variableOccurrences

/-- Whether a variable occurs in a type. -/
def mentions (type : TypeExpr) (name : String) : Bool :=
  type.variableOccurrences.contains name

/-- Whether a type has no variable. -/
def isGround (type : TypeExpr) : Bool :=
  type.variableOccurrences.isEmpty

@[simp]
theorem mem_freeVars {type : TypeExpr} {name : String} :
    name ∈ type.freeVars ↔ name ∈ type.variableOccurrences :=
  mem_distinct

theorem mentions_iff {type : TypeExpr} {name : String} :
    type.mentions name = true ↔ name ∈ type.freeVars := by
  simp [mentions]

mutual

/-- The number of nodes that are no variables.  A larger count is a more specific type. -/
def concreteNodes : TypeExpr → Nat
  | .var _ => 0
  | .con _ arguments => 1 + concreteNodesAll arguments
  | .arrow parameters result => 1 + concreteNodesAll parameters + concreteNodes result

/-- The number of nodes of a list of types that are no variables. -/
def concreteNodesAll : List TypeExpr → Nat
  | [] => 0
  | type :: rest => concreteNodes type + concreteNodesAll rest

end

mutual

/-- The number of nodes. -/
def nodes : TypeExpr → Nat
  | .var _ => 1
  | .con _ arguments => 1 + nodesAll arguments
  | .arrow parameters result => 1 + nodesAll parameters + nodes result

/-- The number of nodes of a list of types. -/
def nodesAll : List TypeExpr → Nat
  | [] => 0
  | type :: rest => nodes type + nodesAll rest

end

mutual

/-- Every occurrence of a constructor, outer ones first. -/
def constructorOccurrences : TypeExpr → List String
  | .var _ => []
  | .con name arguments => name :: constructorOccurrencesAll arguments
  | .arrow parameters result =>
      constructorOccurrencesAll parameters ++ constructorOccurrences result

/-- Every occurrence of a constructor in a list of types. -/
def constructorOccurrencesAll : List TypeExpr → List String
  | [] => []
  | type :: rest => constructorOccurrences type ++ constructorOccurrencesAll rest

end

/-- The constructors in the order of their first occurrence. -/
def constructors (type : TypeExpr) : List String :=
  distinct type.constructorOccurrences

/-- Whether a name is the tuple constructor for so many elements. -/
def isTupleName (name : String) (arity : Nat) : Bool :=
  2 ≤ arity && name == "Tuple" ++ toString arity

end TypeExpr

end DataDerive
