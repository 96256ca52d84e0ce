import DataDerive.Substitution
import DataDerive.TypeExpr.Text

/-!
# Unification

Two types are made equal by binding variables.  The substitution is threaded
through the parts of the types from left to right and is only ever extended;
each target is stored with the bindings of its time resolved, after a check
that the variable does not occur in it.  Rigid variables are never bound, and
`matchType?` is the case in which every variable of one side is rigid.

A call goes one level down in both types and follows bindings at their roots.
The number of levels is bounded by `levels`, which counts the nodes of the types
and of all targets, and grows with the variables that may still be bound.  Only bindings that lead back to themselves could unfold for longer, and
types that do are reported as different.
-/

namespace DataDerive.Unification

/-- What is counted when two numbers of parts differ. -/
inductive PartKind where
  | parameters
  | arguments
  deriving Repr, DecidableEq

/-- Where inside the compared types something differs. -/
inductive Place where
  | root
  | parameter (index : Nat)
  | result
  | argument (index : Nat)
  deriving Repr, DecidableEq

/-- Why two types cannot be made equal. -/
inductive Failure where
  /-- Different constructors, or a function type and a constructor. -/
  | mismatch (expected found : TypeExpr) (place : Place)
  /-- A variable would have to contain itself. -/
  | infinite (name : String) (inside : TypeExpr)
  /-- A rigid variable would have to be something else. -/
  | rigid (name : String) (found : TypeExpr)
  /-- The same shape with another number of parts. -/
  | arity (expected found : Nat) (kind : PartKind)
  deriving Repr, DecidableEq

/-- The name of a place. -/
def Place.name : Place → String
  | .root => "types"
  | .parameter _ => "function parameter"
  | .result => "function return type"
  | .argument _ => "type argument"

/-- The name of what is counted. -/
def PartKind.name : PartKind → String
  | .parameters => "function parameters"
  | .arguments => "type arguments"

/-- What a failure says without naming a type. -/
def Failure.summary : Failure → String
  | .mismatch _ _ place => s!"type mismatch in {place.name}"
  | .infinite _ _ => "infinite type: variable occurs in its own definition"
  | .rigid _ _ => "type parameter cannot be unified with another type"
  | .arity expected found kind => s!"arity mismatch: expected {expected} {kind.name}, found {found}"

/-- What a failure says about the types. -/
def Failure.describe : Failure → String
  | .mismatch expected found place =>
      s!"expected `{expected.text}`, found `{found.text}` in {place.name}"
  | .infinite name inside => s!"`{name}` occurs in `{inside.text}`"
  | .rigid name found => s!"type parameter `{name}` cannot stand for `{found.text}`"
  | .arity expected found kind => (Failure.arity expected found kind).summary

/-- The outcome of making types equal. -/
abbrev Outcome : Type := Except Failure Substitution

/-- Bind a variable to a type, unless the type is that variable or contains it. -/
def bindVar (name : String) (type : TypeExpr) (substitution : Substitution) : Outcome :=
  let resolved := substitution.resolve type
  if resolved.asVar? = some name then
    .ok substitution
  else if resolved.mentions name then
    .error (.infinite name resolved)
  else
    .ok (substitution.bind name resolved)

/-- The failure of two types that differ at a place. -/
def differ
    (left right : TypeExpr)
    (substitution : Substitution)
    (place : Place) : Failure :=
  .mismatch (substitution.resolve left) (substitution.resolve right) place

/-- Make two lists of parts equal, one pair after the other, from a position on. -/
def unifyParts
    (step : Place → TypeExpr → TypeExpr → Substitution → Outcome)
    (place : Nat → Place) :
    (index : Nat) → (left right : List TypeExpr) → Substitution → Outcome
  | index, x :: left, y :: right, substitution => do
      let extended ← step (place index) x y substitution
      unifyParts step place (index + 1) left right extended
  | _, _, _, substitution => .ok substitution

/-- Make two types equal at a place.  `budget` bounds the levels that are entered. -/
def unifyAt (rigid : List String) :
    (budget : Nat) → Place → (left right : TypeExpr) → Substitution → Outcome
  | 0, place, left, right, substitution => .error (differ left right substitution place)
  | budget + 1, place, left, right, substitution =>
      let a := substitution.shallow left
      let b := substitution.shallow right
      match a, b with
      | .var x, .var y =>
          if x = y then
            .ok substitution
          else if x ∉ rigid then
            bindVar x b substitution
          else if y ∉ rigid then
            bindVar y a substitution
          else
            .error (.rigid x (substitution.resolve b))
      | .var x, _ =>
          if x ∉ rigid then
            bindVar x b substitution
          else
            .error (.rigid x (substitution.resolve b))
      | _, .var y =>
          if y ∉ rigid then
            bindVar y a substitution
          else
            .error (.rigid y (substitution.resolve a))
      | .con f xs, .con g ys =>
          if f ≠ g then
            .error (differ a b substitution place)
          else if xs.length ≠ ys.length then
            .error (.arity xs.length ys.length .arguments)
          else
            unifyParts (unifyAt rigid budget) .argument 0 xs ys substitution
      | .arrow xs r, .arrow ys s =>
          if xs.length ≠ ys.length then
            .error (.arity xs.length ys.length .parameters)
          else do
            let extended ← unifyParts (unifyAt rigid budget) .parameter 0 xs ys substitution
            unifyAt rigid budget .result r s extended
      | _, _ => .error (differ a b substitution place)

/-- The types that take part: both sides and every target. -/
def participants (left right : TypeExpr) (substitution : Substitution) : List TypeExpr :=
  left :: right :: substitution.bindings.map Prod.snd

/-- A bound on the levels that unification enters. -/
def levels (left right : TypeExpr) (substitution : Substitution) : Nat :=
  let types := participants left right substitution
  let names := distinct (TypeExpr.variableOccurrencesAll types)
  Nat.pow (TypeExpr.nodesAll types + 1) 2 * Nat.pow 4 names.length

/-- Extend a substitution so that it makes two types equal and binds no rigid variable. -/
def unifyFrom
    (rigid : List String)
    (left right : TypeExpr)
    (substitution : Substitution) : Outcome :=
  unifyAt rigid (levels left right substitution) .root left right substitution

/-- The substitution that makes two types equal, if there is one. -/
def unify? (left right : TypeExpr) : Option Substitution :=
  (unifyFrom [] left right .empty).toOption

/-- The substitution that makes a pattern equal to a target whose variables are rigid. -/
def matchType? (pattern target : TypeExpr) : Option Substitution :=
  (unifyFrom target.freeVars pattern target .empty).toOption

end DataDerive.Unification
