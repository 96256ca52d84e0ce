import DataDerive.Span
import DataDerive.TypeExpr.Text

/-!
# Where an instance comes from

A location says how an instance is made: it is a static field, a static method
applied to other instances, the generated instance itself, or a parameter of the
generated instance.
-/

namespace DataDerive

/-- How an instance is made. -/
inductive Location where
  /-- A static field. -/
  | field (source member : String) (span : Span)
  /-- A static method at its type arguments, applied to an instance for each parameter. -/
  | method
      (source member : String)
      (span : Span)
      (typeArguments : List (String × TypeExpr))
      (dependencies : List Location)
  /-- The generated instance at a type, applied to an instance for each type parameter. -/
  | generated (className : String) (type : TypeExpr) (dependencies : List Location)
  /-- The parameter of the generated instance for a class at a type variable. -/
  | parameter (className name : String)
  deriving Repr, Inhabited

namespace Location

mutual

/-- Decide whether two locations are the same. -/
def decEq : (left right : Location) → Decidable (left = right)
  | .field a b c, .field a' b' c' =>
      if same : a = a' ∧ b = b' ∧ c = c' then
        isTrue (by rw [same.1, same.2.1, same.2.2])
      else
        isFalse (by simpa using same)
  | .method a b c d xs, .method a' b' c' d' ys =>
      if same : a = a' ∧ b = b' ∧ c = c' ∧ d = d' then
        match decEqAll xs ys with
        | isTrue equal => isTrue (by rw [same.1, same.2.1, same.2.2.1, same.2.2.2, equal])
        | isFalse differ => isFalse (by simp [differ])
      else
        isFalse (by
          intro equal
          injection equal with h₁ h₂ h₃ h₄ _
          exact same ⟨h₁, h₂, h₃, h₄⟩)
  | .generated a b xs, .generated a' b' ys =>
      if same : a = a' ∧ b = b' then
        match decEqAll xs ys with
        | isTrue equal => isTrue (by rw [same.1, same.2, equal])
        | isFalse differ => isFalse (by simp [differ])
      else
        isFalse (by
          intro equal
          injection equal with h₁ h₂ _
          exact same ⟨h₁, h₂⟩)
  | .parameter a b, .parameter a' b' =>
      if same : a = a' ∧ b = b' then
        isTrue (by rw [same.1, same.2])
      else
        isFalse (by simpa using same)
  | .field .., .method .. => isFalse (by simp)
  | .field .., .generated .. => isFalse (by simp)
  | .field .., .parameter .. => isFalse (by simp)
  | .method .., .field .. => isFalse (by simp)
  | .method .., .generated .. => isFalse (by simp)
  | .method .., .parameter .. => isFalse (by simp)
  | .generated .., .field .. => isFalse (by simp)
  | .generated .., .method .. => isFalse (by simp)
  | .generated .., .parameter .. => isFalse (by simp)
  | .parameter .., .field .. => isFalse (by simp)
  | .parameter .., .method .. => isFalse (by simp)
  | .parameter .., .generated .. => isFalse (by simp)

/-- Decide whether two lists of locations are the same. -/
def decEqAll : (left right : List Location) → Decidable (left = right)
  | [], [] => isTrue rfl
  | x :: xs, y :: ys =>
      match decEq x y, decEqAll xs ys with
      | isTrue same, isTrue equal => isTrue (by rw [same, equal])
      | isFalse differ, _ => isFalse (by simp [differ])
      | _, isFalse differ => isFalse (by simp [differ])
  | [], _ :: _ => isFalse (by simp)
  | _ :: _, [] => isFalse (by simp)

end

instance : DecidableEq Location := decEq

/-- Where the providing member is written. -/
def span? : Location → Option Span
  | .field _ _ span => some span
  | .method _ _ span _ _ => some span
  | _ => none

mutual

/-- Every occurrence of a parameter, as a class and a type variable. -/
def parameterOccurrences : Location → List (String × String)
  | .parameter className name => [(className, name)]
  | .field _ _ _ => []
  | .method _ _ _ _ dependencies => parameterOccurrencesAll dependencies
  | .generated _ _ dependencies => parameterOccurrencesAll dependencies

/-- Every occurrence of a parameter in a list of locations. -/
def parameterOccurrencesAll : List Location → List (String × String)
  | [] => []
  | location :: rest => parameterOccurrences location ++ parameterOccurrencesAll rest

end

/-- The parameters that a location needs, in the order of their first occurrence. -/
def parameters (location : Location) : List (String × String) :=
  distinct location.parameterOccurrences

mutual

/-- Whether the generated instance occurs in a location. -/
def mentionsGenerated : Location → Bool
  | .generated _ _ _ => true
  | .method _ _ _ _ dependencies => anyMentionsGenerated dependencies
  | .field _ _ _ => false
  | .parameter _ _ => false

/-- Whether the generated instance occurs in one of several locations. -/
def anyMentionsGenerated : List Location → Bool
  | [] => false
  | location :: rest => mentionsGenerated location || anyMentionsGenerated rest

end

mutual

/-- How an instance is made, in words. -/
def describe : Location → String
  | .field source member _ => source ++ "." ++ member
  | .method source member _ _ dependencies =>
      source ++ "." ++ member ++ "(" ++ ", ".intercalate (describeAll dependencies) ++ ")"
  | .generated className type [] => "generated " ++ className ++ "<" ++ type.text ++ ">"
  | .generated className type (first :: rest) =>
      "generated " ++ className ++ "<" ++ type.text ++ ">(" ++
        ", ".intercalate (describe first :: describeAll rest) ++ ")"
  | .parameter className name => "parameter " ++ className ++ "<" ++ name ++ ">"

/-- How several instances are made, in words. -/
def describeAll : List Location → List String
  | [] => []
  | location :: rest => describe location :: describeAll rest

end

end Location

end DataDerive
