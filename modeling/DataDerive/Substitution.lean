import DataDerive.TypeExpr.Basic

/-!
# Substitutions

A substitution binds finitely many type variables to types.  There are two ways
to use one.  `substitute` replaces the bound variables once and all together,
so the targets are not looked at again.  `resolve` follows bindings through the
targets as well, until no bound variable is left; a variable that leads back to
itself stays in place.

The number of bindings bounds how long a chain of them can be followed without
meeting a variable twice, which makes `resolve` total for every substitution.
-/

namespace DataDerive

/-- Finitely many bindings of variables, at most one for each variable. -/
structure Substitution where
  bindings : List (String × TypeExpr)
  nodup : (bindings.map Prod.fst).Nodup

namespace Substitution

@[ext]
theorem ext {left right : Substitution} (same : left.bindings = right.bindings) :
    left = right := by
  cases left
  cases right
  cases same
  rfl

instance : DecidableEq Substitution := fun left right =>
  if same : left.bindings = right.bindings then
    isTrue (ext same)
  else
    isFalse fun equal => same (by rw [equal])

/-- The substitution that binds nothing. -/
def empty : Substitution := ⟨[], by simp⟩

instance : Inhabited Substitution := ⟨empty⟩

/-- The target of a variable. -/
def get? (substitution : Substitution) (name : String) : Option TypeExpr :=
  substitution.bindings.lookup name

/-- Whether a variable is bound. -/
def contains (substitution : Substitution) (name : String) : Bool :=
  (substitution.get? name).isSome

/-- The bindings of the variables that are not listed. -/
def without (substitution : Substitution) (names : List String) : Substitution where
  bindings := substitution.bindings.filter fun binding => binding.1 ∉ names
  nodup := List.Nodup.sublist (List.filter_sublist.map Prod.fst) substitution.nodup

theorem not_mem_without_self (substitution : Substitution) (name : String) :
    name ∉ (substitution.without [name]).bindings.map Prod.fst := by
  simp only [without, List.mem_map, List.mem_filter]
  rintro ⟨binding, ⟨_, kept⟩, same⟩
  simp [same] at kept

/-- Bind a variable, in place of a binding that it had. -/
def bind (substitution : Substitution) (name : String) (target : TypeExpr) : Substitution where
  bindings := (name, target) :: (substitution.without [name]).bindings
  nodup := by
    rw [List.map_cons, List.nodup_cons]
    exact ⟨substitution.not_mem_without_self name, (substitution.without [name]).nodup⟩

/-- The substitution of a list of pairs, in which later pairs win. -/
def ofPairs (pairs : List (String × TypeExpr)) : Substitution :=
  pairs.foldl (fun substitution pair => substitution.bind pair.1 pair.2) empty

/-- The number of bindings. -/
def size (substitution : Substitution) : Nat :=
  substitution.bindings.length

/-- Whether nothing is bound. -/
def isEmpty (substitution : Substitution) : Bool :=
  substitution.bindings.isEmpty

@[simp]
theorem get?_empty (name : String) : empty.get? name = none := rfl

theorem lookup_filter_of_not_mem
    {names : List String}
    {name : String}
    (outside : name ∉ names)
    (bindings : List (String × TypeExpr)) :
    (bindings.filter fun binding => binding.1 ∉ names).lookup name = bindings.lookup name := by
  induction bindings with
  | nil => rfl
  | cons binding rest ih =>
      obtain ⟨key, target⟩ := binding
      by_cases same : name = key
      · subst same
        rw [List.filter_cons_of_pos (by simpa using outside)]
        simp
      · have differ : (name == key) = false := by simp [same]
        rw [List.filter_cons, List.lookup_cons, differ]
        split
        · rw [List.lookup_cons, differ]
          exact ih
        · exact ih

@[simp]
theorem get?_bind
    (substitution : Substitution)
    (name : String)
    (target : TypeExpr)
    (other : String) :
    (substitution.bind name target).get? other =
      if other = name then some target else substitution.get? other := by
  by_cases same : other = name
  · simp [get?, bind, same]
  · have outside : other ∉ [name] := by simp [same]
    have differ : (other == name) = false := by simp [same]
    simp only [get?, bind, List.lookup_cons, differ, if_neg same]
    exact lookup_filter_of_not_mem outside substitution.bindings

/-- Replace every bound variable by its target, all at once. -/
def substitute (substitution : Substitution) (type : TypeExpr) : TypeExpr :=
  type.replace fun name => (substitution.get? name).getD (.var name)

/--
Follow bindings from a type, without entering a variable of `visiting` again.
`budget` bounds how many bindings are followed one inside the other.
-/
def resolveAvoiding (substitution : Substitution) :
    (budget : Nat) → (visiting : List String) → TypeExpr → TypeExpr
  | 0, _, type => type
  | budget + 1, visiting, type =>
      type.replace fun name =>
        match substitution.get? name with
        | none => .var name
        | some target =>
            if visiting.contains name then
              .var name
            else
              substitution.resolveAvoiding budget (name :: visiting) target

/-- Replace bound variables until none is left but those that lead back to themselves. -/
def resolve (substitution : Substitution) (type : TypeExpr) : TypeExpr :=
  substitution.resolveAvoiding substitution.size [] type

/-- Follow at most `budget` bindings at the root of a type. -/
def walk (substitution : Substitution) : (budget : Nat) → TypeExpr → TypeExpr
  | 0, type => type
  | budget + 1, .var name =>
      match substitution.get? name with
      | none => .var name
      | some target => substitution.walk budget target
  | _ + 1, type => type

/-- Follow the bindings at the root of a type. -/
def shallow (substitution : Substitution) (type : TypeExpr) : TypeExpr :=
  substitution.walk (substitution.size + 1) type

end Substitution

end DataDerive
