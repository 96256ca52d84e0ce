import DataDerive.TypeExpr.Basic

/-!
# The algebra of replacing variables

A type that is no variable is determined by its root and its parts, and what is
done to all its variables is done to its parts.  Proofs about such types treat
constructors and function types alike.

Replacing variables is determined by what is put for the variables that occur,
and replacing twice is replacing once.  The height of a type counts the nodes
that are no variables on a longest path; it grows with what is put for a
variable, which is why no type fits inside itself, and it adds up when
variables are replaced.
-/

namespace DataDerive.TypeExpr

/-! ## Equations -/

@[simp]
theorem replace_var (target : String → TypeExpr) (name : String) :
    (TypeExpr.var name).replace target = target name := by
  rw [replace]

@[simp]
theorem replace_con (target : String → TypeExpr) (name : String) (arguments : List TypeExpr) :
    (TypeExpr.con name arguments).replace target = .con name (arguments.map (replace target)) := by
  rw [replace, replaceAll_eq_map]

@[simp]
theorem replace_arrow
    (target : String → TypeExpr)
    (parameters : List TypeExpr)
    (result : TypeExpr) :
    (TypeExpr.arrow parameters result).replace target =
      .arrow (parameters.map (replace target)) (result.replace target) := by
  rw [replace, replaceAll_eq_map]

@[simp]
theorem variableOccurrences_var (name : String) :
    (TypeExpr.var name).variableOccurrences = [name] := by
  rw [variableOccurrences]

@[simp]
theorem variableOccurrences_con (name : String) (arguments : List TypeExpr) :
    (TypeExpr.con name arguments).variableOccurrences =
      arguments.flatMap variableOccurrences := by
  rw [variableOccurrences, variableOccurrencesAll_eq_flatMap]

@[simp]
theorem variableOccurrences_arrow (parameters : List TypeExpr) (result : TypeExpr) :
    (TypeExpr.arrow parameters result).variableOccurrences =
      parameters.flatMap variableOccurrences ++ result.variableOccurrences := by
  rw [variableOccurrences, variableOccurrencesAll_eq_flatMap]

theorem asVar?_eq_some {type : TypeExpr} {name : String} :
    type.asVar? = some name ↔ type = .var name := by
  cases type <;> simp [asVar?]

/-! ## Parts -/

/-- The immediate parts of a type. -/
def parts : TypeExpr → List TypeExpr
  | .var _ => []
  | .con _ arguments => arguments
  | .arrow parameters result => parameters ++ [result]

/-- Two types that are no variables have the same root and the same number of parts. -/
inductive SameShape : TypeExpr → TypeExpr → Prop
  | con {name : String} {xs ys : List TypeExpr} (arity : xs.length = ys.length) :
      SameShape (.con name xs) (.con name ys)
  | arrow {xs ys : List TypeExpr} {p q : TypeExpr} (arity : xs.length = ys.length) :
      SameShape (.arrow xs p) (.arrow ys q)

/-- A type is no variable. -/
def IsCompound (type : TypeExpr) : Prop :=
  SameShape type type

theorem isCompound_con (name : String) (arguments : List TypeExpr) :
    (TypeExpr.con name arguments).IsCompound :=
  .con rfl

theorem isCompound_arrow (parameters : List TypeExpr) (result : TypeExpr) :
    (TypeExpr.arrow parameters result).IsCompound :=
  .arrow rfl

/-- Induction over a type with the hypothesis for every part. -/
@[induction_eliminator]
theorem inductionOn
    {motive : TypeExpr → Prop}
    (var : ∀ name, motive (.var name))
    (compound : ∀ type, type.IsCompound → (∀ part ∈ type.parts, motive part) → motive type)
    (type : TypeExpr) :
    motive type := by
  refine TypeExpr.rec (motive_1 := motive) (motive_2 := fun types => ∀ part ∈ types, motive part)
    var ?_ ?_ ?_ ?_ type
  · intro name arguments holds
    exact compound _ (isCompound_con name arguments) holds
  · intro parameters result holds resultHolds
    apply compound _ (isCompound_arrow parameters result)
    intro part member
    rcases List.mem_append.mp member with inParameters | isResult
    · exact holds part inParameters
    · exact List.mem_singleton.mp isResult ▸ resultHolds
  · intro part member
    cases member
  · intro first rest firstHolds restHolds part member
    rcases List.mem_cons.mp member with same | later
    · exact same ▸ firstHolds
    · exact restHolds part later

/-- Types of the same shape are equal exactly if their parts are. -/
theorem SameShape.eq_iff {left right : TypeExpr} (shape : SameShape left right) :
    left = right ↔ left.parts = right.parts := by
  cases shape with
  | con arity => simp [parts]
  | arrow arity =>
      constructor
      · intro same
        rw [same]
      · intro same
        rcases List.append_inj same arity with ⟨parameters, results⟩
        rw [parameters, List.singleton_inj.mp results]

theorem SameShape.length_parts {left right : TypeExpr} (shape : SameShape left right) :
    left.parts.length = right.parts.length := by
  cases shape with
  | con arity => exact arity
  | arrow arity => simp [parts, arity]

theorem SameShape.left {left right : TypeExpr} (shape : SameShape left right) :
    left.IsCompound := by
  cases shape with
  | con => exact .con rfl
  | arrow => exact .arrow rfl

theorem SameShape.right {left right : TypeExpr} (shape : SameShape left right) :
    right.IsCompound := by
  cases shape with
  | con => exact .con rfl
  | arrow => exact .arrow rfl

theorem SameShape.replace_left
    {left right : TypeExpr}
    (shape : SameShape left right)
    (target : String → TypeExpr) :
    SameShape (left.replace target) right := by
  cases shape with
  | con arity =>
      rw [replace_con]
      exact .con (by simpa using arity)
  | arrow arity =>
      rw [replace_arrow]
      exact .arrow (by simpa using arity)

theorem SameShape.replace_right
    {left right : TypeExpr}
    (shape : SameShape left right)
    (target : String → TypeExpr) :
    SameShape left (right.replace target) := by
  cases shape with
  | con arity =>
      rw [replace_con]
      exact .con (by simpa using arity)
  | arrow arity =>
      rw [replace_arrow]
      exact .arrow (by simpa using arity)

/-- Types that some replacement makes equal have the same shape, unless one is a variable. -/
theorem sameShape_of_replace_eq
    {left right : TypeExpr}
    {target : String → TypeExpr}
    (leftCompound : left.IsCompound)
    (rightCompound : right.IsCompound)
    (equal : left.replace target = right.replace target) :
    SameShape left right := by
  cases leftCompound with
  | con =>
      cases rightCompound with
      | con =>
          rw [replace_con, replace_con, TypeExpr.con.injEq] at equal
          rcases equal with ⟨rfl, arguments⟩
          exact .con (by simpa using congrArg List.length arguments)
      | arrow =>
          rw [replace_con, replace_arrow] at equal
          cases equal
  | arrow =>
      cases rightCompound with
      | con =>
          rw [replace_con, replace_arrow] at equal
          cases equal
      | arrow =>
          rw [replace_arrow, replace_arrow, TypeExpr.arrow.injEq] at equal
          exact .arrow (by simpa using congrArg List.length equal.1)

section Compound

variable {type : TypeExpr}

theorem IsCompound.replace (compound : type.IsCompound) (target : String → TypeExpr) :
    (type.replace target).IsCompound :=
  (SameShape.replace_left compound target).left

theorem IsCompound.parts_replace (compound : type.IsCompound) (target : String → TypeExpr) :
    (type.replace target).parts = type.parts.map (TypeExpr.replace target) := by
  cases compound with
  | con => rw [replace_con, parts, parts]
  | arrow => rw [replace_arrow, parts, parts, List.map_append, List.map_singleton]

theorem IsCompound.mem_variableOccurrences (compound : type.IsCompound) {x : String} :
    x ∈ type.variableOccurrences ↔ ∃ part ∈ type.parts, x ∈ part.variableOccurrences := by
  cases compound with
  | con => rw [variableOccurrences_con, List.mem_flatMap, parts]
  | arrow => simp [parts, or_and_right, exists_or]

theorem IsCompound.ne_var (compound : type.IsCompound) (name : String) : type ≠ .var name := by
  rintro rfl
  cases compound

theorem isCompound_of_mem_parts {part : TypeExpr} (member : part ∈ type.parts) :
    type.IsCompound := by
  cases type with
  | var name => cases member
  | con name arguments => exact isCompound_con name arguments
  | arrow parameters result => exact isCompound_arrow parameters result

theorem mem_variableOccurrences_of_part
    {part : TypeExpr}
    {x : String}
    (member : part ∈ type.parts)
    (occurs : x ∈ part.variableOccurrences) :
    x ∈ type.variableOccurrences :=
  (isCompound_of_mem_parts member).mem_variableOccurrences.mpr ⟨part, member, occurs⟩

theorem mem_parts_replace
    {part : TypeExpr}
    (member : part ∈ type.parts)
    (target : String → TypeExpr) :
    part.replace target ∈ (type.replace target).parts := by
  rw [(isCompound_of_mem_parts member).parts_replace]
  exact List.mem_map_of_mem member

end Compound

theorem mem_variableOccurrences_parameter
    {parameters : List TypeExpr}
    {result part : TypeExpr}
    {x : String}
    (member : part ∈ parameters)
    (occurs : x ∈ part.variableOccurrences) :
    x ∈ (TypeExpr.arrow parameters result).variableOccurrences :=
  mem_variableOccurrences_of_part (List.mem_append_left [result] member) occurs

theorem mem_variableOccurrences_result
    {parameters : List TypeExpr}
    {result : TypeExpr}
    {x : String}
    (occurs : x ∈ result.variableOccurrences) :
    x ∈ (TypeExpr.arrow parameters result).variableOccurrences :=
  mem_variableOccurrences_of_part (List.mem_append_right parameters List.mem_cons_self) occurs

/-! ## What replacing depends on -/

/-- Two replacements of a type agree exactly if they agree on its variables. -/
theorem replace_eq_replace_iff
    {type : TypeExpr}
    {left right : String → TypeExpr} :
    type.replace left = type.replace right ↔
      ∀ x ∈ type.variableOccurrences, left x = right x := by
  induction type with
  | var name => simp
  | compound type compound ih =>
      rw [((compound.replace_left left).replace_right right).eq_iff, compound.parts_replace,
        compound.parts_replace, List.map_inj_left]
      constructor
      · intro agree x occurs
        rcases compound.mem_variableOccurrences.mp occurs with ⟨part, member, inside⟩
        exact (ih part member).mp (agree part member) x inside
      · intro agree part member
        apply (ih part member).mpr
        intro x occurs
        exact agree x (mem_variableOccurrences_of_part member occurs)

theorem replace_congr
    {type : TypeExpr}
    {left right : String → TypeExpr}
    (agree : ∀ x ∈ type.variableOccurrences, left x = right x) :
    type.replace left = type.replace right :=
  replace_eq_replace_iff.mpr agree

@[simp]
theorem replace_self (type : TypeExpr) : type.replace .var = type := by
  induction type with
  | var name => rfl
  | compound type compound ih =>
      rw [(compound.replace_left .var).eq_iff, compound.parts_replace, List.map_congr_left ih,
        List.map_id']

/-- A replacement that keeps every variable of a type keeps the type. -/
theorem replace_of_fixes
    {type : TypeExpr}
    {target : String → TypeExpr}
    (fixes : ∀ x ∈ type.variableOccurrences, target x = .var x) :
    type.replace target = type :=
  (replace_congr fixes).trans type.replace_self

theorem replace_replace (type : TypeExpr) (inner outer : String → TypeExpr) :
    (type.replace inner).replace outer = type.replace fun x => (inner x).replace outer := by
  induction type with
  | var name => simp
  | compound type compound ih =>
      have shape := ((compound.replace_left inner).replace_left outer).replace_right
        fun x => (inner x).replace outer
      rw [shape.eq_iff, (compound.replace inner).parts_replace, compound.parts_replace,
        compound.parts_replace, List.map_map]
      exact List.map_congr_left ih

theorem mem_variableOccurrences_replace
    {type : TypeExpr}
    {target : String → TypeExpr}
    {y : String} :
    y ∈ (type.replace target).variableOccurrences ↔
      ∃ x ∈ type.variableOccurrences, y ∈ (target x).variableOccurrences := by
  induction type with
  | var name => simp
  | compound type compound ih =>
      rw [(compound.replace target).mem_variableOccurrences, compound.parts_replace]
      constructor
      · rintro ⟨replaced, isReplaced, occurs⟩
        rcases List.mem_map.mp isReplaced with ⟨part, member, rfl⟩
        rcases (ih part member).mp occurs with ⟨x, inside, found⟩
        exact ⟨x, mem_variableOccurrences_of_part member inside, found⟩
      · rintro ⟨x, occurs, found⟩
        rcases compound.mem_variableOccurrences.mp occurs with ⟨part, member, inside⟩
        exact ⟨part.replace target, List.mem_map_of_mem member,
          (ih part member).mpr ⟨x, inside, found⟩⟩

/-! ## Height -/

mutual

/-- The number of nodes that are no variables on a longest path. -/
def height : TypeExpr → Nat
  | .var _ => 0
  | .con _ arguments => 1 + heightAll arguments
  | .arrow parameters result => 1 + max (heightAll parameters) (height result)

/-- The greatest height of several types. -/
def heightAll : List TypeExpr → Nat
  | [] => 0
  | type :: rest => max (height type) (heightAll rest)

end

theorem heightAll_le_iff {types : List TypeExpr} {bound : Nat} :
    heightAll types ≤ bound ↔ ∀ type ∈ types, type.height ≤ bound := by
  induction types with
  | nil => simp [heightAll]
  | cons type rest ih => rw [heightAll, Nat.max_le, ih, List.forall_mem_cons]

theorem height_le_heightAll {types : List TypeExpr} {type : TypeExpr} (member : type ∈ types) :
    type.height ≤ heightAll types :=
  heightAll_le_iff.mp (Nat.le_refl _) type member

theorem heightAll_concat (types : List TypeExpr) (last : TypeExpr) :
    heightAll (types ++ [last]) = max (heightAll types) last.height := by
  induction types with
  | nil => simp [heightAll]
  | cons type rest ih => rw [List.cons_append, heightAll, ih, heightAll, Nat.max_assoc]

@[simp]
theorem height_var (name : String) : (TypeExpr.var name).height = 0 := by
  rw [height]

theorem IsCompound.height_eq {type : TypeExpr} (compound : type.IsCompound) :
    type.height = 1 + heightAll type.parts := by
  cases compound with
  | con => rw [height, parts]
  | arrow => rw [height, parts, heightAll_concat]

theorem height_part_lt {type part : TypeExpr} (member : part ∈ type.parts) :
    part.height < type.height := by
  have below := height_le_heightAll member
  rw [(isCompound_of_mem_parts member).height_eq]
  omega

/-- Replacing variables by types of bounded height adds at most that bound. -/
theorem height_replace_le
    {type : TypeExpr}
    {target : String → TypeExpr}
    {bound : Nat}
    (bounded : ∀ x ∈ type.variableOccurrences, (target x).height ≤ bound) :
    (type.replace target).height ≤ type.height + bound := by
  induction type with
  | var name => simpa using bounded
  | compound type compound ih =>
      have parts : heightAll (type.parts.map (replace target)) ≤
          heightAll type.parts + bound := by
        rw [heightAll_le_iff]
        intro replaced isReplaced
        rcases List.mem_map.mp isReplaced with ⟨part, member, rfl⟩
        have step := ih part member fun x occurs =>
          bounded x (mem_variableOccurrences_of_part member occurs)
        have below := height_le_heightAll member
        omega
      rw [(compound.replace target).height_eq, compound.parts_replace, compound.height_eq]
      omega

/-- What is put for a variable is no higher than the whole. -/
theorem height_le_height_replace
    {type : TypeExpr}
    {target : String → TypeExpr}
    {x : String}
    (occurs : x ∈ type.variableOccurrences) :
    (target x).height ≤ (type.replace target).height := by
  induction type with
  | var name => simp_all
  | compound type compound ih =>
      rcases compound.mem_variableOccurrences.mp occurs with ⟨part, member, inside⟩
      exact Nat.le_of_lt (Nat.lt_of_le_of_lt (ih part member inside)
        (height_part_lt (mem_parts_replace member target)))

/-- A variable can only stand for a type in which it occurs if it is that type. -/
theorem eq_var_of_replace_eq
    {type : TypeExpr}
    {target : String → TypeExpr}
    {x : String}
    (occurs : x ∈ type.variableOccurrences)
    (equal : target x = type.replace target) :
    type = .var x := by
  induction type with
  | var name => simp_all
  | compound type compound _ =>
      rcases compound.mem_variableOccurrences.mp occurs with ⟨part, member, inside⟩
      have step : (target x).height ≤ (part.replace target).height :=
        height_le_height_replace inside
      have below : (part.replace target).height < (target x).height := by
        rw [equal]
        exact height_part_lt (mem_parts_replace member target)
      exact absurd step (Nat.not_le.mpr below)

/-! ## Nodes bound the height -/

theorem nodes_le_nodesAll {types : List TypeExpr} {type : TypeExpr} (member : type ∈ types) :
    type.nodes ≤ nodesAll types := by
  induction types with
  | nil => cases member
  | cons first rest ih =>
      rw [nodesAll]
      rcases List.mem_cons.mp member with same | later
      · rw [same]
        exact Nat.le_add_right _ _
      · exact Nat.le_trans (ih later) (Nat.le_add_left _ _)

theorem nodesAll_append (first second : List TypeExpr) :
    nodesAll (first ++ second) = nodesAll first + nodesAll second := by
  induction first with
  | nil => simp [nodesAll]
  | cons type rest ih => rw [List.cons_append, nodesAll, nodesAll, ih, Nat.add_assoc]

theorem nodes_pos (type : TypeExpr) : 0 < type.nodes := by
  cases type <;> simp only [nodes] <;> omega

theorem IsCompound.nodes_eq {type : TypeExpr} (compound : type.IsCompound) :
    type.nodes = 1 + nodesAll type.parts := by
  cases compound with
  | con => rw [nodes, parts]
  | arrow => rw [nodes, parts, nodesAll_append, nodesAll, nodesAll, Nat.add_zero, Nat.add_assoc]

theorem height_le_nodes (type : TypeExpr) : type.height ≤ type.nodes := by
  induction type with
  | var name => simp
  | compound type compound ih =>
      rw [compound.height_eq, compound.nodes_eq]
      refine Nat.add_le_add_left (heightAll_le_iff.mpr fun part member => ?_) 1
      exact Nat.le_trans (ih part member) (nodes_le_nodesAll member)

end DataDerive.TypeExpr
