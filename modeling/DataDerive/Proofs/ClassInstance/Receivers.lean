import DataDerive.Proofs.ClassInstance.RecursiveUses
import DataDerive.Proofs.Derive.Clashes

/-!
# Instances as they are consulted

An instance is consulted where a generated instance needs it, and it is written
there as a member, a parameter, the generated instance itself or the call of a
static method.  Instead of such a call there may be a local, which is bound to the
call in front, and one local serves all who consult the same instance.  The locals
start with the class, and all other plain names have an underscore.  So no name
takes the place of a local, and what is consulted is as if there were no locals.
-/

namespace DataDerive

/-! ## Names with an underscore -/

/-- A name has an underscore in it. -/
def Underscored (name : String) : Prop :=
  '_' ∈ name.toList

instance (name : String) : Decidable (Underscored name) :=
  inferInstanceAs (Decidable ('_' ∈ name.toList))

theorem underscored_append (left right : String) : Underscored (left ++ "_" ++ right) := by
  rw [Underscored, String.toList_append, String.toList_append]
  exact List.mem_append_left _ (List.mem_append_right _ (List.mem_singleton_self _))

/-- The name that the pattern of an instance binds for an argument. -/
theorem not_underscored_numbered {letter : String} (plain : ¬ Underscored letter) (index : Nat) :
    ¬ Underscored (letter ++ toString index) := by
  rw [Underscored, String.toList_append, List.mem_append, not_or]
  refine ⟨plain, fun listed => ?_⟩
  have digit : '_'.isDigit = true :=
    Nat.isDigit_of_mem_toDigits (by decide) (by decide) (Nat.toList_repr ▸ listed)
  exact absurd digit (by decide)

/-- Names that are numbered by positions are distinct. -/
theorem nodup_map_numbered {α : Type} (mark : String) (members : List α) :
    (members.zipIdx.map fun numbered => mark ++ toString numbered.2).Nodup := by
  have positions : (List.range' 0 members.length).Nodup := List.nodup_range'
  have spelled := positions.map (f := Nat.repr) fun _ _ => Nat.repr_injective
  rw [← List.zipIdx_map_snd, List.map_map] at spelled
  exact (nodup_map_marked mark _ members.zipIdx).mpr spelled

namespace InstanceNaming

variable {naming : InstanceNaming}

theorem underscored_functionName (naming : InstanceNaming) : Underscored naming.functionName :=
  underscored_append naming.data.snake naming.classSnake

theorem underscored_staticName (naming : InstanceNaming) : Underscored naming.staticName := by
  rw [Underscored, staticName, String.toList_ofList]
  exact List.mem_flatMap.mpr
    ⟨'_', naming.underscored_functionName, List.mem_singleton_self _⟩

theorem underscored_parameterName (parameter : String × String) :
    Underscored (parameterName parameter) :=
  underscored_append (Identifier.snakeCase parameter.1) (Identifier.snakeCase parameter.2)

/-! ## What instances are made of -/

/-- What holds of the parts of an instance and is handed on to what is made of them. -/
structure Inherited (holds : Expr → Prop) : Prop where
  member : ∀ item part, holds (.member item part)
  underscored : ∀ name, Underscored name → holds (.ident name)
  clone : ∀ value, holds value → holds value.clone
  call : ∀ function arguments, holds function → (∀ argument ∈ arguments, holds argument) →
    holds (.call function arguments)

/-- An instance as it is written where there is no local for it. -/
def written (naming : InstanceNaming) : Location → Expr
  | .field source member _ => .member source member
  | location@(.method _ _ _ _ _) => naming.owned location
  | .parameter className name => .ident (parameterName (className, name))
  | location@(.generated _ _ _) =>
      if naming.data.isParametric then naming.owned location else .ident naming.staticName

theorem receiver_eq (naming : InstanceNaming) (location : Location) :
    naming.receiver location =
      (naming.localName? location).elim (naming.written location) .ident := by
  rw [receiver.eq_def]
  cases naming.localName? location with
  | some name => rfl
  | none => cases location <;> rfl

namespace Inherited

variable {holds : Expr → Prop} (inherited : Inherited holds)

include inherited

theorem passed
    (naming : InstanceNaming)
    {dependencies : List Expr}
    (each : ∀ value ∈ dependencies, holds value)
    (parameter : String × String) :
    holds (naming.passed dependencies parameter) := by
  have own : holds (Expr.ident (parameterName parameter)).clone :=
    inherited.clone _ (inherited.underscored _ (underscored_parameterName parameter))
  rw [InstanceNaming.passed]
  split
  next =>
    cases made : naming.parameterIndex? parameter.2 >>= fun index => dependencies[index]? with
    | none => exact own
    | some value =>
        rcases Option.bind_eq_some_iff.mp made with ⟨index, -, found⟩
        exact each value (List.mem_of_getElem? found)
  next => exact own

theorem owned (naming : InstanceNaming) (location : Location) :
    holds (naming.owned location) := by
  induction location using Location.inductionOn with
  | field source member span =>
      rw [InstanceNaming.owned]
      exact inherited.clone _ (inherited.member source member)
  | method source member span typeArguments dependencies ih =>
      rw [InstanceNaming.owned, ownedAll_eq_map]
      exact inherited.call _ _ (inherited.member source member) (List.forall_mem_map.mpr ih)
  | parameter className name =>
      rw [InstanceNaming.owned]
      exact inherited.clone _ (inherited.underscored _ (underscored_parameterName _))
  | generated className type dependencies ih =>
      rw [InstanceNaming.owned, ownedAll_eq_map]
      split
      next =>
        refine inherited.call _ _
          (inherited.underscored _ naming.underscored_functionName) ?_
        exact List.forall_mem_map.mpr fun parameter _ =>
          inherited.passed naming (List.forall_mem_map.mpr ih) parameter
      next => exact inherited.clone _ (inherited.underscored _ naming.underscored_staticName)

theorem written (naming : InstanceNaming) (location : Location) :
    holds (naming.written location) := by
  cases location with
  | field source member span => exact inherited.member source member
  | method source member span typeArguments dependencies => exact inherited.owned naming _
  | parameter className name => exact inherited.underscored _ (underscored_parameterName _)
  | generated className type dependencies =>
      rw [InstanceNaming.written]
      split
      next => exact inherited.owned naming _
      next => exact inherited.underscored _ naming.underscored_staticName

/-- What is consulted is made of the parts of an instance, or a local. -/
theorem receiver
    (naming : InstanceNaming)
    (ofLocal : ∀ index : Nat, holds (.ident (naming.classSnake ++ toString index)))
    (location : Location) :
    holds (naming.receiver location) := by
  rw [receiver_eq]
  cases isLocal : naming.localName? location with
  | none => exact inherited.written naming location
  | some name =>
      rcases Option.map_eq_some_iff.mp isLocal with ⟨index, -, rfl⟩
      exact ofLocal index

end Inherited

/-! ## Locals -/

/-- If names are distinct, a name is looked up to what stands beside it. -/
theorem lookup_of_mem
    {α : Type}
    {pairs : List (String × α)}
    (distinct : (pairs.map Prod.fst).Nodup)
    {name : String}
    {value : α}
    (listed : (name, value) ∈ pairs) :
    pairs.lookup name = some value := by
  have found : (pairs.lookup name).isSome :=
    List.lookup_isSome_iff.mpr ⟨_, listed, beq_self_eq_true name⟩
  rcases Option.isSome_iff_exists.mp found with ⟨other, found⟩
  rcases List.lookup_eq_some_iff.mp found with ⟨before, after, rfl, -⟩
  have among : (name, other) ∈ before ++ (name, other) :: after :=
    List.mem_append_right _ List.mem_cons_self
  cases List.inj_on_of_nodup_map distinct among listed rfl
  exact found

/-- An expression in which a local is replaced by what is bound to it. -/
def resolved (naming : InstanceNaming) : Expr → Expr
  | .ident name => (naming.locals.lookup name).getD (.ident name)
  | value => value

theorem nodup_locals (naming : InstanceNaming) : (naming.locals.map Prod.fst).Nodup := by
  rw [locals, List.map_map]
  exact nodup_map_numbered naming.classSnake naming.hoisted

/-- An instance that has a local is the call of a static method, and is bound to the local. -/
theorem exists_method_of_localName?
    {location : Location}
    {name : String}
    (isLocal : naming.localName? location = some name) :
    naming.locals.lookup name = some (naming.owned location) ∧
      naming.written location = naming.owned location := by
  rcases Option.map_eq_some_iff.mp isLocal with ⟨index, isIndex, rfl⟩
  rcases List.idxOf?_eq_some_iff.mp isIndex with ⟨inside, same, -⟩
  have placed : naming.hoisted[index]? = some location :=
    List.getElem?_eq_some_iff.mpr ⟨inside, same⟩
  have bound : (naming.classSnake ++ toString index, naming.owned location) ∈ naming.locals :=
    List.mem_map.mpr ⟨(location, index), List.mem_zipIdx_iff_getElem?.mpr placed, rfl⟩
  refine ⟨lookup_of_mem naming.nodup_locals bound, ?_⟩
  have hoists := (List.mem_filter.mp (mem_distinct.mp (List.mem_of_getElem? placed))).2
  cases location with
  | method source member span typeArguments dependencies => rfl
  | field _ _ _ => cases hoists
  | generated _ _ _ => cases hoists
  | parameter _ _ => cases hoists

/-- A name with an underscore is none of the locals of a class without one. -/
theorem resolved_of_underscored
    (plain : ¬ Underscored naming.classSnake)
    {name : String}
    (underscored : Underscored name) :
    naming.resolved (.ident name) = .ident name := by
  have none : naming.locals.lookup name = none := by
    refine List.lookup_eq_none_iff.mpr (List.forall_mem_map.mpr ?_)
    rintro ⟨location, index⟩ -
    refine bne_iff_ne.mpr ?_
    rintro rfl
    exact not_underscored_numbered plain index underscored
  rw [resolved, none, Option.getD_none]

/-- What is consulted is the instance as it is written, or the local that is bound to it. -/
theorem resolved_receiver (plain : ¬ Underscored naming.classSnake) (location : Location) :
    naming.resolved (naming.receiver location) = naming.written location := by
  rw [receiver_eq]
  cases isLocal : naming.localName? location with
  | some name =>
      rcases exists_method_of_localName? isLocal with ⟨bound, same⟩
      rw [Option.elim_some, resolved, bound, Option.getD_some, same]
  | none =>
      rw [Option.elim_none]
      cases location with
      | field source member span => rfl
      | method source member span typeArguments dependencies => rw [written, owned]; rfl
      | parameter className name => exact resolved_of_underscored plain (underscored_parameterName _)
      | generated className type dependencies =>
          rw [written]
          split
          next parametric => rw [owned, if_pos parametric]; rfl
          next => exact resolved_of_underscored plain naming.underscored_staticName

end InstanceNaming

end DataDerive
