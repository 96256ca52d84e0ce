import DataDerive.Proofs.ClassInstance.Hygiene
import DataDerive.Proofs.Code.Calls
import DataDerive.Proofs.Derive.Accessors

/-!
# What an instance of a standard class consults

The arms of an instance are put together from three lists: the arguments of the
constructors, what has been found for them, and the names that patterns bind.  They
are joined by position, and what is missing in one of them would be left out.  In a
model that is built nothing is missing.  Each arm applies for each argument, in
their order and once, what has been found for its type to what each operand binds
for it, and applies nothing to witnesses.  Cases are told apart by their numbers,
which grow in the order of declaration.
-/

namespace DataDerive

/-! ## What is handed out -/

namespace DataType

variable {data : DataType} {constructor : Constructor} {field : Field}

theorem isPointed_iff :
    data.isPointed constructor field = true ↔
      data.Recurs field ∧ ¬ constructor.Erases field := by
  rw [isPointed, Bool.and_eq_true, Bool.not_eq_true', isRecursiveField_iff, ← Bool.not_eq_true,
    Constructor.isErased_eq_true_iff]

theorem borrowed_of_pointed
    (recurs : data.Recurs field)
    (kept : ¬ constructor.Erases field)
    (binding : String) :
    data.borrowed constructor field binding = .throughPointer (.bound binding) :=
  if_pos (isPointed_iff.mpr ⟨recurs, kept⟩)

theorem borrowed_of_plain
    (plain : ¬ data.Recurs field ∨ constructor.Erases field)
    (binding : String) :
    data.borrowed constructor field binding = .bound binding :=
  if_neg fun pointed => plain.elim (· (isPointed_iff.mp pointed).1) (isPointed_iff.mp pointed).2

end DataType

/-! ## Patterns of operands -/

namespace Pattern

/-- The patterns for one operand or for two. -/
def operands : Pattern → List Pattern
  | .pair left right => [left, right]
  | pattern => [pattern]

/-- The fields that a pattern of a variant binds, with their names. -/
def bindings : Pattern → List (String × String)
  | .fields _ bindings => bindings
  | _ => []

/-- A pattern matches values of two variants. -/
inductive AdmitsBoth (left right : VariantPath) : Pattern → Prop where
  | pair {first second : Pattern}
      (admitsLeft : first.Admits left)
      (admitsRight : second.Admits right) :
      AdmitsBoth left right (.pair first second)
  | oneOf {alternatives : List Pattern} {pattern : Pattern}
      (listed : pattern ∈ alternatives)
      (admits : AdmitsBoth left right pattern) :
      AdmitsBoth left right (.oneOf alternatives)
  | ident (name : String) : AdmitsBoth left right (.ident name)
  | anything : AdmitsBoth left right .anything

end Pattern

/-- A pattern matches the variant of a constructor and binds its arguments to numbered names. -/
structure DataType.BindsArguments
    (data : DataType)
    (constructor : Constructor)
    (letter : String)
    (pattern : Pattern) : Prop where
  admits_iff : ∀ path, pattern.Admits path ↔ data.variantPath constructor = path
  bindings : pattern.bindings = constructor.arguments.zipIdx.map fun (field, index) =>
    (field.spelling, letter ++ toString index)

theorem DataType.bindsArguments_numberedPattern
    (data : DataType)
    (constructor : Constructor)
    (letter : String) :
    data.BindsArguments constructor letter (data.numberedPattern letter constructor) := by
  refine ⟨fun _ => admits_patternWith_iff, ?_⟩
  rw [numberedPattern, patternWith]
  split
  next unit =>
    rw [Constructor.arguments_of_isUnit unit]
    rfl
  next => rfl

namespace StandardClass

variable {data : DataType} {constructor : Constructor}

theorem operands_numberedPattern (data : DataType) (letter : String) (constructor : Constructor) :
    (data.numberedPattern letter constructor).operands =
      [data.numberedPattern letter constructor] := by
  rw [DataType.numberedPattern, DataType.patternWith]
  split <;> rfl

/-- There is an operand for each letter. -/
theorem operands_pattern (standard : StandardClass) (data : DataType) (constructor : Constructor) :
    (standard.pattern data constructor).operands =
      standard.letters.map fun letter => data.numberedPattern letter constructor := by
  cases standard with
  | equality | ordering => rfl
  | display | hashing => exact operands_numberedPattern data "v" constructor

theorem nodup_numbered (standard : StandardClass) (constructor : Constructor) :
    (standard.numbered constructor).Nodup := by
  have letters : standard.letters.Pairwise Unlike := by
    cases standard <;> decide
  refine List.nodup_flatMap.mpr
    ⟨fun letter _ => nodup_map_numbered letter constructor.arguments, ?_⟩
  refine letters.imp fun unlike name isFirst isSecond => ?_
  rcases List.mem_map.mp isFirst with ⟨first, -, rfl⟩
  rcases List.mem_map.mp isSecond with ⟨second, -, same⟩
  exact unlike.append_ne _ _ same.symm

/-! ## Calls in an arm -/

theorem calls_thenCompare {method : String} (other : "then_with" ≠ method) (outcomes : List Expr) :
    (thenCompare outcomes).calls method = outcomes.flatMap (Expr.calls method) := by
  cases outcomes with
  | nil => rfl
  | cons first rest =>
      rw [thenCompare, List.flatMap_cons]
      induction rest generalizing first with
      | nil => exact (List.append_nil _).symm
      | cons second rest ih =>
          rw [List.foldl_cons, ih, Expr.calls_method_of_ne other, List.flatMap_cons,
            List.flatMap_cons, List.flatMap_nil, List.append_nil, List.append_assoc, Expr.calls]

/-- Putting outcomes together calls the method of the class no more than they do. -/
theorem calls_combine (standard : StandardClass) (constructor : Constructor)
    (outcomes : List Expr) :
    (standard.combine constructor outcomes).calls standard.method =
      outcomes.flatMap (Expr.calls standard.method) := by
  rw [← Expr.callsAll_eq_flatMap]
  cases standard with
  | equality =>
      rw [combine]
      split
      next none => rw [List.isEmpty_iff.mp none]; rfl
      next => rfl
  | display =>
      rw [combine]
      split
      next none => rw [List.isEmpty_iff.mp none]; rfl
      next => rfl
  | ordering =>
      rw [Expr.callsAll_eq_flatMap]
      exact calls_thenCompare (by decide) outcomes
  | hashing => rfl

theorem calls_borrowed (data : DataType) (constructor : Constructor) (field : Field)
    (binding method : String) :
    (data.borrowed constructor field binding).calls method = [] := by
  rw [DataType.borrowed]
  split <;> rfl

/-- The consultation of an instance: what is consulted, and what it is applied to. -/
def consultation
    (standard : StandardClass)
    (data : DataType)
    (constructor : Constructor) : (Field × Expr) × Nat → Expr × List Expr
  | ((field, receiver), index) => (receiver, standard.letters.map fun letter =>
      data.borrowed constructor field (letter ++ toString index))

/-- If what is consulted calls the method nowhere, an arm calls it once for each argument. -/
theorem calls_consultations
    {standard : StandardClass}
    {receivers : List Expr}
    (silent : ∀ receiver ∈ receivers, receiver.calls standard.method = []) :
    (standard.combine constructor (standard.consultations data constructor receivers)).calls
        standard.method =
      (consulted constructor receivers).map (standard.consultation data constructor) := by
  rw [calls_combine, consultations, List.flatMap_map, List.map_eq_flatMap]
  refine List.flatMap_congr ?_
  rintro ⟨⟨field, receiver⟩, index⟩ listed
  have among : receiver ∈ receivers :=
    (List.of_mem_zip (List.fst_mem_of_mem_zipIdx listed)).2
  have none : (standard.letters.map fun letter =>
      data.borrowed constructor field (letter ++ toString index)).flatMap
        (Expr.calls standard.method) = [] :=
    List.flatMap_eq_nil_iff.mpr (List.forall_mem_map.mpr fun _ _ => calls_borrowed _ _ _ _ _)
  rw [Expr.calls_method_self, silent receiver among, none]
  rfl

end StandardClass

/-! ## Case numbers -/

/-- Operands of different variants are left to a fallback that compares different numbers. -/
structure DataType.TellsApart (data : DataType) (value : ClassFunction) : Prop where
  /-- An arm matches operands of one variant only. -/
  arms : ∀ arm ∈ value.arms, ∀ left right, arm.pattern.AdmitsBoth left right → left = right
  /-- If there are several cases, the number of each is its position. -/
  fallback : data.isSingleCase = false → ∃ numbers, value.fallback = .caseNumbers numbers ∧
    List.Forall₂ (fun constructor numbered =>
      (∀ path, numbered.1.Admits path ↔ data.variantPath constructor = path) ∧
        numbered.2 = constructor.index) data.constructors numbers ∧
    ∀ first ∈ numbers, ∀ second ∈ numbers, ∀ left right,
      first.1.Admits left → second.1.Admits right → left ≠ right → first.2 ≠ second.2

/-- The numbers that an instance gives to cases grow, and tell them apart. -/
structure StandardClass.NumbersCases
    (standard : StandardClass)
    (data : DataType)
    (value : ClassFunction) : Prop where
  increasing : data.constructors.Pairwise fun first second => first.index < second.index
  hashing : standard = .hashing → List.Forall₂ (fun constructor arm => ∃ outcomes,
    arm.result = .hashOf (.number constructor.index "_u64" :: outcomes)) data.constructors value.arms
  ordering : standard = .ordering → data.TellsApart value

namespace StandardClass

variable {data : DataType}

theorem tellsApart_ordering (wellFormed : data.WellFormed) (receivers : List (List Expr)) :
    data.TellsApart (ordering.value data receivers) where
  arms := by
    refine List.forall_mem_map.mpr fun constructor _ left right admits => ?_
    cases admits with
    | pair admitsLeft admitsRight =>
        exact (DataType.admits_patternWith_iff.mp admitsLeft).symm.trans
          (DataType.admits_patternWith_iff.mp admitsRight)
  fallback several := by
    refine ⟨_, if_neg (Bool.eq_false_iff.mp several), ?_, ?_⟩
    · rw [List.forall₂_map_right_iff, List.forall₂_same]
      exact fun _ _ => ⟨fun _ => DataType.admits_patternWith_iff, rfl⟩
    · refine List.forall_mem_map.mpr fun constructor listed => ?_
      refine List.forall_mem_map.mpr fun other otherListed left right isLeft isRight apart same => ?_
      have sameIndex : constructor.index = other.index := same
      have one : constructor = other := by
        rw [← Option.some_inj, ← wellFormed.getElem?_index listed, sameIndex,
          wellFormed.getElem?_index otherListed]
      rw [← DataType.admits_patternWith_iff.mp isLeft,
        ← DataType.admits_patternWith_iff.mp isRight, one] at apart
      exact apart rfl

theorem numbersCases_value
    (standard : StandardClass)
    (wellFormed : data.WellFormed)
    (receivers : List (List Expr)) :
    standard.NumbersCases data (standard.value data receivers) where
  increasing := wellFormed.pairwise_index
  hashing := by
    rintro rfl
    rw [value, List.forall₂_map_right_iff, List.forall₂_same]
    exact fun _ _ => ⟨_, rfl⟩
  ordering := by
    rintro rfl
    exact tellsApart_ordering wellFormed receivers

end StandardClass

/-! ## Consultations of what is found -/

/-- No method is called in an instance, besides the one that copies. -/
theorem InstanceNaming.inherited_silent {method : String} (other : "clone" ≠ method) :
    Inherited fun value => value.calls method = [] where
  member _ _ := rfl
  underscored _ _ := rfl
  clone value silent := by
    rw [Expr.clone, Expr.calls_method_of_ne other, silent, List.flatMap_nil, List.append_nil]
  call function arguments silent each := by
    rw [Expr.calls_call, silent, List.flatMap_eq_nil_iff.mpr each, List.append_nil]

/-- The bodies of functions and of statics. -/
def CodeUnit.bodies (unit : CodeUnit) : List Body :=
  unit.allFunctions.filterMap FunctionItem.body ++ unit.statics.map StaticItem.body

namespace InstanceRequest

variable {request : InstanceRequest} {standard : StandardClass} {constructor : Constructor}

/-- How the instance for an argument at its position is consulted. -/
structure Consults
    (request : InstanceRequest)
    (standard : StandardClass)
    (naming : InstanceNaming)
    (constructor : Constructor)
    (argument : Field × Nat)
    (call : Expr × List Expr) : Prop where
  /-- The receiver is made of what is found for the type of the argument. -/
  receiver : ∃ instance_, request.findFor argument.1 = .ok instance_ ∧
    call.1 = naming.receiver instance_.location ∧
      naming.resolved call.1 = naming.written instance_.location
  /-- An argument of the data type itself is reached through what each operand binds for it. -/
  pointed : request.data.Recurs argument.1 → ¬ constructor.Erases argument.1 →
    call.2 = standard.letters.map fun letter =>
      .throughPointer (.bound (letter ++ toString argument.2))
  /-- Every other argument, and an erased one, is what each operand binds for it. -/
  plain : ¬ request.data.Recurs argument.1 ∨ constructor.Erases argument.1 →
    call.2 = standard.letters.map fun letter => .bound (letter ++ toString argument.2)

/-- An arm for operands of a constructor consults an instance for each argument. -/
structure ConsultsEach
    (request : InstanceRequest)
    (standard : StandardClass)
    (naming : InstanceNaming)
    (constructor : Constructor)
    (arm : Arm) : Prop where
  /-- There is one call for each argument, in their order, and there are no others. -/
  calls : List.Forall₂ (request.Consults standard naming constructor)
    constructor.arguments.zipIdx (arm.result.calls standard.method)
  operands : List.Forall₂ (request.data.BindsArguments constructor) standard.letters
    arm.pattern.operands
  nodup : arm.pattern.boundNames.Nodup
  hygienic : arm.Hygienic

theorem forall₂_of_findAll
    {row : List (Field × FoundInstance)}
    (finds : request.findAll constructor = .ok row) :
    List.Forall₂ (fun field entry => request.findFor field = .ok entry.2)
      constructor.arguments row := by
  refine (Derived.mapM_eq_ok_iff.mp finds).imp fun field entry one => ?_
  rcases Derived.bind_eq_ok_iff.mp one with ⟨instance_, isFound, same⟩
  cases same
  exact isFound

/-- Joined by position, the arguments and what is found for them make up consultations. -/
theorem forall₂_consults
    {naming : InstanceNaming}
    (plain : ¬ Underscored naming.classSnake)
    {arguments : List Field}
    {row : List (Field × FoundInstance)}
    (finds : List.Forall₂ (fun field entry => request.findFor field = .ok entry.2) arguments row)
    (position : Nat) :
    List.Forall₂ (request.Consults standard naming constructor) (arguments.zipIdx position)
      (((arguments.zip (row.map fun entry => naming.receiver entry.2.location)).zipIdx
        position).map (standard.consultation request.data constructor)) := by
  induction finds generalizing position with
  | nil => exact .nil
  | cons isFound _ ih =>
      refine .cons ⟨⟨_, isFound, rfl, naming.resolved_receiver plain _⟩, ?pointed, ?plain⟩
        (ih (position + 1))
      case pointed =>
        exact fun recurs kept => List.map_congr_left fun letter _ =>
          DataType.borrowed_of_pointed recurs kept _
      case plain =>
        exact fun direct => List.map_congr_left fun letter _ =>
          DataType.borrowed_of_plain direct _

section Found

variable {found : List (List (Field × FoundInstance))} (finds : request.findings = .ok found)

include finds

/-- The receivers at the position of a constructor are made of what is found for it. -/
theorem exists_row_of_findings
    (wellFormed : request.data.WellFormed)
    (listed : constructor ∈ request.data.constructors) :
    ∃ row, request.findAll constructor = .ok row ∧
      (request.naming found).receivers[constructor.index]? =
        some (row.map fun entry => (request.naming found).receiver entry.2.location) := by
  rcases Derived.exists_getElem?_of_mapM finds (wellFormed.getElem?_index listed) with
    ⟨row, placed, one⟩
  refine ⟨row, one, ?_⟩
  have location : (request.naming found).locations[constructor.index]? =
      some (row.map fun entry => entry.2.location) := by
    rw [naming, List.getElem?_map, placed, Option.map_some]
  rw [InstanceNaming.receivers, List.getElem?_map, location, Option.map_some, List.map_map]
  rfl

theorem forall₂_consultsEach
    (wellFormed : request.data.WellFormed)
    (isClass : request.className = standard.className) :
    List.Forall₂ (request.ConsultsEach standard (request.naming found)) request.data.constructors
      (standard.value request.data (request.naming found).receivers).arms := by
  have hygienic := hygienic_standardValue isClass found
  have plain : ¬ Underscored (request.naming found).classSnake := by
    change ¬ Underscored (Identifier.snakeCase request.className)
    rw [isClass]
    cases standard <;> decide
  rw [StandardClass.value, List.forall₂_map_right_iff, List.forall₂_same]
  intro constructor listed
  rcases exists_row_of_findings finds wellFormed listed with ⟨row, one, receivers⟩
  refine ⟨?calls, ?operands, ?nodup, ?hygienic⟩
  case calls =>
    have cloning : "clone" ≠ standard.method := by
      cases standard <;> decide
    have silent : ∀ receiver ∈ row.map fun entry => (request.naming found).receiver entry.2.location,
        receiver.calls standard.method = [] :=
      List.forall_mem_map.mpr fun entry _ =>
        (InstanceNaming.inherited_silent cloning).receiver _ (fun _ => rfl) entry.2.location
    rw [receivers, Option.getD_some, StandardClass.calls_consultations silent]
    exact forall₂_consults plain (forall₂_of_findAll one) 0
  case operands =>
    rw [StandardClass.operands_pattern, List.forall₂_map_right_iff, List.forall₂_same]
    exact fun letter _ => request.data.bindsArguments_numberedPattern constructor letter
  case nodup =>
    rw [StandardClass.boundNames_pattern]
    exact standard.nodup_numbered constructor
  case hygienic =>
    exact hygienic _ (List.mem_append_left _ (List.mem_map_of_mem listed))

end Found

theorem bodies_unitOf
    (request : InstanceRequest)
    (generator : InstanceGenerator)
    (found : List (List (Field × FoundInstance))) :
    (request.unitOf generator found).bodies =
      [.classValue (request.naming found).locals
        (generator.value request.data (request.naming found).receivers)] := by
  change (request.item _ _).bodies = _
  rw [item]
  split <;> rfl

end InstanceRequest

namespace Declaration

/--
The instance of a standard class for a model that is built has one body.  Each of
its arms, one for each constructor, consults what has been found for each argument,
in their order and once, at what is bound for the argument, and witnesses are no
arguments.  The numbers of cases grow in the order of declaration, and an order
leaves operands of different variants to them.
-/
theorem instance_consults_each
    {declaration : Declaration}
    {snapshot : Snapshot}
    {request : InstanceRequest}
    {standard : StandardClass}
    {unit : CodeUnit}
    (built : declaration.toDataType snapshot = .ok request.data)
    (isClass : request.className = standard.className)
    (generated : request.generate standard.generator = .ok unit) :
    ∃ found value,
      request.findings = .ok found ∧
      unit.bodies = [.classValue (request.naming found).locals (.function value)] ∧
      List.Forall₂ (request.ConsultsEach standard (request.naming found))
        request.data.constructors value.arms ∧
      (∀ constructor ∈ request.data.constructors, constructor.arguments =
        constructor.caseFields.filter fun field => !constructor.isWitness field) ∧
      standard.NumbersCases request.data value := by
  have wellFormed := wellFormed_of_toDataType built
  rcases InstanceRequest.generate_eq_ok_iff.mp generated with ⟨found, finds, -, rfl⟩
  exact ⟨found, standard.value request.data (request.naming found).receivers, finds,
    request.bodies_unitOf standard.generator found,
    InstanceRequest.forall₂_consultsEach finds wellFormed isClass,
    fun constructor listed => (laidOut_of_toDataType built constructor listed).arguments_eq_filter,
    standard.numbersCases_value wellFormed _⟩

/-- A request to order conversions. -/
def conversionOrder : InstanceRequest where
  data := conversionModel
  className := "Ord"
  around := ⟨0, 9⟩
  span := ⟨1, 4⟩
  providers := []
  lowPriority := []

/-- Reading conversions come before plain ones, and only fields of one kind are compared. -/
theorem instance_consults_each_conversion :
    conversion.toDataType default = .ok conversionOrder.data ∧
    conversionOrder.className = StandardClass.ordering.className ∧
    ∃ unit found value,
      conversionOrder.generate StandardClass.ordering.generator = .ok unit ∧
      unit.bodies = [.classValue (conversionOrder.naming found).locals (.function value)] ∧
      List.Forall₂ (conversionOrder.ConsultsEach .ordering (conversionOrder.naming found))
        conversionModel.constructors value.arms ∧
      conversionModel.TellsApart value := by
  have built : conversion.toDataType default = .ok conversionOrder.data := rfl
  have isClass : conversionOrder.className = StandardClass.ordering.className := rfl
  obtain ⟨unit, generated⟩ :
      ∃ unit, conversionOrder.generate StandardClass.ordering.generator = .ok unit := ⟨_, rfl⟩
  obtain ⟨found, value, -, bodies, each, -, numbers⟩ :=
    instance_consults_each built isClass generated
  exact ⟨built, isClass, unit, found, value, generated, bodies, each, numbers.ordering rfl⟩

end Declaration

end DataDerive
