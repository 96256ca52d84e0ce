import DataDerive.Proofs.ClassInstance.Consultations

/-!
# Locals of a generated instance

The locals of a generated instance are evaluated when the instance is made, and its
function when the instance is consulted.  A static is made once, on its first use,
and that use must not come back to it.  So the instance under construction may only be
mentioned in the function.

What gets a local is decided by looking through a location for uses of the instance
under construction, and what is bound to the local is written by another recursion
over the location.  Both agree: without such a use the code refers to nothing but
parameters, and with one it refers to the instance by name.
-/

namespace DataDerive

open InstanceNaming

/-! ## Locations that build on the instance under construction -/

namespace Location

/-- The instance under construction is a part of a location, at any depth. -/
def IsRecursive (location : Location) : Prop :=
  ∃ type, UsedAt type location

/-- A location is a static method. -/
def IsMethod (location : Location) : Prop :=
  ∃ source member span typeArguments dependencies,
    location = .method source member span typeArguments dependencies

variable {source member className name : String} {span : Span} {type : TypeExpr}
variable {typeArguments : List (String × TypeExpr)} {dependencies : List Location}

theorem isRecursive_generated : (generated className type dependencies).IsRecursive :=
  ⟨type, className, dependencies, .here⟩

theorem not_isRecursive_field : ¬ (field source member span).IsRecursive := by
  rintro ⟨type, className, dependencies, ⟨⟩⟩

theorem not_isRecursive_parameter : ¬ (parameter className name).IsRecursive := by
  rintro ⟨type, className, dependencies, ⟨⟩⟩

theorem isRecursive_method_iff :
    (method source member span typeArguments dependencies).IsRecursive ↔
      ∃ dependency ∈ dependencies, dependency.IsRecursive := by
  simp only [IsRecursive, usedAt_method_iff]
  constructor
  · rintro ⟨type, dependency, listed, used⟩
    exact ⟨dependency, listed, type, used⟩
  · rintro ⟨dependency, listed, type, used⟩
    exact ⟨type, dependency, listed, used⟩

theorem anyMentionsGenerated_eq_true_iff {locations : List Location} :
    anyMentionsGenerated locations = true ↔
      ∃ location ∈ locations, location.mentionsGenerated = true := by
  induction locations with
  | nil => simp [anyMentionsGenerated]
  | cons location rest ih =>
      rw [anyMentionsGenerated, Bool.or_eq_true, ih, List.exists_mem_cons_iff]

theorem mentionsGenerated_eq_true_iff {location : Location} :
    location.mentionsGenerated = true ↔ location.IsRecursive := by
  induction location using inductionOn with
  | field source member span =>
      rw [mentionsGenerated]
      exact iff_of_false Bool.false_ne_true not_isRecursive_field
  | method source member span typeArguments dependencies ih =>
      rw [mentionsGenerated, anyMentionsGenerated_eq_true_iff, isRecursive_method_iff]
      exact exists_congr fun dependency => and_congr_right (ih dependency)
  | generated className type dependencies ih =>
      rw [mentionsGenerated]
      exact iff_of_true rfl isRecursive_generated
  | parameter className name =>
      rw [mentionsGenerated]
      exact iff_of_false Bool.false_ne_true not_isRecursive_parameter

theorem isHoisted_eq_true_iff {location : Location} :
    isHoisted location = true ↔ location.IsMethod ∧ ¬ location.IsRecursive := by
  rw [← mentionsGenerated_eq_true_iff]
  cases location with
  | method source member span typeArguments dependencies =>
      rw [isHoisted, Bool.not_eq_true', Bool.not_eq_true]
      exact (and_iff_right ⟨_, _, _, _, _, rfl⟩).symm
  | field source member span => exact iff_of_false Bool.false_ne_true nofun
  | generated className type dependencies => exact iff_of_false Bool.false_ne_true nofun
  | parameter className name => exact iff_of_false Bool.false_ne_true nofun

end Location

/-! ## References -/

namespace Expr

/-- An expression refers to the item of a name, which is not the name of a parameter around it. -/
def RefersTo (parameters : List String) (name : String) (value : Expr) : Prop :=
  .outer name ∈ value.references ∧ name ∉ parameters

end Expr

namespace InstanceNaming

variable {naming : InstanceNaming} {location : Location}

/-- The name of the instance under construction. -/
def ownName (naming : InstanceNaming) : String :=
  if naming.data.isParametric then naming.functionName else naming.staticName

/-- Code for a location without uses of the instance refers to parameters that the location has. -/
theorem references_owned (apart : ¬ location.IsRecursive) :
    ∀ reference ∈ (naming.owned location).references, ∃ parameter : String × String,
      (Location.parameter parameter.1 parameter.2).OccursIn location ∧
        reference = .outer (parameterName parameter) := by
  induction location using Location.inductionOn with
  | field source member span =>
      rw [owned, Expr.references_clone]
      exact List.forall_mem_nil _
  | method source member span typeArguments dependencies ih =>
      rw [owned, ownedAll_eq_map, Expr.references_call]
      refine List.forall_mem_append.mpr ⟨List.forall_mem_nil _, List.forall_mem_flatMap.mpr ?_⟩
      refine List.forall_mem_map.mpr fun dependency listed reference refers => ?_
      have without : ¬ dependency.IsRecursive := fun recursive =>
        apart (Location.isRecursive_method_iff.mpr ⟨dependency, listed, recursive⟩)
      rcases ih dependency listed without reference refers with ⟨parameter, occurs, same⟩
      exact ⟨parameter, .method listed occurs, same⟩
  | generated className type dependencies ih => exact absurd Location.isRecursive_generated apart
  | parameter className name =>
      rw [owned, Expr.references_clone]
      exact List.forall_mem_singleton.mpr ⟨(className, name), .here, rfl⟩

/-- Code for a location with a use of the instance refers to the instance by name. -/
theorem ownName_mem_references_owned (recursive : location.IsRecursive) :
    .outer naming.ownName ∈ (naming.owned location).references := by
  induction location using Location.inductionOn with
  | field source member span => exact absurd recursive Location.not_isRecursive_field
  | method source member span typeArguments dependencies ih =>
      rcases Location.isRecursive_method_iff.mp recursive with ⟨dependency, listed, inside⟩
      rw [owned, ownedAll_eq_map, Expr.references_call]
      exact List.mem_append_right _ (List.mem_flatMap.mpr
        ⟨_, List.mem_map_of_mem listed, ih dependency listed inside⟩)
  | generated className type dependencies ih =>
      rw [owned, ownName]
      split
      next =>
        rw [Expr.references_call]
        exact List.mem_append_left _ (List.mem_singleton_self _)
      next =>
        rw [Expr.references_clone]
        exact List.mem_singleton_self _
  | parameter className name => exact absurd recursive Location.not_isRecursive_parameter

theorem ownName_mem_references_written (recursive : location.IsRecursive) :
    .outer naming.ownName ∈ (naming.written location).references := by
  cases location with
  | field source member span => exact absurd recursive Location.not_isRecursive_field
  | method source member span typeArguments dependencies =>
      exact ownName_mem_references_owned recursive
  | generated className type dependencies =>
      rw [written]
      split
      next => exact ownName_mem_references_owned recursive
      next closed =>
        rw [ownName, if_neg closed]
        exact List.mem_singleton_self _
  | parameter className name => exact absurd recursive Location.not_isRecursive_parameter

/-! ## Locals -/

theorem mem_hoisted_iff :
    location ∈ naming.hoisted ↔
      location ∈ naming.locations.flatten ∧ location.IsMethod ∧ ¬ location.IsRecursive := by
  rw [hoisted, mem_distinct, List.mem_filter, Location.isHoisted_eq_true_iff]

theorem exists_localName?_iff :
    (∃ name, naming.localName? location = some name) ↔ location ∈ naming.hoisted := by
  rw [← Option.isSome_iff_exists, localName?, Option.isSome_map, List.isSome_idxOf?]

/-- A local stands for one location. -/
theorem localName?_injective
    {first second : Location}
    {name : String}
    (isFirst : naming.localName? first = some name)
    (isSecond : naming.localName? second = some name) :
    first = second := by
  rcases Option.map_eq_some_iff.mp isFirst with ⟨index, atIndex, rfl⟩
  rcases Option.map_eq_some_iff.mp isSecond with ⟨other, atOther, same⟩
  have position : other = index :=
    Nat.repr_injective ((String.append_right_inj naming.classSnake).mp same)
  rcases List.idxOf?_eq_some_iff.mp atIndex with ⟨_, isPlaced, -⟩
  rcases List.idxOf?_eq_some_iff.mp atOther with ⟨_, isOther, -⟩
  subst position
  exact isPlaced.symm.trans isOther

theorem exists_of_mem_locals
    {bound : String × Expr}
    (listed : bound ∈ naming.locals) :
    ∃ location ∈ naming.hoisted,
      naming.localName? location = some bound.1 ∧ bound.2 = naming.owned location := by
  rcases List.mem_map.mp listed with ⟨⟨location, index⟩, numbered, rfl⟩
  have placed : naming.hoisted[index]? = some location :=
    List.mem_zipIdx_iff_getElem?.mp numbered
  rcases List.getElem?_eq_some_iff.mp placed with ⟨inside, same⟩
  have first : naming.hoisted.idxOf? location = some index := by
    refine List.idxOf?_eq_some_iff.mpr ⟨inside, same, fun earlier before again => ?_⟩
    have distinct : naming.hoisted.Nodup := nodup_distinct _
    exact Nat.ne_of_lt before (distinct.getElem_inj_iff.mp (again.trans same.symm))
  refine ⟨location, List.mem_of_getElem? placed, ?_, rfl⟩
  rw [localName?, first, Option.map_some]

/-- What is bound to a local refers to nothing but parameters of the instance. -/
theorem exists_parameter_of_mem_references
    {bound : String × Expr}
    (listed : bound ∈ naming.locals) :
    ∀ reference ∈ bound.2.references, ∃ parameter ∈ naming.parameters,
      reference = .outer (parameterName parameter) := by
  rcases exists_of_mem_locals listed with ⟨location, hoists, -, isBound⟩
  rcases mem_hoisted_iff.mp hoists with ⟨among, -, apart⟩
  rw [isBound]
  intro reference refers
  rcases references_owned apart reference refers with ⟨parameter, occurs, same⟩
  refine ⟨parameter, ?_, same⟩
  rw [parameters, mem_distinct, List.mem_flatMap]
  exact ⟨location, among, mem_distinct.mpr (Location.mem_parameterOccurrences.mpr occurs)⟩

/-- What builds on the instance under construction is consulted as it is written. -/
theorem receiver_of_isRecursive (recursive : location.IsRecursive) :
    naming.localName? location = none ∧ naming.receiver location = naming.written location := by
  have none : naming.localName? location = none := by
    refine Option.eq_none_iff_forall_ne_some.mpr fun name isLocal => ?_
    exact (mem_hoisted_iff.mp (exists_localName?_iff.mp ⟨name, isLocal⟩)).2.2 recursive
  refine ⟨none, ?_⟩
  rw [receiver_eq, none, Option.elim_none]

/-- What is bound to locals, and what is written where it is consulted. -/
structure HoistsApart (naming : InstanceNaming) : Prop where
  /-- Of what has been found, the static methods are hoisted that do not build on the instance. -/
  mem_hoisted_iff : ∀ location, location ∈ naming.hoisted ↔
    location ∈ naming.locations.flatten ∧ location.IsMethod ∧ ¬ location.IsRecursive
  /-- What is bound to a local is hoisted, and refers to no item, the instance among them. -/
  locals : ∀ bound ∈ naming.locals,
    (∃ location ∈ naming.hoisted,
      naming.localName? location = some bound.1 ∧ bound.2 = naming.owned location) ∧
    ∀ name, ¬ bound.2.RefersTo (naming.parameters.map parameterName) name
  /-- A local is consulted for one location, wherever that has been found. -/
  shared : ∀ location ∈ naming.hoisted, ∃ name, naming.receiver location = .ident name ∧
    naming.locals.lookup name = some (naming.owned location) ∧
    ∀ other, naming.localName? other = some name ↔ other = location
  /-- What builds on the instance has no local, and its code mentions the instance. -/
  inline : ∀ location ∈ naming.locations.flatten, location.IsRecursive →
    naming.localName? location = none ∧ naming.receiver location = naming.written location ∧
      .outer naming.ownName ∈ (naming.written location).references

theorem hoistsApart (naming : InstanceNaming) : naming.HoistsApart where
  mem_hoisted_iff _ := mem_hoisted_iff
  locals bound listed := by
    refine ⟨exists_of_mem_locals listed, ?_⟩
    rintro name ⟨refers, free⟩
    rcases exists_parameter_of_mem_references listed _ refers with ⟨parameter, needed, same⟩
    cases same
    exact free (List.mem_map_of_mem needed)
  shared location hoists := by
    rcases exists_localName?_iff.mpr hoists with ⟨name, isLocal⟩
    refine ⟨name, ?_, (exists_method_of_localName? isLocal).1, fun other => ⟨?_, ?_⟩⟩
    · rw [receiver_eq, isLocal, Option.elim_some]
    · exact fun isOther => localName?_injective isOther isLocal
    · rintro rfl
      exact isLocal
  inline location _ recursive :=
    ⟨(receiver_of_isRecursive recursive).1, (receiver_of_isRecursive recursive).2,
      ownName_mem_references_written recursive⟩

end InstanceNaming

/-! ## Evaluation of instances -/

/--
The expressions that are evaluated for the value of a body, as far as they are known.
The function of a class instance is made for it, and not called.
-/
def Body.evaluated? : Body → Option (List Expr)
  | .expression result => some [result]
  | .cases value arms => some (value :: arms.map Arm.result)
  | .unpack _ value items => some (value :: items)
  | .classValue locals (.function _) => some (locals.map Prod.snd)
  | .classValue _ (.verbatim _) => none
  | .verbatim _ => none

/-- A member of the first list is related to one of the second. -/
theorem exists_of_forall₂
    {α β : Type}
    {related : α → β → Prop}
    {members : List α}
    {others : List β}
    (each : List.Forall₂ related members others)
    {member : α}
    (listed : member ∈ members) :
    ∃ other ∈ others, related member other := by
  induction each with
  | nil => cases listed
  | cons first _ ih =>
      rcases List.mem_cons.mp listed with rfl | later
      · exact ⟨_, List.mem_cons_self, first⟩
      · rcases ih later with ⟨other, among, isRelated⟩
        exact ⟨other, List.mem_cons_of_mem _ among, isRelated⟩

namespace InstanceRequest

variable {request : InstanceRequest} {standard : StandardClass}
variable {found : List (List (Field × FoundInstance))}

/-- A data type without parameters has no parameters in its instances. -/
theorem parameters_eq_nil
    (finds : request.findings = .ok found)
    (closed : ¬ request.data.isParametric = true) :
    (request.naming found).parameters = [] := by
  have none : request.data.typeParams = [] := by
    simpa [DataType.isParametric] using closed
  refine List.eq_nil_iff_forall_not_mem.mpr fun parameter needed => ?_
  have declared := declared_of_findings finds needed
  rw [none] at declared
  cases declared

/-- Where there are no type parameters, what is bound to locals refers to nothing at all. -/
theorem references_eq_nil_of_mem_locals
    (finds : request.findings = .ok found)
    (closed : ¬ request.data.isParametric = true)
    {bound : String × Expr}
    (listed : bound ∈ (request.naming found).locals) :
    bound.2.references = [] := by
  refine List.eq_nil_iff_forall_not_mem.mpr fun reference refers => ?_
  rcases exists_parameter_of_mem_references listed reference refers with ⟨parameter, needed, -⟩
  rw [parameters_eq_nil finds closed] at needed
  cases needed

/-- The code of an instance is made without the instance and consults it in its function. -/
structure MadeApart
    (request : InstanceRequest)
    (standard : StandardClass)
    (found : List (List (Field × FoundInstance)))
    (unit : CodeUnit) : Prop where
  /-- Nothing is referred to when the static is initialized. -/
  statics : ∀ item ∈ unit.statics, item.name = (request.naming found).ownName ∧
    ∃ values, item.body.evaluated? = some values ∧ ∀ value ∈ values, value.references = []
  /-- No item is referred to when the function makes an instance. -/
  functions : ∀ item ∈ unit.allFunctions, item.name = (request.naming found).ownName ∧
    ∃ body ∈ item.body, ∃ values, body.evaluated? = some values ∧
      ∀ value ∈ values, ∀ name, ¬ value.RefersTo item.parameterNames name
  /-- The code that mentions the instance stands in the function of the class instance. -/
  consulted : ∃ value,
    unit.bodies = [.classValue (request.naming found).locals (.function value)] ∧
    ∀ constructor ∈ request.data.constructors, ∀ field ∈ constructor.arguments, ∀ instance_,
      request.findFor field = .ok instance_ → instance_.location.IsRecursive →
        ∃ arm ∈ value.arms, ∃ operands,
          ((request.naming found).written instance_.location, operands) ∈
            arm.result.calls standard.method

theorem madeApart_unitOf
    (wellFormed : request.data.WellFormed)
    (isClass : request.className = standard.className)
    (finds : request.findings = .ok found) :
    request.MadeApart standard found (request.unitOf standard.generator found) where
  statics := by
    change ∀ item ∈ (request.item _ _).statics, _
    rw [item]
    split
    next => exact List.forall_mem_nil _
    next closed =>
      refine List.forall_mem_singleton.mpr ⟨(if_neg closed).symm, _, rfl, ?_⟩
      exact List.forall_mem_map.mpr fun bound => references_eq_nil_of_mem_locals finds closed
  functions := by
    change ∀ item ∈ (request.item _ _).allFunctions, _
    rw [item]
    split
    next parametric =>
      rw [CodeUnit.allFunctions_ofFunctions]
      refine List.forall_mem_singleton.mpr ⟨(if_pos parametric).symm, _, rfl, _, rfl, ?_⟩
      refine List.forall_mem_map.mpr fun bound listed => ?_
      rw [FunctionItem.parameterNames, List.map_map]
      exact ((request.naming found).hoistsApart.locals bound listed).2
    next => exact List.forall_mem_nil _
  consulted := by
    refine ⟨_, request.bodies_unitOf standard.generator found, ?_⟩
    intro constructor listed field argument instance_ isFound recursive
    have each := forall₂_consultsEach finds wellFormed isClass
    rcases exists_of_forall₂ each listed with ⟨arm, among, consults⟩
    rcases List.mem_iff_getElem?.mp argument with ⟨position, placed⟩
    have numbered : (field, position) ∈ constructor.arguments.zipIdx :=
      List.mem_zipIdx_iff_getElem?.mpr placed
    rcases exists_of_forall₂ consults.calls numbered with ⟨call, called, right⟩
    rcases right.receiver with ⟨other, isOther, same, -⟩
    cases Except.ok.inj (isFound.symm.trans isOther)
    refine ⟨arm, among, call.2, ?_⟩
    rwa [← (receiver_of_isRecursive recursive).2, ← same]

/--
For every data type, class and table of locations, the hoisted locations are the static
methods that do not build on the instance under construction at any depth.  The code that
is bound to their locals refers to parameters of the instance and to no item, so neither
to the static nor to the function that is being defined.  A local is consulted for one
location only, and what builds on the instance is written out where it is consulted, with
the name of the instance.  If the table is what is found for a data type without type
parameters, there are no references in the locals at all.

In an instance of a standard class that is generated for a model, this code stands in the
function of the class instance, and all that is evaluated before that function is called
refers to no item.  So initializing a static does not come back to it.
-/
theorem instance_made_apart
    (request : InstanceRequest)
    (found : List (List (Field × FoundInstance))) :
    (request.naming found).HoistsApart ∧
      (request.findings = .ok found → request.data.isParametric = false →
        ∀ bound ∈ (request.naming found).locals, bound.2.references = []) ∧
      ∀ (declaration : Declaration) snapshot (standard : StandardClass) unit,
        declaration.toDataType snapshot = .ok request.data →
          request.className = standard.className → request.findings = .ok found →
            request.generate standard.generator = .ok unit →
              request.MadeApart standard found unit := by
  refine ⟨(request.naming found).hoistsApart, fun finds closed bound listed => ?_, ?_⟩
  · exact references_eq_nil_of_mem_locals finds (by simp [closed]) listed
  · intro declaration snapshot standard unit built isClass finds generated
    rcases generate_eq_ok_iff.mp generated with ⟨other, otherFinds, -, rfl⟩
    cases Except.ok.inj (finds.symm.trans otherFinds)
    exact madeApart_unitOf (Declaration.wellFormed_of_toDataType built) isClass finds

/-- Forests of numbered trees, with the forest below each tree. -/
def forest : Declaration where
  name := "Forest"
  span := ⟨0, 6⟩
  typeParams := []
  request := default
  methods :=
    [{ name := "match"
       span := ⟨7, 12⟩
       typeParams := [⟨"R", ⟨13, 14⟩⟩]
       parameters :=
         [⟨"Trees", ⟨15, 20⟩,
           .arrow
             [.con "Vec" [.atom "Forest"], .con "Vec" [.atom "i32"], .con "Vec" [.atom "i32"]]
             (.var "R"),
           ["below", "heights", "ages"]⟩]
       result := .var "R"
       isAbstract := true }]
  statics := []

def belowField : Field := ⟨"below", ⟨15, 20⟩, .con "Vec" [.atom "Forest"]⟩

def heightsField : Field := ⟨"heights", ⟨15, 20⟩, .con "Vec" [.atom "i32"]⟩

def agesField : Field := ⟨"ages", ⟨15, 20⟩, .con "Vec" [.atom "i32"]⟩

/-- A request to compare forests, where a vector is compared by its items. -/
def forestRequest : InstanceRequest where
  data :=
    { name := "Forest"
      span := ⟨0, 6⟩
      typeParams := []
      constructors :=
        [{ name := "Trees"
           span := ⟨15, 20⟩
           index := 0
           arguments := [belowField, heightsField, agesField]
           restrictions := []
           existentials := []
           typeParams := [] }]
      matcher := "match"
      resultVar := "R"
      encoding := .lambdas }
  className := "Eq"
  around := ⟨0, 1⟩
  span := ⟨0, 1⟩
  providers :=
    [⟨"Instances", ⟨21, 30⟩,
      [.method "vec_eq" ⟨31, 37⟩ [⟨"A", ⟨38, 39⟩⟩] [.con "Eq" [.var "A"]]
        (.con "Eq" [.con "Vec" [.var "A"]]),
       .field "int_eq" ⟨40, 46⟩ (.con "Eq" [.atom "i32"])]⟩]
  lowPriority := []

/-- Vectors of forests are compared with the instance under construction. -/
def forestsLocation : Location :=
  .method "Instances" "vec_eq" ⟨31, 37⟩ [("A", .atom "Forest")]
    [.generated "Eq" (.atom "Forest") []]

def numbersLocation : Location :=
  .method "Instances" "vec_eq" ⟨31, 37⟩ [("A", .atom "i32")]
    [.field "Instances" "int_eq" ⟨40, 46⟩]

def forestFound : List (List (Field × FoundInstance)) :=
  [[(belowField, ⟨forestsLocation, false⟩), (heightsField, ⟨numbersLocation, false⟩),
    (agesField, ⟨numbersLocation, false⟩)]]

/-- Both vectors of numbers have one local; the static stands in the function only. -/
theorem instance_made_apart_forest :
    forest.toDataType default = .ok forestRequest.data ∧
      forestRequest.className = StandardClass.equality.className ∧
      forestRequest.findings = .ok forestFound ∧
      (forestRequest.naming forestFound).ownName = "FOREST_EQ" ∧
      (forestRequest.naming forestFound).receivers =
        [[.call (.member "Instances" "vec_eq") [(Expr.ident "FOREST_EQ").clone],
          .ident "eq0", .ident "eq0"]] ∧
      (forestRequest.naming forestFound).locals =
        [("eq0", .call (.member "Instances" "vec_eq")
          [(Expr.member "Instances" "int_eq").clone])] ∧
      (∀ bound ∈ (forestRequest.naming forestFound).locals, bound.2.references = []) ∧
      ∃ unit, forestRequest.generate StandardClass.equality.generator = .ok unit ∧
        unit.statics ≠ [] ∧ forestRequest.MadeApart .equality forestFound unit := by
  have built : forest.toDataType default = .ok forestRequest.data := rfl
  have isClass : forestRequest.className = StandardClass.equality.className := rfl
  have finds : forestRequest.findings = .ok forestFound := rfl
  obtain ⟨unit, generated, holds⟩ :
      ∃ unit, forestRequest.generate StandardClass.equality.generator = .ok unit ∧
        unit.statics ≠ [] :=
    ⟨_, rfl, List.cons_ne_nil _ _⟩
  obtain ⟨-, closed, apart⟩ := instance_made_apart forestRequest forestFound
  exact ⟨built, isClass, finds, by decide, rfl, rfl, closed finds rfl, unit, generated, holds,
    apart forest default .equality unit built isClass finds generated⟩

end InstanceRequest

end DataDerive
