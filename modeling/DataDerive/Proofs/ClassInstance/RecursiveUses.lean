import DataDerive.Proofs.ClassInstance.Found

/-!
# Recursive uses of a generated instance

The function that holds a generated instance takes an instance for each pair of
a class and a type parameter that it needs.  Where it is used inside its own
body, at other types perhaps, an instance has to be passed for each of them.  The
search provides one for the derived class at every type argument; for any other
class the function can only pass along what it was given itself.
-/

namespace DataDerive

/-! ## What is passed -/

namespace InstanceNaming

variable {naming : InstanceNaming}

/-- The location that a recursive use passes for a parameter. -/
def supplied
    (naming : InstanceNaming)
    (dependencies : List Location)
    (parameter : String × String) : Location :=
  let made : Option Location :=
    if parameter.1 = naming.className then do
      dependencies[← naming.parameterIndex? parameter.2]?
    else
      none
  made.getD (.parameter parameter.1 parameter.2)

theorem ownedAll_eq_map (naming : InstanceNaming) (locations : List Location) :
    naming.ownedAll locations = locations.map naming.owned := by
  induction locations with
  | nil => rw [ownedAll, List.map_nil]
  | cons location rest ih => rw [ownedAll, ih, List.map_cons]

/-- What is passed is the value of the location that is supplied. -/
theorem passed_ownedAll
    (naming : InstanceNaming)
    (dependencies : List Location)
    (parameter : String × String) :
    naming.passed (naming.ownedAll dependencies) parameter =
      naming.owned (naming.supplied dependencies parameter) := by
  have own : naming.owned (.parameter parameter.1 parameter.2) =
      (Expr.ident (parameterName parameter)).clone := by
    rw [owned]
  rw [passed, supplied, ownedAll_eq_map]
  by_cases same : parameter.1 = naming.className
  · simp only [if_pos same]
    cases naming.parameterIndex? parameter.2 with
    | none => exact own.symm
    | some index =>
        change (dependencies.map naming.owned)[index]?.getD _ =
          naming.owned (dependencies[index]?.getD _)
        rw [List.getElem?_map]
        cases dependencies[index]? with
        | none => exact own.symm
        | some location => rfl
  · simp only [if_neg same]
    exact own.symm

/-- A recursive use calls the generated function with an instance for each parameter. -/
theorem owned_generated
    (parametric : naming.data.isParametric = true)
    (className : String)
    (type : TypeExpr)
    (dependencies : List Location) :
    naming.owned (.generated className type dependencies) =
      .call (.ident naming.functionName)
        (naming.parameters.map fun parameter =>
          naming.owned (naming.supplied dependencies parameter)) := by
  rw [owned, if_pos parametric]
  exact congrArg _ (List.map_congr_left fun parameter _ =>
    naming.passed_ownedAll dependencies parameter)

theorem supplied_of_other
    {parameter : String × String}
    (other : parameter.1 ≠ naming.className)
    (dependencies : List Location) :
    naming.supplied dependencies parameter = .parameter parameter.1 parameter.2 := by
  rw [supplied, if_neg other, Option.getD_none]

theorem exists_parameterIndex
    {name : String}
    (declared : name ∈ naming.data.typeParams) :
    ∃ index, naming.parameterIndex? name = some index ∧
      naming.data.typeParams[index]? = some name := by
  rcases Option.isSome_iff_exists.mp (List.isSome_idxOf?.mpr declared) with ⟨index, found⟩
  rcases List.idxOf?_eq_some_iff.mp found with ⟨inside, same, -⟩
  exact ⟨index, found, List.getElem?_eq_some_iff.mpr ⟨inside, same⟩⟩

theorem supplied_of_own
    {name : String}
    {index : Nat}
    (isIndex : naming.parameterIndex? name = some index)
    {dependencies : List Location}
    {location : Location}
    (found : dependencies[index]? = some location) :
    naming.supplied dependencies (naming.className, name) = location := by
  have made : (naming.parameterIndex? name >>= fun index => dependencies[index]?) =
      some location := by
    rw [isIndex]
    exact found
  rw [supplied, if_pos rfl, made, Option.getD_some]

/-! ## What cannot be passed -/

theorem changedArgument?_of_map
    (naming : InstanceNaming)
    {head : String}
    {argument : String → TypeExpr}
    {parameter : String × String}
    (declared : parameter.2 ∈ naming.data.typeParams) :
    naming.changedArgument? (.con head (naming.data.typeParams.map argument)) parameter =
      if argument parameter.2 = .var parameter.2 then none else some (argument parameter.2) := by
  rcases exists_parameterIndex declared with ⟨index, isIndex, found⟩
  have there : (naming.data.typeParams.map argument)[index]? = some (argument parameter.2) := by
    rw [List.getElem?_map, found, Option.map_some]
  change (naming.parameterIndex? parameter.2 >>= fun index =>
    (naming.data.typeParams.map argument)[index]? >>= fun type =>
      if type = .var parameter.2 then none else some type) = _
  rw [isIndex]
  change ((naming.data.typeParams.map argument)[index]? >>= _) = _
  rw [there]
  rfl

theorem unpassable?_eq_none_iff :
    naming.unpassable? = none ↔
      ∀ type ∈ instantiationsAll naming.locations.flatten, type ≠ naming.data.selfType →
        ∀ parameter ∈ naming.parameters, parameter.1 ≠ naming.className →
          naming.changedArgument? type parameter = none := by
  simp [unpassable?, List.findSome?_eq_none_iff]

end InstanceNaming

/-! ## Uses in found locations -/

namespace InstanceRequest

variable {request : InstanceRequest} {found : List (List (Field × FoundInstance))}

/-- What a recursive use is: the derived class at the data type, with its type arguments. -/
structure IsUse
    (request : InstanceRequest)
    (field : Field)
    (className : String)
    (type : TypeExpr)
    (dependencies : List Location)
    (argument : String → TypeExpr) : Prop where
  className_eq : className = request.className
  type_eq : type = .con request.data.name (request.data.typeParams.map argument)
  length_eq : dependencies.length = request.data.typeParams.length
  derives : ∀ (index : Nat) name location, request.data.typeParams[index]? = some name →
    dependencies[index]? = some location →
      ∃ tiers, Derives (request.context field) Signature.Unrestricted
        ⟨request.className, argument name⟩ location tiers

/-- Every use that occurs in a found location is a use of the derived class. -/
theorem exists_isUse
    (finds : request.findings = .ok found)
    {row : List (Field × FoundInstance)}
    {entry : Field × FoundInstance}
    (listed : row ∈ found)
    (among : entry ∈ row)
    {className : String}
    {type : TypeExpr}
    {dependencies : List Location}
    (occurs : (Location.generated className type dependencies).OccursIn entry.2.location) :
    ∃ argument, request.IsUse entry.1 className type dependencies argument := by
  rcases matched_of_findings finds listed among ⟨className, dependencies, occurs⟩ with
    ⟨bindings, success⟩
  rcases derives_of_findings finds listed among occurs with ⟨goal, tiers, derives⟩
  cases derives with
  | @generated arguments _ _ parts =>
      have same : arguments = request.data.typeParams.map fun name =>
          bindings.resolve (.var name) :=
        @SearchContext.arguments_of_matchType? (request.context entry.1) _ _ success
      subst same
      refine ⟨fun name => bindings.resolve (.var name), rfl, rfl, ?_, ?_⟩
      · rw [parts.length_eq, List.length_map, List.length_map]
      · intro index name location isName isLocation
        rcases parts.exists_derives isLocation with ⟨inner, own, isGoal, first⟩
        rw [List.getElem?_map, List.getElem?_map, isName] at isGoal
        cases isGoal
        exact ⟨own, first⟩

/-! ## Passing instances along -/

/--
A recursive use would have to pass an instance of another class at a type that
is not the type variable of the parameter.
-/
def NeedsOther
    (request : InstanceRequest)
    (found : List (List (Field × FoundInstance))) : Prop :=
  ∃ row ∈ found, ∃ entry ∈ row, ∃ className arguments dependencies,
    (Location.generated className (.con request.data.name arguments) dependencies).OccursIn
        entry.2.location ∧
      ∃ parameter ∈ (request.naming found).parameters, parameter.1 ≠ request.className ∧
        ∃ (index : Nat) (argument : TypeExpr),
          request.data.typeParams[index]? = some parameter.2 ∧
            arguments[index]? = some argument ∧ argument ≠ .var parameter.2

theorem mem_instantiationsAll
    (request : InstanceRequest)
    {found : List (List (Field × FoundInstance))}
    {type : TypeExpr} :
    type ∈ InstanceNaming.instantiationsAll (request.naming found).locations.flatten ↔
      ∃ row ∈ found, ∃ entry ∈ row, InstanceNaming.UsedAt type entry.2.location := by
  rw [InstanceNaming.instantiationsAll_eq_flatMap, List.mem_flatMap]
  simp only [mem_locations, InstanceNaming.mem_instantiations]
  constructor
  · rintro ⟨_, ⟨row, listed, entry, among, rfl⟩, inside⟩
    exact ⟨row, listed, entry, among, inside⟩
  · rintro ⟨row, listed, entry, among, inside⟩
    exact ⟨_, ⟨row, listed, entry, among, rfl⟩, inside⟩

/-- A use leaves a type parameter alone if it is at the data type itself, or by its arguments. -/
theorem IsUse.unchanged_iff
    {field : Field}
    {className : String}
    {type : TypeExpr}
    {dependencies : List Location}
    {argument : String → TypeExpr}
    (use : request.IsUse field className type dependencies argument)
    {parameter : String × String}
    (declared : parameter.2 ∈ request.data.typeParams) :
    (type ≠ request.data.selfType →
        (request.naming found).changedArgument? type parameter = none) ↔
      argument parameter.2 = .var parameter.2 := by
  have changed : (request.naming found).changedArgument?
      (.con request.data.name (request.data.typeParams.map argument)) parameter =
        if argument parameter.2 = .var parameter.2 then none
        else some (argument parameter.2) :=
    (request.naming found).changedArgument?_of_map declared
  rw [use.type_eq, changed]
  constructor
  · intro passable
    by_contra differs
    rw [if_neg differs] at passable
    refine Option.some_ne_none _ (passable fun same => differs ?_)
    exact List.map_inj_left.mp (TypeExpr.con.inj same).2 parameter.2 declared
  · intro same _
    rw [if_pos same]

theorem needsOther_of_changed
    (finds : request.findings = .ok found)
    {row : List (Field × FoundInstance)}
    {entry : Field × FoundInstance}
    (listed : row ∈ found)
    (among : entry ∈ row)
    {className : String}
    {type : TypeExpr}
    {dependencies : List Location}
    (occurs : (Location.generated className type dependencies).OccursIn entry.2.location)
    {argument : String → TypeExpr}
    (use : request.IsUse entry.1 className type dependencies argument)
    {parameter : String × String}
    (needed : parameter ∈ (request.naming found).parameters)
    (other : parameter.1 ≠ request.className)
    (changed : argument parameter.2 ≠ .var parameter.2) :
    request.NeedsOther found := by
  rcases List.mem_iff_getElem?.mp (declared_of_findings finds needed) with ⟨index, isName⟩
  rw [use.type_eq] at occurs
  refine ⟨row, listed, entry, among, className, _, dependencies, occurs, parameter, needed,
    other, index, argument parameter.2, isName, ?_, changed⟩
  rw [List.getElem?_map, isName, Option.map_some]

/-- Recursive uses can be given all that they need unless one needs another class. -/
theorem unpassable?_eq_none_iff_not_needsOther (finds : request.findings = .ok found) :
    (request.naming found).unpassable? = none ↔ ¬ request.NeedsOther found := by
  rw [InstanceNaming.unpassable?_eq_none_iff]
  constructor
  · rintro passable ⟨row, listed, entry, among, className, arguments, dependencies, occurs,
      parameter, needed, other, index, argument, isName, isArgument, changed⟩
    rcases exists_isUse finds listed among occurs with ⟨choice, use⟩
    have isUsed := (mem_instantiationsAll request).mpr
      ⟨row, listed, entry, among, className, dependencies, occurs⟩
    have same := (use.unchanged_iff (declared_of_findings finds needed)).mp fun differs =>
      passable _ isUsed differs parameter needed other
    rw [(TypeExpr.con.inj use.type_eq).2, List.getElem?_map, isName] at isArgument
    cases isArgument
    exact changed same
  · intro passable type isUsed differs parameter needed other
    rcases (mem_instantiationsAll request).mp isUsed with
      ⟨row, listed, entry, among, className, dependencies, occurs⟩
    rcases exists_isUse finds listed among occurs with ⟨choice, use⟩
    refine (use.unchanged_iff (declared_of_findings finds needed)).mpr ?_ differs
    by_contra changed
    exact passable (needsOther_of_changed finds listed among occurs use needed other changed)

theorem checkPassable_eq_ok_iff (finds : request.findings = .ok found) :
    request.checkPassable (request.naming found) = .ok () ↔ ¬ request.NeedsOther found := by
  rw [← unpassable?_eq_none_iff_not_needsOther finds, checkPassable]
  cases (request.naming found).unpassable? with
  | none => exact iff_of_true rfl rfl
  | some need => exact iff_of_false nofun nofun

theorem generate_of_findings
    (finds : request.findings = .ok found)
    (generator : InstanceGenerator) :
    request.generate generator =
      request.checkPassable (request.naming found) >>= fun _ =>
        .ok (request.unitOf generator found) := by
  rw [generate_eq, finds]
  rfl

theorem exists_error_of_needsOther
    (finds : request.findings = .ok found)
    (generator : InstanceGenerator)
    (needs : request.NeedsOther found) :
    ∃ message, request.generate generator = .error message ∧ message.code = .noInstance := by
  have refused : (request.naming found).unpassable? ≠ none := fun passable =>
    (unpassable?_eq_none_iff_not_needsOther finds).mp passable needs
  rcases Option.ne_none_iff_exists'.mp refused with ⟨need, isNeed⟩
  rw [generate_of_findings finds, checkPassable, isNeed]
  exact ⟨_, rfl, rfl⟩

/-- A needed parameter is one of the generated function. -/
theorem exists_slot_of_needed
    (finds : request.findings = .ok found)
    (generator : InstanceGenerator)
    {parameter : String × String}
    (needed : parameter ∈ (request.naming found).parameters) :
    ∃ item ∈ (request.unitOf generator found).functions,
      item.name = (request.naming found).functionName ∧ slot parameter ∈ item.parameters := by
  have declared := declared_of_findings finds needed
  have parametric : request.data.isParametric = true := by
    rw [DataType.isParametric, Bool.not_eq_true', List.isEmpty_eq_false_iff]
    exact List.ne_nil_of_mem declared
  have functions : (request.unitOf generator found).functions =
      (request.item (request.naming found) (Body.classValue (request.naming found).locals
        (generator.value request.data (request.naming found).receivers))).functions := rfl
  rw [functions, item, if_pos parametric]
  exact ⟨_, List.mem_singleton_self _, rfl, List.mem_map_of_mem needed⟩

/--
A recursive use calls the generated function at some type arguments, with an
instance for each of its parameters: one that was made for the argument of the
parameter's type variable, or the parameter itself where the argument is that
variable.
-/
structure PassesRightly
    (request : InstanceRequest)
    (found : List (List (Field × FoundInstance)))
    (field : Field)
    (className : String)
    (arguments : List TypeExpr)
    (dependencies : List Location) : Prop where
  className_eq : className = request.className
  length_eq : arguments.length = request.data.typeParams.length
  call : request.data.isParametric = true →
    (request.naming found).owned
        (.generated className (.con request.data.name arguments) dependencies) =
      .call (.ident (request.naming found).functionName)
        ((request.naming found).parameters.map fun parameter =>
          (request.naming found).owned ((request.naming found).supplied dependencies parameter))
  supplies : ∀ parameter ∈ (request.naming found).parameters,
    ∀ (index : Nat) argument, request.data.typeParams[index]? = some parameter.2 →
      arguments[index]? = some argument →
        ((request.naming found).supplied dependencies parameter ∈ dependencies ∧
          ∃ tiers, Derives (request.context field) Signature.Unrestricted
            ⟨parameter.1, argument⟩
            ((request.naming found).supplied dependencies parameter) tiers) ∨
        ((request.naming found).supplied dependencies parameter =
            .parameter parameter.1 parameter.2 ∧
          argument = .var parameter.2)

theorem IsUse.passesRightly
    {field : Field}
    {className : String}
    {type : TypeExpr}
    {dependencies : List Location}
    {argument : String → TypeExpr}
    (use : request.IsUse field className type dependencies argument)
    (declared : ∀ parameter ∈ (request.naming found).parameters,
      parameter.2 ∈ request.data.typeParams)
    (unchanged : ∀ parameter ∈ (request.naming found).parameters,
      parameter.1 ≠ request.className → argument parameter.2 = .var parameter.2) :
    request.PassesRightly found field className
      (request.data.typeParams.map argument) dependencies := by
  refine ⟨use.className_eq, List.length_map _, ?_, ?_⟩
  · exact fun parametric =>
      (request.naming found).owned_generated parametric className _ dependencies
  · intro parameter needed index type isName isType
    rw [List.getElem?_map, isName] at isType
    cases isType
    by_cases own : parameter.1 = request.className
    · left
      rcases parameter with ⟨parameterClass, name⟩
      cases own
      rcases (request.naming found).exists_parameterIndex (declared _ needed) with
        ⟨first, isIndex, isFirst⟩
      have inside : first < dependencies.length := by
        rw [use.length_eq]
        exact (List.getElem?_eq_some_iff.mp isFirst).1
      have isLocation := List.getElem?_eq_getElem inside
      have supplied : (request.naming found).supplied dependencies (request.className, name) =
          dependencies[first] :=
        InstanceNaming.supplied_of_own isIndex isLocation
      rw [supplied]
      exact ⟨List.getElem_mem inside, use.derives first name _ isFirst isLocation⟩
    · exact Or.inr ⟨InstanceNaming.supplied_of_other own dependencies, unchanged _ needed own⟩

/--
In a generated instance every parameter that is needed is one of the generated
function, and every recursive use passes the right instance for each of them.  If
some use would need an instance that cannot be passed, there is no generated
instance but the message that an instance is missing.
-/
theorem generate_passesRightly (request : InstanceRequest) (generator : InstanceGenerator) :
    (∀ unit, request.generate generator = .ok unit →
      ∃ found, request.findings = .ok found ∧ unit = request.unitOf generator found ∧
        ∀ row ∈ found, ∀ entry ∈ row,
          (∀ className name,
            (Location.parameter className name).OccursIn entry.2.location →
              (className, name) ∈ (request.naming found).parameters ∧
                ∃ item ∈ unit.functions, item.name = (request.naming found).functionName ∧
                  slot (className, name) ∈ item.parameters) ∧
          ∀ className type dependencies,
            (Location.generated className type dependencies).OccursIn entry.2.location →
              ∃ arguments, type = .con request.data.name arguments ∧
                request.PassesRightly found entry.1 className arguments dependencies) ∧
      ∀ found, request.findings = .ok found →
        ((∃ unit, request.generate generator = .ok unit) ↔ ¬ request.NeedsOther found) ∧
        (request.NeedsOther found →
          ∃ message, request.generate generator = .error message ∧
            message.code = .noInstance) := by
  constructor
  · intro unit success
    rcases generate_eq_ok_iff.mp success with ⟨found, finds, passable, rfl⟩
    refine ⟨found, finds, rfl, fun row listed entry among => ⟨?_, ?_⟩⟩
    · intro className name occurs
      have needed : (className, name) ∈ (request.naming found).parameters :=
        mem_parameters.mpr ⟨row, listed, entry, among, occurs⟩
      exact ⟨needed, exists_slot_of_needed finds generator needed⟩
    · intro className type dependencies occurs
      rcases exists_isUse finds listed among occurs with ⟨argument, use⟩
      refine ⟨_, use.type_eq, use.passesRightly ?_ fun parameter needed other => ?_⟩
      · exact fun _ needed => declared_of_findings finds needed
      · by_contra changed
        exact (checkPassable_eq_ok_iff finds).mp passable
          (needsOther_of_changed finds listed among occurs use needed other changed)
  · intro found finds
    refine ⟨?_, exists_error_of_needsOther finds generator⟩
    rw [generate_of_findings finds, ← checkPassable_eq_ok_iff finds]
    simp only [Derived.check_bind_eq_ok_iff, exists_and_left, Except.ok.injEq, exists_eq',
      and_true]

def keyField : Field := ⟨"key", ⟨10, 13⟩, .var "K"⟩

def boxField : Field := ⟨"box", ⟨14, 17⟩, .con "Box" [.var "V"]⟩

/-- A field that holds a table with other type arguments. -/
def restField (keys values : TypeExpr) : Field :=
  ⟨"rest", ⟨20, 24⟩, .con "Table" [keys, values]⟩

/-- Tables of which some hold a table of another type. -/
def table (keys values : TypeExpr) : DataType where
  name := "Table"
  span := ⟨1, 6⟩
  typeParams := ["K", "V"]
  constructors :=
    [{ name := "Row"
       span := ⟨7, 10⟩
       index := 0
       arguments := [keyField, boxField]
       restrictions := []
       existentials := []
       typeParams := ["K", "V"] },
     { name := "Nested"
       span := ⟨18, 19⟩
       index := 1
       arguments := [restField keys values]
       restrictions := []
       existentials := []
       typeParams := ["K", "V"] }]
  matcher := "match"
  resultVar := "R"
  encoding := .lambdas

/-- Lists are compared by their items, and boxes by what they show. -/
def tableInstances : Provider :=
  ⟨"Instances", ⟨31, 40⟩,
    [.method "list_eq" ⟨41, 48⟩ [⟨"A", ⟨49, 50⟩⟩] [.con "Eq" [.var "A"]]
      (.con "Eq" [.con "List" [.var "A"]]),
     .method "box_eq" ⟨51, 57⟩ [⟨"A", ⟨58, 59⟩⟩] [.con "Show" [.var "A"]]
      (.con "Eq" [.con "Box" [.var "A"]]),
     .field "int_eq" ⟨61, 67⟩ (.con "Eq" [.atom "i32"])]⟩

def tableRequest (keys values : TypeExpr) : InstanceRequest where
  data := table keys values
  className := "Eq"
  around := ⟨0, 1⟩
  span := ⟨0, 1⟩
  providers := [tableInstances]
  lowPriority := []

/-- Keys of a nested table. -/
def numbers : TypeExpr :=
  .con "List" [.atom "i32"]

/-- What a use at lists of numbers as keys depends on. -/
def nestedDependencies : List Location :=
  [.method "Instances" "list_eq" ⟨41, 48⟩ [("A", .atom "i32")]
      [.field "Instances" "int_eq" ⟨61, 67⟩],
    .parameter "Eq" "V"]

def tableFound : List (List (Field × FoundInstance)) :=
  [[(keyField, ⟨.parameter "Eq" "K", false⟩),
    (boxField, ⟨.method "Instances" "box_eq" ⟨51, 57⟩ [("A", .var "V")]
      [.parameter "Show" "V"], false⟩)],
   [(restField numbers (.var "V"),
      ⟨.generated "Eq" (.con "Table" [numbers, .var "V"]) nestedDependencies, false⟩)]]

/-- The nested use passes an instance for its own keys, and `Show` of the values along. -/
theorem generate_passesRightly_table :
    (tableRequest numbers (.var "V")).findings = .ok tableFound ∧
      ((tableRequest numbers (.var "V")).naming tableFound).parameters =
        [("Eq", "K"), ("Show", "V"), ("Eq", "V")] ∧
      (tableRequest numbers (.var "V")).PassesRightly tableFound
        (restField numbers (.var "V")) "Eq" [numbers, .var "V"] nestedDependencies := by
  have finds : (tableRequest numbers (.var "V")).findings = .ok tableFound := rfl
  have success : (tableRequest numbers (.var "V")).generate .equality =
      .ok ((tableRequest numbers (.var "V")).unitOf .equality tableFound) := rfl
  refine ⟨finds, rfl, ?_⟩
  rcases (generate_passesRightly _ .equality).1 _ success with ⟨found, isFound, -, right⟩
  cases Except.ok.inj (isFound.symm.trans finds)
  rcases (right _ (List.mem_cons_of_mem _ List.mem_cons_self) _ List.mem_cons_self).2 _ _ _ .here
    with ⟨arguments, same, passes⟩
  cases same
  exact passes

/-- Where the values change their type, `Show` would be needed at the new one. -/
example :
    Derived.coded ((tableRequest (.var "K") numbers).generate .equality) =
      .error .noInstance :=
  rfl

end InstanceRequest

end DataDerive
