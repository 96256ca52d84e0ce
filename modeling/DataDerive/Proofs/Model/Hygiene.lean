import DataDerive.Proofs.Model.Renaming

/-!
# Names of a case's own type parameters

A method of a visitor interface may have type parameters of its own.  Only their
names are compared with the names of other type variables, so a name that is
shared can be mistaken.  There are three ways: the result variable of the matcher
is taken for the result of a method that returns its own variable; a type that is
put for a parameter of the interface mentions a variable that the method binds;
and a witness narrows a type parameter of the declaration where the method means
its own.

`Visit.Hygienic` excludes these three.  Then other names for the type parameters
of the method change nothing but the names in the model that is built.  A method
whose own names mean nothing outside of it is always hygienic.
-/

namespace DataDerive

open Derived TypeExpr

/-! ## Renaming in a snapshot -/

namespace Method

/-- The names of the type parameters of a method. -/
def ownNames (method : Method) : List String :=
  method.typeParams.map Named.name

def types (method : Method) : List TypeExpr :=
  method.result :: method.parameters.map Parameter.type

/-- Rename the type parameters of a method. -/
def renameOwn (rename : String → String) (method : Method) : Method :=
  { method with
    typeParams := method.typeParams.map fun item => { item with name := rename item.name }
    parameters := method.parameters.map fun parameter =>
      { parameter with type := parameter.type.renameOwn method.ownNames rename }
    result := method.result.renameOwn method.ownNames rename }

theorem ownNames_renameOwn (rename : String → String) (method : Method) :
    (method.renameOwn rename).ownNames = method.ownNames.map rename := by
  rw [renameOwn, ownNames, ownNames, List.map_map, List.map_map]
  rfl

end Method

/-- Rename the type parameters of the method at a position. -/
def Interface.renameCase
    (position : Nat)
    (rename : String → String)
    (interface : Interface) : Interface :=
  { interface with methods := interface.methods.modify position (Method.renameOwn rename) }

/-- Rename the type parameters of the method at a position of the first interface with a name. -/
def Snapshot.renameCase
    (name : String)
    (position : Nat)
    (rename : String → String)
    (snapshot : Snapshot) : Snapshot :=
  { snapshot with
    interfaces := snapshot.interfaces.modify
      (snapshot.interfaces.findIdx fun interface => interface.name == name)
      (Interface.renameCase position rename) }

theorem Snapshot.interface?_renameCase
    (snapshot : Snapshot)
    (name : String)
    (position : Nat)
    (rename : String → String) :
    (snapshot.renameCase name position rename).interface? name =
      (snapshot.interface? name).map (Interface.renameCase position rename) :=
  find?_modify_findIdx fun _ named => named

/-! ## The case of a method -/

theorem TypeExpr.substitute_renameOwn
    {instantiation : Substitution}
    {own : List String}
    {rename : String → String}
    {type : TypeExpr}
    (unused : ∀ old ∈ own, rename old ∉ type.freeVars)
    (uncaptured : ∀ name ∈ type.freeVars, name ∉ own →
      ∀ inside ∈ own, inside ∉ (instantiation.substitute (.var name)).freeVars) :
    (instantiation.without (own.map rename)).substitute (type.renameOwn own rename) =
      ((instantiation.without own).substitute type).renameOwn own rename := by
  rw [Substitution.substitute_eq_replace, Substitution.substitute_eq_replace _ type, renameOwn,
    renameOwn, replace_replace, replace_replace]
  refine replace_congr fun name occurs => ?_
  rw [replace_var, Substitution.substitute_var_without, Substitution.substitute_var_without]
  by_cases listed : name ∈ own
  · rw [if_pos listed, if_pos listed, if_pos (List.mem_map_of_mem listed), replace_var,
      if_pos listed]
  · have kept := not_mem_map_of_mem_freeVars unused (mem_freeVars.mpr occurs)
    rw [if_neg listed, if_neg listed, if_neg kept]
    exact (renameOwn_of_apart (uncaptured name (mem_freeVars.mpr occurs) listed)).symm

namespace Method

variable {instantiation : Substitution} {method : Method} {rename : String → String}

/-- What a method returns under an instantiation of the interface. -/
def returned (instantiation : Substitution) (method : Method) : TypeExpr :=
  (instantiation.without method.ownNames).substitute method.result

/-- The case of a method under an instantiation of the interface. -/
def toCase (instantiation : Substitution) (method : Method) : Case where
  name := method.name
  span := method.span
  fields := method.parameters.map fun parameter =>
    ⟨parameter.name, parameter.span,
      (instantiation.without method.ownNames).substitute parameter.type⟩
  existentials := method.ownNames

theorem mem_types_of_mem_parameters
    {parameter : Parameter}
    (listed : parameter ∈ method.parameters) :
    parameter.type ∈ method.types :=
  List.mem_cons_of_mem _ (List.mem_map_of_mem listed)

theorem returned_renameOwn
    {resultVar : String}
    (result : method.result = .var resultVar → resultVar ∉ method.ownNames)
    (unreturned : ∀ own ∈ method.ownNames, rename own ≠ resultVar)
    (unused : ∀ own ∈ method.ownNames, rename own ∉ method.result.freeVars) :
    ((method.renameOwn rename).returned instantiation).asVar? = some resultVar ↔
      (method.returned instantiation).asVar? = some resultVar := by
  rw [returned, returned, ownNames_renameOwn]
  change ((instantiation.without (method.ownNames.map rename)).substitute
    (method.result.renameOwn method.ownNames rename)).asVar? = _ ↔ _
  -- Only a bare variable can turn into the result variable.
  cases shape : method.result with
  | var name =>
      rw [shape] at result unused
      rw [TypeExpr.renameOwn, replace_var, Substitution.substitute_var_without,
        Substitution.substitute_var_without]
      by_cases listed : name ∈ method.ownNames
      · rw [if_pos listed, if_pos listed, if_pos (List.mem_map_of_mem listed)]
        refine iff_of_false (fun same => ?_) (fun same => ?_)
        · exact unreturned name listed (Option.some.inj same)
        · cases same
          exact result rfl listed
      · have kept : name ∉ method.ownNames.map rename :=
          not_mem_map_of_mem_freeVars unused (by simp)
        rw [if_neg listed, if_neg listed, if_neg kept]
  | con => simp [TypeExpr.renameOwn, Substitution.substitute, asVar?]
  | arrow => simp [TypeExpr.renameOwn, Substitution.substitute, asVar?]

theorem toCase_renameOwn
    (uncaptured : ∀ parameter ∈ method.parameters, ∀ name ∈ parameter.type.freeVars,
      name ∉ method.ownNames → ∀ inside ∈ method.ownNames,
        inside ∉ (instantiation.substitute (.var name)).freeVars)
    (unused : ∀ own ∈ method.ownNames, ∀ type ∈ method.types, rename own ∉ type.freeVars) :
    (method.renameOwn rename).toCase instantiation =
      (method.toCase instantiation).renameOwn rename := by
  rw [toCase, ownNames_renameOwn, toCase, Case.renameOwn, List.map_map, Case.mk.injEq]
  refine ⟨rfl, rfl, ?_, rfl⟩
  rw [renameOwn, List.map_map]
  refine List.map_congr_left fun parameter listed => ?_
  have type := substitute_renameOwn
    (fun own member => unused own member _ (mem_types_of_mem_parameters listed))
    (uncaptured parameter listed)
  exact congrArg (Field.mk parameter.name parameter.span) type

end Method

namespace Declaration

theorem coded_visitorCase
    (declaration : Declaration)
    (resultVar : String)
    (instantiation : Substitution)
    (method : Method) :
    coded (declaration.visitorCase resultVar instantiation method) =
      if (method.returned instantiation).asVar? = some resultVar then
        .ok (method.toCase instantiation)
      else
        .error .caseNotFunction := by
  change coded (if (method.returned instantiation).asVar? = some resultVar then _ else _) = _
  split_ifs <;> rfl

variable {declaration : Declaration} {snapshot : Snapshot}

theorem eq_toCase_of_visitorCase
    {resultVar : String}
    {instantiation : Substitution}
    {method : Method}
    {case : Case}
    (read : declaration.visitorCase resultVar instantiation method = .ok case) :
    case = method.toCase instantiation := by
  rw [← coded_eq_ok_iff, coded_visitorCase] at read
  split_ifs at read
  exact (Except.ok.inj read).symm

/-! ## Visitors -/

/-- A matcher that lists its cases as the methods of an interface that is in scope. -/
structure Visit (declaration : Declaration) (snapshot : Snapshot) where
  matcher : Method
  resultVar : String
  parameter : Parameter
  interfaceName : String
  arguments : List TypeExpr
  interface : Interface
  isMatcher : declaration.matcher = .ok matcher
  isResultVar : declaration.resultVar matcher = .ok resultVar
  visits : visitorParameter? matcher resultVar = some (parameter, interfaceName, arguments)
  inScope : snapshot.interface? interfaceName = some interface

namespace Visit

variable (visit : Visit declaration snapshot)

def instantiation : Substitution :=
  .ofPairs ((visit.interface.typeParams.map Named.name).zip visit.arguments)

/-- The type variables that mean something outside of the methods of the interface. -/
def outerNames : List String :=
  declaration.parameterNames ++ visit.resultVar :: visit.arguments.flatMap freeVars

/--
No type parameter of a method is mistaken for another type variable of the same
name: the method does not bind the result variable and return it, it binds no
variable of a type that is put for a parameter of the interface, and no witness
of its case narrows a type parameter that it binds.
-/
structure Hygienic (method : Method) : Prop where
  result : method.result = .var visit.resultVar → visit.resultVar ∉ method.ownNames
  uncaptured : ∀ parameter ∈ method.parameters, ∀ name ∈ parameter.type.freeVars,
    name ∉ method.ownNames → ∀ inside ∈ method.ownNames,
      inside ∉ (visit.instantiation.substitute (.var name)).freeVars
  unnarrowed : ∀ case,
    declaration.visitorCase visit.resultVar visit.instantiation method = .ok case →
      declaration.NarrowsNoOwn case

/-- The new names of the type parameters of a method are not taken. -/
def Fresh (method : Method) (rename : String → String) : Prop :=
  ∀ own ∈ method.ownNames,
    rename own ∉ visit.outerNames ∧ ∀ type ∈ method.types, rename own ∉ type.freeVars

variable {visit} {method : Method} {rename : String → String}

/-- A variable of a type that is put for a variable is that one or means something outside. -/
theorem mem_outerNames_of_substitute
    {name inside : String}
    (occurs : inside ∈ (visit.instantiation.substitute (.var name)).freeVars) :
    inside = name ∨ inside ∈ visit.outerNames := by
  rw [Substitution.substitute, replace_var] at occurs
  cases found : visit.instantiation.get? name with
  | none =>
      rw [found, Option.getD_none] at occurs
      exact Or.inl (by simpa using occurs)
  | some target =>
      rw [found, Option.getD_some] at occurs
      have pair := Substitution.mem_of_get?_ofPairs found
      have listed := (List.of_mem_zip pair).2
      refine Or.inr (List.mem_append_right _ (List.mem_cons_of_mem _ ?_))
      exact List.mem_flatMap.mpr ⟨target, listed, occurs⟩

theorem Fresh.renamesFresh (fresh : visit.Fresh method rename) :
    declaration.RenamesFresh (method.toCase visit.instantiation) rename := by
  constructor
  case undeclared =>
    intro own listed declared
    exact (fresh own listed).1 (List.mem_append_left _ declared)
  case unused =>
    intro own listed field among occurs
    rcases List.mem_map.mp among with ⟨parameter, member, rfl⟩
    have unused := (fresh own listed).2 _ (Method.mem_types_of_mem_parameters member)
    rw [Substitution.substitute_eq_replace, mem_freeVars] at occurs
    rcases mem_variableOccurrences_replace.mp occurs with ⟨name, inside, target⟩
    have differs : rename own ≠ name := by
      rintro rfl
      exact unused (mem_freeVars.mpr inside)
    rw [Substitution.substitute_var_without] at target
    split_ifs at target
    · exact differs (by simpa using target)
    · rcases mem_outerNames_of_substitute (mem_freeVars.mpr target) with same | taken
      · exact differs same
      · exact (fresh own listed).1 taken

theorem coded_visitorCase_renameOwn
    (hygienic : visit.Hygienic method)
    (fresh : visit.Fresh method rename) :
    coded (declaration.visitorCase visit.resultVar visit.instantiation (method.renameOwn rename)) =
      (coded (declaration.visitorCase visit.resultVar visit.instantiation method)).map
        (Case.renameOwn rename) := by
  have unused : ∀ own ∈ method.ownNames, ∀ type ∈ method.types, rename own ∉ type.freeVars :=
    fun own listed => (fresh own listed).2
  have unreturned : ∀ own ∈ method.ownNames, rename own ≠ visit.resultVar := by
    intro own listed same
    exact (fresh own listed).1 (List.mem_append_right _ (same ▸ List.mem_cons_self))
  rw [coded_visitorCase, coded_visitorCase, Method.toCase_renameOwn hygienic.uncaptured unused]
  simp only [Method.returned_renameOwn hygienic.result unreturned
    fun own listed => unused own listed _ List.mem_cons_self]
  split_ifs <;> rfl

/-! ## Models -/

theorem toDataType_eq (visit : Visit declaration snapshot) :
    declaration.toDataType snapshot =
      declaration.visitorCases visit.resultVar visit.parameter visit.interface visit.arguments >>=
        declaration.assemble visit.matcher visit.resultVar
          (.visitor visit.interfaceName visit.parameter.name) := by
  rw [Declaration.toDataType_eq, visit.isMatcher]
  change (declaration.resultVar visit.matcher >>= _) = _
  rw [visit.isResultVar]
  change (declaration.readCases snapshot visit.matcher visit.resultVar >>= _) = _
  rw [readCases, visit.visits]
  simp only [visit.inScope]
  cases declaration.visitorCases visit.resultVar visit.parameter visit.interface
    visit.arguments with
  | error message => rfl
  | ok cases => rfl

/-- The same matcher with a method of its interface renamed. -/
def renameCase (visit : Visit declaration snapshot) (position : Nat) (rename : String → String) :
    Visit declaration (snapshot.renameCase visit.interfaceName position rename) :=
  { visit with
    interface := visit.interface.renameCase position rename
    inScope := by rw [Snapshot.interface?_renameCase, visit.inScope, Option.map_some] }

theorem exists_case_of_visitorCases
    {position : Nat}
    {cases : List Case}
    (listed : visit.interface.methods[position]? = some method)
    (isCase : method.isAbstract = true)
    (reads : declaration.visitorCases visit.resultVar visit.parameter visit.interface
      visit.arguments = .ok cases) :
    ∃ case, cases[(visit.interface.methods.take position).countP Method.isAbstract]? = some case ∧
      declaration.visitorCase visit.resultVar visit.instantiation method = .ok case := by
  rw [visitorCases] at reads
  split at reads
  next => exact exists_getElem?_of_mapM reads (getElem?_filter_of_getElem? listed isCase)
  next => cases reads

theorem coded_visitorCases_renameCase
    {position : Nat}
    (listed : visit.interface.methods[position]? = some method)
    (isCase : method.isAbstract = true)
    (hygienic : visit.Hygienic method)
    (fresh : visit.Fresh method rename) :
    coded (declaration.visitorCases visit.resultVar visit.parameter
        (visit.interface.renameCase position rename) visit.arguments) =
      (coded (declaration.visitorCases visit.resultVar visit.parameter
        visit.interface visit.arguments)).map fun cases =>
          cases.modify ((visit.interface.methods.take position).countP Method.isAbstract)
            (Case.renameOwn rename) := by
  have cases : (visit.interface.renameCase position rename).methods.filter Method.isAbstract =
      (visit.interface.methods.filter Method.isAbstract).modify
        ((visit.interface.methods.take position).countP Method.isAbstract)
          (Method.renameOwn rename) :=
    filter_modify listed isCase isCase
  rw [visitorCases, visitorCases]
  dsimp only
  change coded (if visit.interface.typeParams.length = visit.arguments.length then _ else _) = _
  split
  next =>
    rw [cases]
    exact coded_mapM_modify (getElem?_filter_of_getElem? listed isCase)
      (coded_visitorCase_renameOwn hygienic fresh)
  next => rfl

/--
Other names for the type parameters of a method change the model only by these
names, and a failure not at all but for its text, if the method is hygienic and
the new names are not taken.
-/
theorem toDataType_renameCase
    {position : Nat}
    (listed : visit.interface.methods[position]? = some method)
    (isCase : method.isAbstract = true)
    (hygienic : visit.Hygienic method)
    (fresh : visit.Fresh method rename) :
    coded (declaration.toDataType (snapshot.renameCase visit.interfaceName position rename)) =
      (coded (declaration.toDataType snapshot)).map
        (DataType.renameCase
          ((visit.interface.methods.take position).countP Method.isAbstract) rename) := by
  -- Reading the cases fails alike, or it gives cases that differ at one position.
  have read := coded_visitorCases_renameCase listed isCase hygienic fresh
  rw [visit.toDataType_eq, (visit.renameCase position rename).toDataType_eq, coded_bind, coded_bind]
  change (coded (declaration.visitorCases visit.resultVar visit.parameter
    (visit.interface.renameCase position rename) visit.arguments) >>= _) = _
  rw [read]
  cases reads : declaration.visitorCases visit.resultVar visit.parameter visit.interface
    visit.arguments with
  | error message => rfl
  | ok cases =>
      rcases exists_case_of_visitorCases listed isCase reads with ⟨case, found, one⟩
      cases eq_toCase_of_visitorCase one
      exact coded_assemble_modify found fresh.renamesFresh (hygienic.unnarrowed _ one)

end Visit

/-- A matcher that is given its cases as one visitor. -/
def handlerMatcher : Method where
  name := "match"
  span := ⟨11, 16⟩
  typeParams := [⟨"R", ⟨11, 16⟩⟩]
  parameters := [⟨"cases", ⟨17, 22⟩, .con "HandlerCases" [.var "T", .var "R"], []⟩]
  result := .var "R"
  isAbstract := true

/-- Handlers of values, of which some parse them. -/
def handler : Declaration where
  name := "Handler"
  span := ⟨1, 8⟩
  typeParams := [⟨"T", ⟨9, 10⟩⟩]
  request := default
  methods := [handlerMatcher]
  statics := []

/-- A method with a type parameter of its own that has the name of the declared one. -/
def parseMethod (parameters : List Parameter) : Method where
  name := "Parse"
  span := ⟨61, 66⟩
  typeParams := [⟨"T", ⟨61, 66⟩⟩]
  parameters := parameters
  result := .var "X"
  isAbstract := true

/-- The cases of a handler, with the parameters of the method that parses. -/
def handlerCases (parameters : List Parameter) : Interface where
  name := "HandlerCases"
  span := ⟨31, 43⟩
  typeParams := [⟨"A", ⟨31, 43⟩⟩, ⟨"X", ⟨31, 43⟩⟩]
  methods :=
    [{ name := "Plain"
       span := ⟨51, 56⟩
       typeParams := []
       parameters := [⟨"value", ⟨57, 62⟩, .var "A", []⟩]
       result := .var "X"
       isAbstract := true },
     parseMethod parameters]

def handlerSnapshot (parameters : List Parameter) : Snapshot :=
  { (default : Snapshot) with interfaces := [handlerCases parameters] }

def handlerVisit (parameters : List Parameter) : Visit handler (handlerSnapshot parameters) where
  matcher := handlerMatcher
  resultVar := "R"
  parameter := ⟨"cases", ⟨17, 22⟩, .con "HandlerCases" [.var "T", .var "R"], []⟩
  interfaceName := "HandlerCases"
  arguments := [.var "T", .var "R"]
  interface := handlerCases parameters
  isMatcher := rfl
  isResultVar := rfl
  visits := by decide
  inScope := rfl

def parseParameter : Parameter :=
  ⟨"parse", ⟨67, 72⟩, .arrow [.atom "i32"] (.var "T"), []⟩

/-- The same function and a value of its result. -/
def sampledParameters : List Parameter :=
  [parseParameter, ⟨"sample", ⟨73, 79⟩, .var "T", []⟩]

/-- A second field mentions the name that is shared, so no witness narrows it. -/
theorem toDataType_renameCase_handler :
    (handler.toDataType (handlerSnapshot sampledParameters)).isOk = true ∧
      (handlerVisit sampledParameters).Hygienic (parseMethod sampledParameters) ∧
      (handlerVisit sampledParameters).Fresh (parseMethod sampledParameters) (fun _ => "Q") ∧
      coded (handler.toDataType
          ((handlerSnapshot sampledParameters).renameCase "HandlerCases" 1 fun _ => "Q")) =
        (coded (handler.toDataType (handlerSnapshot sampledParameters))).map
          (DataType.renameCase 1 fun _ => "Q") := by
  have hygienic : (handlerVisit sampledParameters).Hygienic (parseMethod sampledParameters) := by
    constructor
    case result => decide
    case uncaptured => decide
    case unnarrowed =>
      intro case read restriction witnessed
      rw [eq_toCase_of_visitorCase read] at witnessed ⊢
      have member : restriction ∈ (handler.toConstructor 1 _).restrictions :=
        mem_restrictions_iff.mpr witnessed
      cases member
  have fresh : (handlerVisit sampledParameters).Fresh (parseMethod sampledParameters)
      (fun _ => "Q") := by
    unfold Visit.Fresh
    decide
  have listed : (handlerVisit sampledParameters).interface.methods[1]? =
      some (parseMethod sampledParameters) := rfl
  have index : ((handlerVisit sampledParameters).interface.methods.take 1).countP
      Method.isAbstract = 1 := rfl
  have renamed := Visit.toDataType_renameCase listed rfl hygienic fresh
  rw [index] at renamed
  exact ⟨rfl, hygienic, fresh, renamed⟩

/--
A function to the method's own variable is taken for a witness of the declared
one, and no more once the method has another name for it.
-/
example :
    let restrictions (snapshot : Snapshot) : Option (List (List String)) :=
      (handler.toDataType snapshot).toOption.map fun data =>
        data.constructors.map fun constructor =>
          constructor.restrictions.map Restriction.parameter
    restrictions (handlerSnapshot [parseParameter]) = some [[], ["T"]] ∧
      restrictions ((handlerSnapshot [parseParameter]).renameCase "HandlerCases" 1 fun _ => "Q") =
        some [[], []] :=
  ⟨rfl, rfl⟩

end Declaration

end DataDerive
