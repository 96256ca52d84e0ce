import DataDerive.ClassInstance.Generator
import DataDerive.ClassInstance.Naming
import DataDerive.Instance.Provider
import DataDerive.Instance.Search

/-!
# Deriving class instances

For each class that a declaration asks for, an instance is found for every
argument of every constructor, and the generator of the class makes the instance
of the data type from them.
-/

namespace DataDerive

/-- What an instance is derived for. -/
structure InstanceRequest where
  data : DataType
  className : String
  /-- Where the annotation is written. -/
  around : Span
  /-- Where the class is asked for. -/
  span : Span
  providers : List Provider
  lowPriority : List Provider

namespace InstanceRequest

/-- The place of the request. -/
def place (request : InstanceRequest) : Localization :=
  .value request.data.name request.around request.span

/-- The note that a field's instance comes from a provider of low priority. -/
def lowPriorityNote
    (request : InstanceRequest)
    (field : Field)
    (location : Location) : Message where
  code := .lowPriorityInstance
  text := s!"`{request.className}` instance for field `{field.name}` of `{request.data.name}` comes from a low-priority provider: `{location.describe}`"
  places := [request.place, .declaration request.data.name field.span]

/-- Find the instance for an argument. -/
def findFor (request : InstanceRequest) (field : Field) : Derived FoundInstance :=
  SearchContext.find
    ⟨request.data, request.className, field.span, request.providers, request.lowPriority⟩
    field.type

/-- Find the instances for the arguments of a constructor. -/
def findAll (request : InstanceRequest) (constructor : Constructor) :
    Derived (List (Field × FoundInstance)) :=
  constructor.arguments.mapM fun field => do
    return (field, ← request.findFor field)

/-- The notes on the instances that come from providers of low priority. -/
def notes (request : InstanceRequest) (found : List (Field × FoundInstance)) : List Message :=
  (found.filter fun (_, instance_) => instance_.lowPriority).map fun (field, instance_) =>
    request.lowPriorityNote field instance_.location

/-- The type of the instance. -/
def instanceType (request : InstanceRequest) : CodeType :=
  .named request.className [request.data.selfCode]

/-- What the instance is for. -/
def doc (request : InstanceRequest) : String :=
  s!"`{request.className}` for `{request.data.typeName}`."

/-- The parameter of the generated function for a class at a type variable. -/
def slot (parameter : String × String) : Slot :=
  ⟨InstanceNaming.parameterName parameter, .named parameter.1 [.param parameter.2]⟩

/-- The item that holds the instance: a function if there are type parameters, else a static. -/
def item (request : InstanceRequest) (naming : InstanceNaming) (body : Body) : CodeUnit :=
  if request.data.isParametric then
    .ofFunctions [{
      name := naming.functionName
      doc := some request.doc
      generics := request.data.boundGenerics .forEver
      receiver := false
      parameters := naming.parameters.map slot
      result := request.instanceType
      body := some body }]
  else
    { CodeUnit.empty with
      statics := [⟨naming.staticName, some request.doc, request.instanceType, body⟩]
      imports := ["std::sync::LazyLock"] }

/-- Refuse an instance whose recursive uses cannot be given all that they need. -/
def checkPassable (request : InstanceRequest) (naming : InstanceNaming) : Derived Unit :=
  match naming.unpassable? with
  | none => .ok ()
  | some (className, type) =>
      .error (.at_ .noInstance
        s!"`{request.className}` for `{request.data.name}` needs `{className}<{type.text}>` at a recursive use, which the generated instance cannot pass along"
        request.place)

/-- The instance made by a generator. -/
def generate (request : InstanceRequest) (generator : InstanceGenerator) : Derived CodeUnit := do
  let found ← request.data.constructors.mapM request.findAll
  let naming : InstanceNaming :=
    { data := request.data
      className := request.className
      locations := found.map fun row => row.map fun (_, instance_) => instance_.location }
  request.checkPassable naming
  let body := Body.classValue naming.locals (generator.value request.data naming.receivers)
  return { (request.item naming body).importing generator.imports with
    notes := found.flatMap request.notes }

end InstanceRequest

/-- The message that there is no generator for a class. -/
def GeneratorRegistry.noGenerator
    (registry : GeneratorRegistry)
    (className : String)
    (place : Localization) : Message :=
  let known := ", ".intercalate registry.classes
  .at_ .noGenerator
    s!"no instance generator for type class `{className}` (known: {known})" place

/-- The first of the items with each name. -/
def firstOfEachName : (seen : List String) → List Named → List Named
  | _, [] => []
  | seen, item :: rest =>
      if seen.contains item.name then
        firstOfEachName seen rest
      else
        item :: firstOfEachName (item.name :: seen) rest

/-- The instances that a declaration asks for. -/
def DataType.deriveInstances
    (data : DataType)
    (declaration : Declaration)
    (snapshot : Snapshot)
    (registry : GeneratorRegistry) : Derived CodeUnit := do
  let targets := data.constructors.flatMap fun constructor =>
    constructor.arguments.map Field.type
  let units ← (firstOfEachName [] declaration.request.instances).mapM fun item => do
    let request : InstanceRequest :=
      { data
        className := item.name
        around := declaration.request.span
        span := item.span
        providers := Provider.forDerivation snapshot declaration item.name targets
        lowPriority := Provider.lowPriority snapshot }
    match registry.get? item.name with
    | some generator => request.generate generator
    | none => .error (registry.noGenerator item.name request.place)
  return .concat units

end DataDerive
