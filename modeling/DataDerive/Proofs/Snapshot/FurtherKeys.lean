import DataDerive.Proofs.Snapshot.Scoping
import Mathlib.Logic.Function.Basic

/-!
# Keys that an element does not define

A document is decoded element by element, and what is decoded of a document depends on
an element in it only through what is decoded of that element.  Where an element takes
only the keys it defines, a further key is a fault of its decoder and so of the whole
document.  Named items and static members take further keys: there the document is
decoded as if the key were not there.
-/

namespace DataDerive

namespace Document

/-! ## Decoders that read a part -/

/-- What is decoded of a whole depends on a part only through what is decoded of the part. -/
structure ReadsThrough
    {ι α β : Type}
    (whole : ι → Option α)
    (part : ι → Option β) : Prop where
  same : ∀ {one other : ι}, part one = part other → whole one = whole other
  fails : ∀ {document : ι}, part document = none → whole document = none

theorem ReadsThrough.trans
    {ι α β γ : Type}
    {whole : ι → Option α}
    {middle : ι → Option β}
    {part : ι → Option γ}
    (outer : ReadsThrough whole middle)
    (inner : ReadsThrough middle part) :
    ReadsThrough whole part :=
  ⟨fun agree => outer.same (inner.same agree), fun fault => outer.fails (inner.fails fault)⟩

theorem ReadsThrough.comp
    {ι κ α β : Type}
    {whole : ι → Option α}
    {part : ι → Option β}
    (reads : ReadsThrough whole part)
    (place : κ → ι) :
    ReadsThrough (fun document => whole (place document)) fun document => part (place document) :=
  ⟨reads.same, reads.fails⟩

/-- If a part is decoded as before or not at all, then so is the whole. -/
theorem ReadsThrough.follows
    {ι α β : Type}
    {whole : ι → Option α}
    {part : ι → Option β}
    {document grown : ι}
    {keeps : Bool}
    (reads : ReadsThrough whole part)
    (inside : part grown = if keeps then part document else none) :
    whole grown = if keeps then whole document else none := by
  cases keeps with
  | true => exact reads.same inside
  | false => exact reads.fails inside

/-- Items of a list are decoded one by one. -/
theorem readsThrough_item {α : Type} (item : Decoder α) (before after : List Json) :
    ReadsThrough (fun json => (before ++ json :: after).mapM item) item := by
  constructor
  · intro one other agree
    simp only [List.mapM_append, List.mapM_cons, agree]
  · intro json fault
    simp [List.mapM_append, List.mapM_cons, fault]

/-! ## Fields of objects -/

/-- The values of a key, with a member in the middle. -/
theorem valuesOf_append_cons (wanted key : String) (value : Json)
    (before after : List (String × Json)) :
    Json.valuesOf wanted (before ++ (key, value) :: after) =
      if key = wanted then
        Json.valuesOf wanted before ++ value :: Json.valuesOf wanted after
      else
        Json.valuesOf wanted (before ++ after) := by
  simp only [Json.valuesOf, List.filter_append, List.filter_cons, List.map_append]
  by_cases same : key = wanted
  · simp [same]
  · simp [same]

/-- The fields are there if no key occurs twice. -/
theorem fieldsOf_eq (keys : List String) (members : List (String × Json)) :
    fieldsOf keys members =
      if ∀ key ∈ keys, (Json.valuesOf key members).length ≤ 1 then
        some (keys.map fun key => (Json.valuesOf key members).head?)
      else
        none := by
  induction keys with
  | nil => simp [fieldsOf]
  | cons key keys ih =>
      rw [fieldsOf] at ih
      rw [fieldsOf, List.mapM_cons, ih]
      by_cases once : ∀ key ∈ keys, (Json.valuesOf key members).length ≤ 1
      · rw [if_pos once]
        rcases occurs : Json.valuesOf key members with _ | ⟨first, _ | ⟨second, rest⟩⟩
        · rw [if_pos (List.forall_mem_cons.mpr ⟨by simp [occurs], once⟩), List.map_cons, occurs]
          rfl
        · rw [if_pos (List.forall_mem_cons.mpr ⟨by simp [occurs], once⟩), List.map_cons, occurs]
          rfl
        · rw [if_neg fun all => by simpa [occurs] using (List.forall_mem_cons.mp all).1]
          rfl
      · rw [if_neg once, if_neg fun all => once (List.forall_mem_cons.mp all).2]
        exact Option.bind_fun_none _

/-- A key that is not asked for does not change the fields. -/
theorem fieldsOf_append_cons
    {keys : List String}
    {key : String}
    (unknown : key ∉ keys)
    (value : Json)
    (before after : List (String × Json)) :
    fieldsOf keys (before ++ (key, value) :: after) = fieldsOf keys (before ++ after) := by
  have agree : ∀ wanted ∈ keys, Json.valuesOf wanted (before ++ (key, value) :: after) =
      Json.valuesOf wanted (before ++ after) := by
    intro wanted listed
    rw [valuesOf_append_cons, if_neg (ne_of_mem_of_not_mem listed unknown).symm]
  rw [fieldsOf_eq, fieldsOf_eq]
  refine if_congr (forall₂_congr fun wanted listed => ?_)
    (congrArg some (List.map_congr_left fun wanted listed => ?_)) rfl
  · rw [agree wanted listed]
  · rw [agree wanted listed]

/-- The fields with one of them left open. -/
theorem exists_fieldsOf_eq (keys : List String) (key : String)
    (before after : List (String × Json)) :
    ∃ others : Option (String → Option Json), ∀ value,
      fieldsOf keys (before ++ (key, value) :: after) =
        others.map fun field => keys.map (Function.update field key (some value)) := by
  let once : Prop := ∀ wanted ∈ keys,
    (Json.valuesOf wanted (before ++ (key, .null) :: after)).length ≤ 1
  have count (value : Json) :
      (∀ wanted ∈ keys,
        (Json.valuesOf wanted (before ++ (key, value) :: after)).length ≤ 1) ↔ once := by
    refine forall₂_congr fun wanted _ => ?_
    rw [valuesOf_append_cons, valuesOf_append_cons]
    split <;> simp
  classical
  refine ⟨if once then some fun wanted => (Json.valuesOf wanted (before ++ after)).head? else none,
    fun value => ?_⟩
  rw [fieldsOf_eq]
  by_cases holds : once
  · rw [if_pos holds, if_pos ((count value).mpr holds), Option.map_some]
    refine congrArg some (List.map_congr_left fun wanted listed => ?_)
    have single := (count value).mpr holds wanted listed
    rw [valuesOf_append_cons] at single ⊢
    by_cases same : key = wanted
    · subst same
      rw [if_pos rfl] at single ⊢
      have first : Json.valuesOf key before = [] := by
        rw [List.length_append, List.length_cons] at single
        exact List.length_eq_zero_iff.mp (by omega)
      rw [first, Function.update_self]
      rfl
    · rw [if_neg same, Function.update_of_ne (Ne.symm same)]
  · rw [if_neg holds, if_neg (mt (count value).mp holds)]
    rfl

theorem getElem?_padded
    {items : List Json}
    {missing index : Nat}
    (small : index < items.length + missing) :
    (items.map some ++ List.replicate missing none)[index]? = some items[index]? := by
  by_cases given : index < items.length
  · rw [List.getElem?_append_left (by rwa [List.length_map]), List.getElem?_map,
      List.getElem?_eq_getElem given]
    rfl
  · rw [List.getElem?_append_right (by rw [List.length_map]; omega), List.length_map,
      List.getElem?_replicate, if_pos (by omega), List.getElem?_eq_none (by omega)]

/-- The fields of an array with one of them left open. -/
theorem exists_positional_eq
    {keys : List String}
    {key : String}
    {before : List Json}
    (distinct : keys.Nodup)
    (position : keys[before.length]? = some key)
    (after : List Json) :
    ∃ others : Option (String → Option Json), ∀ value,
      positional keys (before ++ value :: after) =
        others.map fun field => keys.map (Function.update field key (some value)) := by
  refine ⟨if (before ++ .null :: after).length ≤ keys.length then
      some fun wanted => (before ++ .null :: after)[keys.idxOf wanted]? else none, fun value => ?_⟩
  have size : (before ++ value :: after).length = (before ++ Json.null :: after).length := by
    simp
  rw [positional, size]
  split
  next fits =>
    have replaced : before ++ value :: after =
        (before ++ .null :: after).set before.length value := by
      simp
    refine congrArg some (List.ext_getElem? fun index => ?_)
    rw [List.getElem?_map]
    by_cases small : index < keys.length
    · rw [getElem?_padded (by omega), List.getElem?_eq_getElem small, Option.map_some, replaced]
      by_cases opened : index = before.length
      · subst opened
        rw [List.getElem?_eq_getElem small, Option.some.injEq] at position
        rw [position, Function.update_self, List.getElem?_set_self (by simp)]
      · have other : keys[index] ≠ key := by
          intro same
          rw [← same, ← List.getElem?_eq_getElem small] at position
          exact opened ((List.getElem?_inj small distinct).mp position.symm)
        rw [Function.update_of_ne other, distinct.idxOf_getElem, List.getElem?_set_ne (Ne.symm opened)]
    · rw [List.getElem?_eq_none, List.getElem?_eq_none (Nat.le_of_not_lt small)]
      · rfl
      · rw [List.length_append, List.length_map, List.length_replicate, size]
        omega
  next => rfl

/-! ## Elements -/

/-- The kinds of elements that a document consists of. -/
inductive Element where
  | snapshot
  | declaration
  | request
  | method
  | parameter
  | interface
  | provider
  | member
  | named
  deriving Repr, DecidableEq

namespace Element

/-- What an element is decoded to. -/
abbrev Value : Element → Type
  | .snapshot => Snapshot String
  | .declaration => Declaration String
  | .request => Request
  | .method => Method String
  | .parameter => Parameter String
  | .interface => Interface String
  | .provider => Provider String
  | .member => StaticMember String
  | .named => Named

/-- The decoder of an element. -/
def decode : (element : Element) → Decoder element.Value
  | .snapshot => Document.snapshot
  | .declaration => Document.declaration
  | .request => Document.request
  | .method => Document.method
  | .parameter => Document.parameter
  | .interface => Document.interface
  | .provider => Document.provider
  | .member => Document.member
  | .named => Document.named

/-- Whether objects of the element may have further keys. -/
def isLenient : Element → Bool
  | .member | .named => true
  | _ => false

/-- The keys that an element defines, in the order of its fields; a static member is a method. -/
def recordKeys : Element → List String
  | .snapshot => ["path", "source", "declarations", "interfaces", "providers", "low_priority"]
  | .declaration => ["name", "span", "type_params", "annotation", "methods", "statics"]
  | .request => ["span", "derive", "instances"]
  | .method => ["name", "span", "type_params", "params", "returns", "abstract"]
  | .parameter => ["name", "span", "type", "fields"]
  | .interface => ["name", "span", "type_params", "methods"]
  | .provider => ["name", "span", "members"]
  | .member => ["kind", "name", "span", "type_params", "params", "returns"]
  | .named => ["name", "span"]

/-- The keys that an object of an element defines.  Those of a static member depend on its kind. -/
def keys (members : List (String × Json)) : Element → List String
  | .member =>
      "kind" :: match Json.valuesOf "kind" members with
        | [.string kind] => ((memberKind kind).map Prod.fst).getD []
        | _ => []
  | element => element.recordKeys

/-- The keys of an element under which lists of elements stand. -/
def lists : Element → List (String × Element)
  | .snapshot =>
      [("declarations", .declaration), ("interfaces", .interface), ("providers", .provider)]
  | .declaration => [("type_params", .named), ("methods", .method), ("statics", .member)]
  | .request => [("derive", .named), ("instances", .named)]
  | .method => [("type_params", .named), ("params", .parameter)]
  | .interface => [("type_params", .named), ("methods", .method)]
  | .provider => [("members", .member)]
  | .member => [("type_params", .named)]
  | .parameter => []
  | .named => []

end Element

/-- An element around the value of one of its fields. -/
inductive Around : Element → String → (Json → Json) → Prop where
  /-- An object of all its fields. -/
  | object
      {element : Element}
      (strict : element.isLenient = false)
      (key : String)
      (before after : List (String × Json)) :
      Around element key fun value => .object (before ++ (key, value) :: after)
  /-- The array of its fields. -/
  | array
      {element : Element}
      (strict : element.isLenient = false)
      {key : String}
      {before : List Json}
      (position : element.recordKeys[before.length]? = some key)
      (after : List Json) :
      Around element key fun value => .array (before ++ value :: after)
  /-- A static method, which has type parameters, as an object. -/
  | methodObject
      {before after : List (String × Json)}
      (kind : Json.valuesOf "kind" (before ++ after) = [.string "method"]) :
      Around .member "type_params" fun value =>
        .object (before ++ ("type_params", value) :: after)
  /-- A static method as an array. -/
  | methodArray (name place : Json) (after : List Json) :
      Around .member "type_params" fun value =>
        .array (.string "method" :: name :: place :: value :: after)

/--
One document is another with a key added that is not defined where it is added: in an
object that stands for an element of some kind, which may be the document itself or
any element inside it.
-/
inductive AddsKey (element : Element) : Element → Json → Json → Prop where
  | here
      {before after : List (String × Json)}
      {key : String}
      (unknown : key ∉ element.keys (before ++ after))
      (value : Json) :
      AddsKey element element (.object (before ++ after))
        (.object (before ++ (key, value) :: after))
  /-- In one of the elements of a list. -/
  | item
      {outer middle : Element}
      {key : String}
      {around : Json → Json}
      {document grown : Json}
      (holds : (key, middle) ∈ outer.lists)
      (within : Around outer key around)
      (before after : List Json)
      (inside : AddsKey element middle document grown) :
      AddsKey element outer (around (.array (before ++ document :: after)))
        (around (.array (before ++ grown :: after)))
  /-- In the annotation of a declaration. -/
  | request
      {around : Json → Json}
      {document grown : Json}
      (within : Around .declaration "annotation" around)
      (inside : AddsKey element .request document grown) :
      AddsKey element .declaration (around document) (around grown)

/-! ## Elements through their parts -/

theorem exists_record_eq
    {element : Element}
    {key : String}
    {around : Json → Json}
    (within : Around element key around)
    (strict : element.isLenient = false) :
    ∃ others : Option (String → Option Json), ∀ value,
      record element.recordKeys (around value) =
        others.map fun field =>
          element.recordKeys.map (Function.update field key (some value)) := by
  cases within with
  | object _ _ before after =>
      obtain ⟨others, fields⟩ := exists_fieldsOf_eq element.recordKeys key before after
      have known (value : Json) :
          onlyKeys element.recordKeys (before ++ (key, value) :: after) =
            onlyKeys element.recordKeys (before ++ (key, .null) :: after) := by
        simp [onlyKeys]
      refine ⟨if onlyKeys element.recordKeys (before ++ (key, .null) :: after) then others
        else none, fun value => ?_⟩
      rw [record, known, fields]
      split <;> rfl
  | array _ position after =>
      exact exists_positional_eq (by cases element <;> decide) position after
  | methodObject | methodArray => cases strict

/-- What is decoded of fields is read through what is read of one of them. -/
theorem readsThrough_fields
    {ι α β : Type}
    {keys : List String}
    {key : String}
    {fields : Json → Option (List (Option Json))}
    {others : Option (String → Option Json)}
    (read : ∀ value, fields value =
      others.map fun field => keys.map (Function.update field key (some value)))
    (build : List (Option Json) → Option α)
    {place : ι → Json}
    {part : ι → Option β}
    (reads : ∀ field, ReadsThrough
      (fun document => build (keys.map (Function.update field key (some (place document))))) part) :
    ReadsThrough (fun document => (fields (place document)).bind build) part := by
  constructor
  · intro one other agree
    rw [read, read, Option.bind_map, Option.bind_map]
    exact Option.bind_congr fun field _ => (reads field).same agree
  · intro document fault
    rw [read, Option.bind_map]
    exact Option.bind_eq_none_iff.mpr fun field _ => (reads field).fails fault

/-- An element with a list under one of its keys is read through the items of the list. -/
theorem readsThrough_list
    {outer inner : Element}
    {key : String}
    {around : Json → Json}
    (holds : (key, inner) ∈ outer.lists)
    (within : Around outer key around)
    (strict : outer.isLenient = false) :
    ReadsThrough (fun items => outer.decode (around (.array items)))
      (fun items => items.mapM inner.decode) := by
  obtain ⟨others, read⟩ := exists_record_eq within strict
  cases outer with
  | member | named => cases strict
  | parameter => cases holds
  | snapshot | declaration | request | method | interface | provider =>
      refine readsThrough_fields read _ fun field => ?_
      -- For each list, the decoders of the other fields do not see it.
      rcases holds with _ | ⟨_, _ | ⟨_, _ | ⟨_, ⟨⟩⟩⟩⟩
      all_goals
        constructor
        · intro one other agree
          simp only [Element.decode] at agree
          simp [Element.recordKeys, Function.update, optional, nullable, list, agree]
        · intro items fault
          simp only [Element.decode] at fault
          simp [Element.recordKeys, Function.update, optional, nullable, list, fault]

/-- A declaration is read through its annotation. -/
theorem readsThrough_request
    {around : Json → Json}
    (within : Around .declaration "annotation" around) :
    ReadsThrough (fun json => declaration (around json)) Document.request := by
  obtain ⟨others, read⟩ := exists_record_eq within rfl
  refine readsThrough_fields read _ fun field => ?_
  constructor
  · intro one other agree
    simp [Element.recordKeys, Function.update, optional, agree]
  · intro json fault
    simp [Element.recordKeys, Function.update, optional, fault]

/-- The keys of a static method after its kind. -/
def methodKeys : List String :=
  ["name", "span", "type_params", "params", "returns"]

theorem member_methodObject
    {members : List (String × Json)}
    (kind : Json.valuesOf "kind" members = [.string "method"]) :
    member (.object members) = (fieldsOf methodKeys members).bind staticMethod := by
  simp [member, fieldsOf_eq ["kind"], kind, required, text, memberKind, methodKeys]

/-- A static method is read through the items of its type parameters. -/
theorem readsThrough_typeParams
    {around : Json → Json}
    (within : Around .member "type_params" around) :
    ReadsThrough (fun items => member (around (.array items)))
      (fun items => items.mapM Document.named) := by
  have reads (field : String → Option Json) :
      ReadsThrough
        (fun items => staticMethod
          (methodKeys.map (Function.update field "type_params" (some (.array items)))))
        (fun items => items.mapM Document.named) := by
    constructor
    · intro one other agree
      simp [methodKeys, staticMethod, Function.update, optional, list, agree]
    · intro items fault
      simp [methodKeys, staticMethod, Function.update, optional, list, fault]
  cases within with
  | object strict | array strict => cases strict
  | @methodObject before after kind =>
      obtain ⟨others, read⟩ := exists_fieldsOf_eq methodKeys "type_params" before after
      have whole (value : Json) :
          member (.object (before ++ ("type_params", value) :: after)) =
            (fieldsOf methodKeys (before ++ ("type_params", value) :: after)).bind staticMethod := by
        refine member_methodObject ?_
        rw [valuesOf_append_cons, if_neg (by decide), kind]
      simp only [whole]
      exact readsThrough_fields read staticMethod reads
  | methodArray name place after =>
      have third : methodKeys[[name, place].length]? = some "type_params" := rfl
      obtain ⟨others, read⟩ := exists_positional_eq (by decide) third after
      exact readsThrough_fields read staticMethod reads

/-! ## Where a key is added -/

/-- An element that is strict does not take a key that it does not define. -/
theorem decode_of_strict
    {element : Element}
    {key : String}
    {before after : List (String × Json)}
    (strict : element.isLenient = false)
    (unknown : key ∉ element.keys (before ++ after))
    (value : Json) :
    element.decode (.object (before ++ (key, value) :: after)) = none := by
  have refused :
      record element.recordKeys (.object (before ++ (key, value) :: after)) = none := by
    have known : key ∉ element.recordKeys := by
      cases element with
      | member | named => cases strict
      | _ => exact unknown
    simp [record, onlyKeys, known]
  cases element with
  | member | named => cases strict
  | snapshot | declaration | request | method | parameter | interface | provider =>
      exact congrArg (Option.bind · _) refused

/-- A named item does not see a key that it does not define. -/
theorem named_append_cons
    {key : String}
    {before after : List (String × Json)}
    (unknown : key ∉ Element.named.keys (before ++ after))
    (value : Json) :
    Document.named (.object (before ++ (key, value) :: after)) =
      Document.named (.object (before ++ after)) := by
  have same : lenient ["name", "span"] (.object (before ++ (key, value) :: after)) =
      lenient ["name", "span"] (.object (before ++ after)) :=
    fieldsOf_append_cons unknown value before after
  exact congrArg (Option.bind · _) same

/-- A static member does not see a key that its kind does not define. -/
theorem member_append_cons
    {key : String}
    {before after : List (String × Json)}
    (unknown : key ∉ Element.member.keys (before ++ after))
    (value : Json) :
    member (.object (before ++ (key, value) :: after)) = member (.object (before ++ after)) := by
  rw [Element.keys, List.mem_cons, not_or] at unknown
  have kinds : fieldsOf ["kind"] (before ++ (key, value) :: after) =
      fieldsOf ["kind"] (before ++ after) :=
    fieldsOf_append_cons (mt List.mem_singleton.mp unknown.1) value before after
  rw [member, member, kinds]
  rcases occurs : Json.valuesOf "kind" (before ++ after) with _ | ⟨first, _ | ⟨second, rest⟩⟩
  · simp [fieldsOf, occurs, required]
  · cases first with
    | string kind =>
        cases isKind : memberKind kind with
        | none => simp [fieldsOf, occurs, required, text, isKind]
        | some fields =>
            simp only [occurs, isKind, Option.map_some, Option.getD_some] at unknown
            have same := fieldsOf_append_cons unknown.2 value before after
            simp [fieldsOf_eq ["kind"], occurs, required, text, isKind, same]
    | _ => simp [fieldsOf, occurs, required, text]
  · simp [fieldsOf, occurs]

/--
A key that is not defined makes a strict element fail, and is not seen by a lenient one;
and so it goes for the whole document.
-/
theorem decode_of_addsKey
    {element outer : Element}
    {document grown : Json}
    (adds : AddsKey element outer document grown) :
    outer.decode grown = if element.isLenient then outer.decode document else none := by
  induction adds with
  | here unknown value =>
      cases element with
      | named => exact named_append_cons unknown value
      | member => exact member_append_cons unknown value
      | _ => exact decode_of_strict rfl unknown value
  | @item outer middle key around document grown holds within before after inside ih =>
      have list : ReadsThrough (fun items => outer.decode (around (.array items)))
          (fun items => items.mapM middle.decode) := by
        cases strict : outer.isLenient with
        | false => exact readsThrough_list holds within strict
        | true =>
            cases outer with
            | named => cases holds
            | member =>
                rcases holds with _ | ⟨_, ⟨⟩⟩
                exact readsThrough_typeParams within
            | _ => cases strict
      have reads := (list.comp (before ++ · :: after)).trans
        (readsThrough_item middle.decode before after)
      exact reads.follows ih
  | request within inside ih => exact (readsThrough_request within).follows ih

end Document

open Document in
/--
A key that is not defined where it is added, in any object that stands for an element of
a document, makes a fault of the document, with two exceptions: what is loaded stays
the same if the element is a named item or a static member.  So a key that is spelled
wrongly is never passed over in any other element, and always in these two.
-/
theorem Snapshot.load_of_addsKey
    {element : Element}
    {document grown : Json}
    {text grownText : String}
    (adds : AddsKey element .snapshot document grown)
    (reads : Json.read text = some document)
    (readsGrown : Json.read grownText = some grown) :
    Snapshot.load grownText =
      if element = .named ∨ element = .member then Snapshot.load text
      else .error .document := by
  have decoded := decode_of_addsKey adds
  rw [Snapshot.load, Snapshot.load, reads, readsGrown, Option.bind_some, Option.bind_some]
  simp only [Element.decode] at decoded
  rw [decoded]
  cases element <;> rfl

/-- A provider of a static method, with further keys in the objects of the two. -/
def listDocument (ofProvider ofMethod : List (String × Json)) : Json :=
  .object [("providers", .array [.object ([
    ("name", .string "Instances"),
    ("members", .array [.object ([
      ("kind", .string "method"),
      ("name", .string "list_eq"),
      ("returns", .string "Eq<List<A>>")] ++ ofMethod)])] ++ ofProvider)])]

/-- A static method without type parameters: its result mentions a constructor. -/
def listSnapshot : Snapshot :=
  { (default : Snapshot) with
    providers := [⟨"Instances", .absent,
      [.method "list_eq" .absent [] [] (.con "Eq" [.con "List" [.atom "A"]])]⟩] }

open Document in
/-- The type parameters of a method are lost if their key is spelled wrongly. -/
theorem Snapshot.load_of_addsKey_list :
    let plain := listDocument [] []
    let misspelt := listDocument [] [("type_parms", .array [.string "A"])]
    let misplaced := listDocument [("type_params", .array [.string "A"])] []
    AddsKey .member .snapshot plain misspelt ∧ AddsKey .provider .snapshot plain misplaced ∧
      Snapshot.load plain.write = .ok listSnapshot ∧
      Snapshot.load misspelt.write = .ok listSnapshot ∧
      Snapshot.load misplaced.write = .error .document := by
  intro plain misspelt misplaced
  have read : Json.read plain.write = some plain := by
    rw [Json.read, Json.write, String.toList_ofList]
    rfl
  have readMisspelt : Json.read misspelt.write = some misspelt := by
    rw [Json.read, Json.write, String.toList_ofList]
    rfl
  have readMisplaced : Json.read misplaced.write = some misplaced := by
    rw [Json.read, Json.write, String.toList_ofList]
    rfl
  have list : Around .snapshot "providers" fun value => .object [("providers", value)] :=
    .object rfl "providers" [] []
  have members : Around .provider "members" fun value =>
      .object [("name", .string "Instances"), ("members", value)] :=
    .object rfl "members" [("name", .string "Instances")] []
  have third : ("providers", Element.provider) ∈ Element.snapshot.lists := by decide
  have only : ("members", Element.member) ∈ Element.provider.lists := by decide
  have toMethod : AddsKey .member .snapshot plain misspelt := by
    refine .item third list [] [] (.item only members [] [] ?_)
    exact .here (by decide) _
  have toProvider : AddsKey .provider .snapshot plain misplaced := by
    refine .item third list [] [] ?_
    exact .here (by decide) _
  have loaded : Snapshot.load plain.write = .ok listSnapshot := by
    rw [Snapshot.load, read]
    decide +kernel
  refine ⟨toMethod, toProvider, loaded, ?_, ?_⟩
  · rw [Snapshot.load_of_addsKey toMethod read readMisspelt, if_pos (by decide), loaded]
  · rw [Snapshot.load_of_addsKey toProvider read readMisplaced, if_neg (by decide)]

end DataDerive
