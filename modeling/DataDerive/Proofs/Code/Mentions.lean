import DataDerive.Proofs.Code.References

/-!
# Types and variants in generated code

Generated code mentions types in signatures, in the bounds of generic parameters, in
the fields of variants, in statics and in closures, and variants in patterns and where
they are built.  All mentions are collected, so that what is said about each of them
can be said of a whole unit.
-/

namespace DataDerive

/-- A mention of a variant or of a type. -/
inductive Mention where
  | variant (path : VariantPath)
  | type (type : CodeType)

variable {holds : Mention → Prop}

/-! ## Patterns -/

namespace Pattern

mutual

/-- The mentions in a pattern. -/
def mentions : Pattern → List Mention
  | .unit path => [.variant path]
  | .fields path _ => [.variant path]
  | .pair left right => mentions left ++ mentions right
  | .oneOf alternatives => mentionsAll alternatives
  | .ident _ => []
  | .anything => []

/-- The mentions in several patterns. -/
def mentionsAll : List Pattern → List Mention
  | [] => []
  | pattern :: rest => mentions pattern ++ mentionsAll rest

end

/-- All that a pattern mentions has a property. -/
def MentionsOnly (holds : Mention → Prop) (pattern : Pattern) : Prop :=
  ∀ mention ∈ pattern.mentions, holds mention

@[simp]
theorem mentionsOnly_unit {path : VariantPath} :
    (unit path).MentionsOnly holds ↔ holds (.variant path) :=
  List.forall_mem_singleton

@[simp]
theorem mentionsOnly_fields {path : VariantPath} {bindings : List (String × String)} :
    (fields path bindings).MentionsOnly holds ↔ holds (.variant path) :=
  List.forall_mem_singleton

@[simp]
theorem mentionsOnly_pair {left right : Pattern} :
    (pair left right).MentionsOnly holds ↔
      left.MentionsOnly holds ∧ right.MentionsOnly holds :=
  List.forall_mem_append

@[simp]
theorem mentionsOnly_oneOf {alternatives : List Pattern} :
    (oneOf alternatives).MentionsOnly holds ↔
      ∀ pattern ∈ alternatives, pattern.MentionsOnly holds := by
  rw [MentionsOnly, mentions]
  induction alternatives with
  | nil => simp [mentionsAll]
  | cons pattern rest ih =>
      rw [mentionsAll, List.forall_mem_append, ih, List.forall_mem_cons]
      rfl

@[simp]
theorem mentionsOnly_ident {name : String} : (ident name).MentionsOnly holds :=
  List.forall_mem_nil _

@[simp]
theorem mentionsOnly_anything : anything.MentionsOnly holds :=
  List.forall_mem_nil _

end Pattern

/-! ## Expressions -/

namespace Expr

mutual

/-- The mentions in an expression. -/
def mentions : Expr → List Mention
  | .ident _ => []
  | .bound _ => []
  | .member _ _ => []
  | .number _ _ => []
  | .quoted _ => []
  | .throughPointer value => mentions value
  | .call function arguments => mentions function ++ mentionsAll arguments
  | .method receiver _ arguments => mentions receiver ++ mentionsAll arguments
  | .unit path => [.variant path]
  | .construct path fields => .variant path :: fieldMentionsAll fields
  | .tuple items => mentionsAll items
  | .array items => mentionsAll items
  | .all conditions => mentionsAll conditions
  | .identity type => [.type type]
  | .delayed value => mentions value
  | .constant value => mentions value
  | .matching value pattern => mentions value ++ pattern.mentions
  | .formatted _ arguments => mentionsAll arguments
  | .hashOf items => mentionsAll items
termination_by structural value => value

/-- The mentions in several expressions. -/
def mentionsAll : List Expr → List Mention
  | [] => []
  | value :: rest => mentions value ++ mentionsAll rest
termination_by structural values => values

/-- The mentions in the values of fields. -/
def fieldMentionsAll : List (String × Expr) → List Mention
  | [] => []
  | field :: rest => fieldMentions field ++ fieldMentionsAll rest
termination_by structural fields => fields

/-- The mentions in the value of a field. -/
def fieldMentions : String × Expr → List Mention
  | (_, value) => mentions value
termination_by structural field => field

end

/-- All that an expression mentions has a property. -/
def MentionsOnly (holds : Mention → Prop) (value : Expr) : Prop :=
  ∀ mention ∈ value.mentions, holds mention

theorem forall_mem_mentionsAll {values : List Expr} :
    (∀ mention ∈ mentionsAll values, holds mention) ↔
      ∀ value ∈ values, value.MentionsOnly holds := by
  induction values with
  | nil => simp [mentionsAll]
  | cons value rest ih =>
      rw [mentionsAll, List.forall_mem_append, ih, List.forall_mem_cons]
      rfl

@[simp]
theorem mentionsOnly_ident {name : String} : (ident name).MentionsOnly holds :=
  List.forall_mem_nil _

@[simp]
theorem mentionsOnly_bound {name : String} : (bound name).MentionsOnly holds :=
  List.forall_mem_nil _

@[simp]
theorem mentionsOnly_member {item part : String} : (member item part).MentionsOnly holds :=
  List.forall_mem_nil _

@[simp]
theorem mentionsOnly_number {value : Nat} {suffix : String} :
    (number value suffix).MentionsOnly holds :=
  List.forall_mem_nil _

@[simp]
theorem mentionsOnly_quoted {text : String} : (quoted text).MentionsOnly holds :=
  List.forall_mem_nil _

@[simp]
theorem mentionsOnly_throughPointer {value : Expr} :
    (throughPointer value).MentionsOnly holds ↔ value.MentionsOnly holds :=
  Iff.rfl

@[simp]
theorem mentionsOnly_call {function : Expr} {arguments : List Expr} :
    (call function arguments).MentionsOnly holds ↔
      function.MentionsOnly holds ∧ ∀ argument ∈ arguments, argument.MentionsOnly holds := by
  rw [MentionsOnly, mentions, List.forall_mem_append, forall_mem_mentionsAll]
  rfl

@[simp]
theorem mentionsOnly_method {receiver : Expr} {name : String} {arguments : List Expr} :
    (method receiver name arguments).MentionsOnly holds ↔
      receiver.MentionsOnly holds ∧ ∀ argument ∈ arguments, argument.MentionsOnly holds := by
  rw [MentionsOnly, mentions, List.forall_mem_append, forall_mem_mentionsAll]
  rfl

@[simp]
theorem mentionsOnly_unit {path : VariantPath} :
    (unit path).MentionsOnly holds ↔ holds (.variant path) :=
  List.forall_mem_singleton

@[simp]
theorem mentionsOnly_construct {path : VariantPath} {fields : List (String × Expr)} :
    (construct path fields).MentionsOnly holds ↔
      holds (.variant path) ∧ ∀ field ∈ fields, field.2.MentionsOnly holds := by
  rw [MentionsOnly, mentions, List.forall_mem_cons]
  refine and_congr_right' ?_
  induction fields with
  | nil => simp [fieldMentionsAll]
  | cons field rest ih =>
      obtain ⟨name, value⟩ := field
      rw [fieldMentionsAll, fieldMentions, List.forall_mem_append, ih, List.forall_mem_cons]
      rfl

@[simp]
theorem mentionsOnly_all {conditions : List Expr} :
    (all conditions).MentionsOnly holds ↔
      ∀ condition ∈ conditions, condition.MentionsOnly holds :=
  forall_mem_mentionsAll

@[simp]
theorem mentionsOnly_identity {type : CodeType} :
    (identity type).MentionsOnly holds ↔ holds (.type type) :=
  List.forall_mem_singleton

@[simp]
theorem mentionsOnly_delayed {value : Expr} :
    (delayed value).MentionsOnly holds ↔ value.MentionsOnly holds :=
  Iff.rfl

@[simp]
theorem mentionsOnly_constant {value : Expr} :
    (constant value).MentionsOnly holds ↔ value.MentionsOnly holds :=
  Iff.rfl

@[simp]
theorem mentionsOnly_matching {value : Expr} {pattern : Pattern} :
    (matching value pattern).MentionsOnly holds ↔
      value.MentionsOnly holds ∧ pattern.MentionsOnly holds :=
  List.forall_mem_append

@[simp]
theorem mentionsOnly_formatted {template : String} {arguments : List Expr} :
    (formatted template arguments).MentionsOnly holds ↔
      ∀ argument ∈ arguments, argument.MentionsOnly holds :=
  forall_mem_mentionsAll

@[simp]
theorem mentionsOnly_hashOf {items : List Expr} :
    (hashOf items).MentionsOnly holds ↔ ∀ item ∈ items, item.MentionsOnly holds :=
  forall_mem_mentionsAll

@[simp]
theorem mentionsOnly_share {value : Expr} :
    value.share.MentionsOnly holds ↔ value.MentionsOnly holds := by
  simp [share]

@[simp]
theorem mentionsOnly_present {value : Expr} :
    value.present.MentionsOnly holds ↔ value.MentionsOnly holds := by
  simp [present]

@[simp]
theorem mentionsOnly_clone {value : Expr} :
    value.clone.MentionsOnly holds ↔ value.MentionsOnly holds := by
  simp [clone]

end Expr

/-! ## Bodies -/

/-- The mentions in an arm. -/
def Arm.mentions (arm : Arm) : List Mention :=
  arm.pattern.mentions ++ arm.result.mentions

/-- All that an arm mentions has a property. -/
def Arm.MentionsOnly (holds : Mention → Prop) (arm : Arm) : Prop :=
  ∀ mention ∈ arm.mentions, holds mention

@[simp]
theorem Arm.mentionsOnly_iff {arm : Arm} :
    arm.MentionsOnly holds ↔ arm.pattern.MentionsOnly holds ∧ arm.result.MentionsOnly holds :=
  List.forall_mem_append

/-- The mentions in a class instance: the type of its operands and what its arms mention. -/
def ClassValue.mentions (value : ClassValue) : List Mention :=
  (match value with
    | .function made => [.type made.type]
    | .verbatim _ => []) ++ value.arms.flatMap Arm.mentions

/-- The mentions in a body. -/
def Body.mentions : Body → List Mention
  | .expression result => result.mentions
  | .cases value arms => value.mentions ++ arms.flatMap Arm.mentions
  | .unpack pattern value items =>
      pattern.mentions ++ (value.mentions ++ items.flatMap Expr.mentions)
  | .classValue locals value =>
      locals.flatMap (fun bound => bound.2.mentions) ++ value.mentions
  | .verbatim _ => []

/-- All that a body mentions has a property. -/
def Body.MentionsOnly (holds : Mention → Prop) (body : Body) : Prop :=
  ∀ mention ∈ body.mentions, holds mention

namespace Body

@[simp]
theorem mentionsOnly_expression {result : Expr} :
    (expression result).MentionsOnly holds ↔ result.MentionsOnly holds :=
  Iff.rfl

@[simp]
theorem mentionsOnly_cases {value : Expr} {arms : List Arm} :
    (cases value arms).MentionsOnly holds ↔
      value.MentionsOnly holds ∧ ∀ arm ∈ arms, arm.MentionsOnly holds := by
  rw [MentionsOnly, mentions, List.forall_mem_append, List.forall_mem_flatMap]
  rfl

@[simp]
theorem mentionsOnly_unpack {pattern : Pattern} {value : Expr} {items : List Expr} :
    (unpack pattern value items).MentionsOnly holds ↔
      pattern.MentionsOnly holds ∧ value.MentionsOnly holds ∧
        ∀ item ∈ items, item.MentionsOnly holds := by
  rw [MentionsOnly, mentions, List.forall_mem_append, List.forall_mem_append,
    List.forall_mem_flatMap]
  rfl

@[simp]
theorem mentionsOnly_classValue {locals : List (String × Expr)} {value : ClassValue} :
    (classValue locals value).MentionsOnly holds ↔
      (∀ bound ∈ locals, bound.2.MentionsOnly holds) ∧
        ∀ mention ∈ value.mentions, holds mention := by
  rw [MentionsOnly, mentions, List.forall_mem_append, List.forall_mem_flatMap]
  rfl

end Body

theorem ClassValue.forall_mem_mentions_function {value : ClassFunction} :
    (∀ mention ∈ (function value).mentions, holds mention) ↔
      holds (.type value.type) ∧ (∀ arm ∈ value.arms, arm.MentionsOnly holds) ∧
        ∀ arm ∈ value.fallback.arms, arm.MentionsOnly holds := by
  rw [mentions, arms, List.forall_mem_append, List.forall_mem_singleton, List.forall_mem_flatMap,
    List.forall_mem_append]
  rfl

/-! ## Items -/

/-- The mentions in a bound. -/
def Bound.mentions : Bound → List Mention
  | .named _ => []
  | .producer result => [.type result]

/-- The mentions in the bounds of a generic parameter. -/
def Generic.mentions (parameter : Generic) : List Mention :=
  parameter.bounds.flatMap Bound.mentions

@[simp]
theorem Generic.mentions_plain (name : String) : (plain name).mentions = [] :=
  rfl

@[simp]
theorem Generic.mentions_plain_bound (name : String) (bound : Bound) :
    ((plain name).bound bound).mentions = bound.mentions :=
  List.append_nil _

namespace FunctionItem

/-- The mentions in a function: in its signature and in its body. -/
def mentions (item : FunctionItem) : List Mention :=
  item.generics.flatMap Generic.mentions ++
    (item.parameters.map (fun slot => .type slot.type) ++
      (.type item.result :: item.body.elim [] Body.mentions))

/-- All that a function mentions has a property. -/
def MentionsOnly (holds : Mention → Prop) (item : FunctionItem) : Prop :=
  ∀ mention ∈ item.mentions, holds mention

theorem mentionsOnly_iff {item : FunctionItem} :
    item.MentionsOnly holds ↔
      (∀ generic ∈ item.generics, ∀ mention ∈ generic.mentions, holds mention) ∧
      (∀ slot ∈ item.parameters, holds (.type slot.type)) ∧
      holds (.type item.result) ∧ ∀ body ∈ item.body, body.MentionsOnly holds := by
  rw [MentionsOnly, mentions, List.forall_mem_append, List.forall_mem_append,
    List.forall_mem_cons, List.forall_mem_flatMap, List.forall_mem_map]
  cases item.body <;> simp [Body.MentionsOnly]

/-- A function whose bounds mention nothing mentions what its types and its body mention. -/
theorem mentionsOnly_of_unbound
    {item : FunctionItem}
    (unbound : ∀ generic ∈ item.generics, generic.mentions = [])
    (parameters : ∀ slot ∈ item.parameters, holds (.type slot.type))
    (result : holds (.type item.result))
    (body : ∀ body ∈ item.body, body.MentionsOnly holds) :
    item.MentionsOnly holds := by
  refine mentionsOnly_iff.mpr ⟨fun generic listed mention mentioned => ?_, parameters, result, body⟩
  rw [unbound generic listed] at mentioned
  cases mentioned

end FunctionItem

/-- The mentions in the fields of a type; those in its methods come apart. -/
def TypeItem.fieldMentions : TypeItem → List Mention
  | .enum _ _ _ _ variants =>
      variants.flatMap fun variant => variant.fields.map fun slot => .type slot.type
  | .trait _ _ _ _ => []
  | .struct _ _ _ fields _ => fields.map fun slot => .type slot.type

/-- The mentions in a static. -/
def StaticItem.mentions (item : StaticItem) : List Mention :=
  .type item.type :: item.body.mentions

/-! ## Units -/

namespace CodeUnit

/-- The mentions in a unit. -/
def mentions (unit : CodeUnit) : List Mention :=
  unit.types.flatMap TypeItem.fieldMentions ++
    (unit.statics.flatMap StaticItem.mentions ++
      unit.allFunctions.flatMap FunctionItem.mentions)

theorem mem_mentions_append {first second : CodeUnit} {mention : Mention} :
    mention ∈ (first.append second).mentions ↔
      mention ∈ first.mentions ∨ mention ∈ second.mentions := by
  have functions : mention ∈ (first.append second).allFunctions.flatMap FunctionItem.mentions ↔
      mention ∈ first.allFunctions.flatMap FunctionItem.mentions ∨
        mention ∈ second.allFunctions.flatMap FunctionItem.mentions := by
    simp only [List.mem_flatMap, mem_allFunctions_append, or_and_right, exists_or]
  simp only [mentions, List.mem_append, functions]
  simp only [append, List.flatMap_append, List.mem_append, or_or_or_comm]

theorem mem_mentions_concat {units : List CodeUnit} {mention : Mention} :
    mention ∈ (concat units).mentions ↔ ∃ unit ∈ units, mention ∈ unit.mentions :=
  concat_iff (fun unit => mention ∈ unit.mentions) List.not_mem_nil
    (fun _ _ => mem_mentions_append) units

/-- A unit of functions mentions what they mention. -/
theorem forall_mem_mentions_of_functions
    {unit : CodeUnit}
    (noFields : unit.types.flatMap TypeItem.fieldMentions = [])
    (noStatics : unit.statics = []) :
    (∀ mention ∈ unit.mentions, holds mention) ↔
      ∀ item ∈ unit.allFunctions, item.MentionsOnly holds := by
  rw [mentions, noFields, noStatics, List.flatMap_nil, List.nil_append, List.nil_append,
    List.forall_mem_flatMap]
  rfl

end CodeUnit

end DataDerive
