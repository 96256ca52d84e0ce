import DataDerive.Code.Item
import DataDerive.Code.Lines
import DataDerive.Identifier

/-!
# The text of a generated module

A module opens with a line that says what it was generated from, and its
imports.  Then come the types, the statics, and a companion module with the
functions, each set off by an empty line.
-/

namespace DataDerive

open Lines (line lines)

/-- The lines of a doc comment. -/
def docText (level : Nat) (doc : Option String) : String :=
  match doc with
  | some text => lines level ((Lines.ofText text).map ("/// " ++ ·))
  | none => ""

/-- A function with its body, or without one. -/
def FunctionItem.text (level : Nat) (isPublic : Bool) (item : FunctionItem) : String :=
  let opening := (if isPublic then "pub " else "") ++ item.signature
  docText level item.doc ++
    match item.body with
    | none => line level (opening ++ ";")
    | some body =>
        line level (opening ++ " \x7b") ++ lines (level + 1) body.lines ++ line level "\x7d"

/-- A variant with its fields. -/
def VariantItem.text (item : VariantItem) : String :=
  if item.fields.isEmpty then
    line 1 (item.name ++ ",")
  else
    line 1 (item.name ++ " \x7b") ++
      lines 2 (item.fields.map fun field => field.text ++ ",") ++ line 1 "\x7d,"

/-- The methods of a structure, if it has any. -/
def methodsText
    (name : String)
    (generics : List Generic)
    (methods : List FunctionItem) : String :=
  if methods.isEmpty then
    ""
  else
    let applied := CodeType.applied name (generics.map Generic.name)
    "\n" ++ line 0 ("impl" ++ Generic.listText generics ++ " " ++ applied ++ " \x7b") ++
      "\n".intercalate (methods.map (FunctionItem.text 1 true)) ++ line 0 "\x7d"

/-- A type. -/
def TypeItem.text : TypeItem → String
  | .enum name doc generics derives variants =>
      docText 0 doc ++
        (if derives.isEmpty then "" else line 0 ("#[derive(" ++ ", ".intercalate derives ++ ")]")) ++
        line 0 ("pub enum " ++ name ++ Generic.listText generics ++ " \x7b") ++
        String.join (variants.map VariantItem.text) ++ line 0 "\x7d"
  | .trait name doc generics methods =>
      docText 0 doc ++
        line 0 ("pub trait " ++ name ++ Generic.listText generics ++ " \x7b") ++
        String.join (methods.map (FunctionItem.text 1 false)) ++ line 0 "\x7d"
  | .struct name doc generics fields methods =>
      let header := "pub struct " ++ name ++ Generic.listText generics
      docText 0 doc ++
        (if fields.isEmpty then
          line 0 "#[derive(Clone, Copy, Debug, Default)]" ++ line 0 (header ++ ";")
        else
          line 0 (header ++ " \x7b") ++
            lines 1 (fields.map fun field => "pub " ++ field.text ++ ",") ++ line 0 "\x7d") ++
        methodsText name generics methods

/-- A static. -/
def StaticItem.text (item : StaticItem) : String :=
  docText 0 item.doc ++
    line 0 ("pub static " ++ item.name ++ ": LazyLock<" ++ item.type.text ++
      "> = LazyLock::new(|| \x7b") ++
    lines 1 item.body.lines ++ line 0 "\x7d);"

/-- The companion module with the functions, if there are any. -/
def companionText (name : String) (functions : List FunctionItem) : String :=
  if functions.isEmpty then
    ""
  else
    "\n" ++ line 0 ("pub mod " ++ Identifier.snakeName name ++ " \x7b") ++
      line 1 "use super::*;" ++
      String.join (functions.map fun item => "\n" ++ item.text 1 true) ++ line 0 "\x7d"

/-- The module generated for a data type. -/
def CodeUnit.moduleText (unit : CodeUnit) (name : String) : String :=
  Lines.finish <|
    line 0 ("// @generated by adtc from `" ++ name ++ "`. Do not edit.") ++
      line 0 "use super::*;" ++
      lines 0 (unit.imports.map fun path => "use " ++ path ++ ";") ++
      String.join (unit.types.map fun item => "\n" ++ item.text) ++
      String.join (unit.statics.map fun item => "\n" ++ item.text) ++
      companionText name unit.functions

end DataDerive
