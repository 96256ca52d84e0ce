/-!
# Lines of text

Generated code is laid out in lines that are indented by four spaces a level.
An empty line is not indented.  A finished text ends with exactly one line feed,
and spaces before it are kept.
-/

namespace DataDerive.Lines

/-- The spaces of so many levels. -/
def indentation (level : Nat) : String :=
  String.ofList (List.replicate (4 * level) ' ')

/-- A line at a level. -/
def line (level : Nat) (text : String) : String :=
  if text.isEmpty then "\n" else indentation level ++ text ++ "\n"

/-- Lines at a level. -/
def lines (level : Nat) (texts : List String) : String :=
  String.join (texts.map (line level))

/-- Drop blank lines at the end of a text that is given backwards. -/
def dropBlank : List Char → List Char
  | '\n' :: tail@('\n' :: _) => dropBlank tail
  | '\n' :: tail@(' ' :: _) => tail
  | text => text

/-- Drop blank lines at the end and end with a line feed. -/
def finish (text : String) : String :=
  match dropBlank text.toList.reverse with
  | '\n' :: rest => String.ofList ('\n' :: rest).reverse
  | rest => String.ofList ('\n' :: rest).reverse

/-- A line without the carriage return in front of its line feed. -/
def dropReturn (line : List Char) : List Char :=
  match line.reverse with
  | '\r' :: rest => rest.reverse
  | _ => line

/-- The lines of a text from a point on; `current` is the line so far. -/
def splitFrom (current : List Char) : List Char → List (List Char)
  | [] => if current.isEmpty then [] else [current]
  | c :: rest =>
      if c = '\n' then
        dropReturn current :: splitFrom [] rest
      else
        splitFrom (current ++ [c]) rest

/-- The lines of a text.  A line ends with a line feed, or with the text. -/
def ofText (text : String) : List String :=
  (splitFrom [] text.toList).map String.ofList

end DataDerive.Lines
