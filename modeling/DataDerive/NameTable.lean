/-!
# Names in the order in which they arrive

A table that numbers the names given to it in the order in which they first
arrive.  The empty name is there from the start with number zero.  Giving a
name again changes nothing, so a number stands for one name for ever.

A table is looked up from both sides: the numbers are kept by name, and the
names in the order of their numbers.  A number has thirty-two bits, so there is
none for a new name in a table that holds all of them.

Where no numbers are needed, names are listed in the order of their first
occurrence.  `distinct` keeps the first of equal members; nothing is lost and
nothing is repeated.
-/

namespace DataDerive

/-- Names and their numbers. -/
structure NameTable where
  /-- The number of each name. -/
  numbers : List (String × Nat)
  /-- The names in the order of their numbers. -/
  names : List String
  deriving Repr, DecidableEq

namespace NameTable

/-- The table of the empty name alone. -/
def start : NameTable := ⟨[("", 0)], [""]⟩

/-- The number that a table has for a name. -/
def number? (table : NameTable) (name : String) : Option Nat :=
  table.numbers.lookup name

/-- How many names there are, the empty name among them. -/
def size (table : NameTable) : Nat :=
  table.names.length

/-- The table with the next number for one more name. -/
def add (table : NameTable) (name : String) : NameTable :=
  ⟨(name, table.size) :: table.numbers, table.names ++ [name]⟩

/-- The number of a name, and the table that holds it. -/
def insert (table : NameTable) (name : String) : Nat × NameTable :=
  match table.number? name with
  | some number => (number, table)
  | none => (table.size, table.add name)

/-- No number is left for a name, after so many names. -/
structure Overflow where
  count : Nat
  deriving Repr, DecidableEq

/-- What an overflow says. -/
def Overflow.message (overflow : Overflow) : String :=
  s!"interner exceeded capacity: {overflow.count} strings, max is {UInt32.size - 1}"

/-- Insert a name if there is a number for it. -/
def tryInsert (table : NameTable) (name : String) : Except Overflow (Nat × NameTable) :=
  match table.number? name with
  | some number => .ok (number, table)
  | none =>
      if table.size < UInt32.size then
        .ok (table.size, table.add name)
      else
        .error ⟨table.size⟩

/-- The name with a number; the empty name if there is none. -/
def lookup (table : NameTable) (number : Nat) : String :=
  table.names[number]?.getD ""

/-- Whether there is no other name than the empty one. -/
def isEmpty (table : NameTable) : Bool :=
  table.size ≤ 1

end NameTable

/-! ## First occurrences -/

/-- The members of a list in the order of their first occurrence, each once. -/
def distinct {α : Type} [DecidableEq α] : List α → List α
  | [] => []
  | member :: rest => member :: (distinct rest).filter (· ≠ member)

@[simp]
theorem mem_distinct {α : Type} [DecidableEq α] {member : α} {members : List α} :
    member ∈ distinct members ↔ member ∈ members := by
  induction members with
  | nil => simp [distinct]
  | cons first rest ih =>
      by_cases same : member = first <;> simp [distinct, ih, same]

theorem nodup_distinct {α : Type} [DecidableEq α] (members : List α) :
    (distinct members).Nodup := by
  induction members with
  | nil => simp [distinct]
  | cons first rest ih =>
      rw [distinct, List.nodup_cons]
      exact ⟨by simp, ih.filter _⟩

end DataDerive
