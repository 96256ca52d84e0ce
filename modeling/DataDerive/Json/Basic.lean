/-!
# JSON values

A JSON document as a tree.  The members of an object keep their order, and a
key may occur more than once, because a reader of objects has to see that.
-/

namespace DataDerive

namespace Json

/--
A number.  A plain sequence of digits is a natural number; every other number
is kept as it was written.
-/
inductive Number where
  | natural (value : Nat)
  | other (literal : String)
  deriving Repr, DecidableEq, Inhabited

end Json

/-- A JSON value. -/
inductive Json where
  | null
  | bool (value : Bool)
  | number (value : Json.Number)
  | string (value : String)
  | array (items : List Json)
  | object (members : List (String × Json))
  deriving Repr, Inhabited

namespace Json

/-- A natural number as a JSON value. -/
def nat (value : Nat) : Json :=
  .number (.natural value)

/-- The values of an object under a key, in their order. -/
def valuesOf (key : String) (members : List (String × Json)) : List Json :=
  (members.filter fun member => member.1 == key).map Prod.snd

end Json

end DataDerive
