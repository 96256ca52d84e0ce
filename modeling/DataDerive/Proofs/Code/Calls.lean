import DataDerive.Code.Body

/-!
# Method calls in expressions

Which methods of a name are called in an expression, on what and with what, in
the order in which they are written, inner ones first.
-/

namespace DataDerive.Expr

mutual

/-- The receivers and the arguments of all calls of a method. -/
def calls (method : String) : Expr → List (Expr × List Expr)
  | .ident _ => []
  | .bound _ => []
  | .member _ _ => []
  | .number _ _ => []
  | .quoted _ => []
  | .throughPointer value => calls method value
  | .call function arguments => calls method function ++ callsAll method arguments
  | .method receiver name arguments =>
      calls method receiver ++ callsAll method arguments ++
        if name = method then [(receiver, arguments)] else []
  | .unit _ => []
  | .construct _ fields => fieldCallsAll method fields
  | .tuple items => callsAll method items
  | .array items => callsAll method items
  | .all conditions => callsAll method conditions
  | .identity _ => []
  | .delayed value => calls method value
  | .constant value => calls method value
  | .matching value _ => calls method value
  | .formatted _ arguments => callsAll method arguments
  | .hashOf items => callsAll method items
termination_by structural value => value

/-- The receivers and the arguments of all calls of a method in several expressions. -/
def callsAll (method : String) : List Expr → List (Expr × List Expr)
  | [] => []
  | value :: rest => calls method value ++ callsAll method rest
termination_by structural values => values

/-- The receivers and the arguments of all calls of a method in the values of fields. -/
def fieldCallsAll (method : String) : List (String × Expr) → List (Expr × List Expr)
  | [] => []
  | field :: rest => fieldCalls method field ++ fieldCallsAll method rest
termination_by structural fields => fields

/-- The receivers and the arguments of all calls of a method in the value of a field. -/
def fieldCalls (method : String) : String × Expr → List (Expr × List Expr)
  | (_, value) => calls method value
termination_by structural field => field

end

variable {method : String}

theorem callsAll_eq_flatMap (method : String) (values : List Expr) :
    callsAll method values = values.flatMap (calls method) := by
  induction values with
  | nil => rfl
  | cons value rest ih => rw [callsAll, ih, List.flatMap_cons]

theorem calls_call (function : Expr) (arguments : List Expr) :
    (call function arguments).calls method =
      function.calls method ++ arguments.flatMap (calls method) := by
  rw [calls, callsAll_eq_flatMap]

/-- A call of the method itself comes after those in its receiver and in its arguments. -/
theorem calls_method_self (receiver : Expr) (arguments : List Expr) :
    (Expr.method receiver method arguments).calls method =
      receiver.calls method ++ arguments.flatMap (calls method) ++ [(receiver, arguments)] := by
  rw [calls, callsAll_eq_flatMap, if_pos rfl]

theorem calls_method_of_ne {name : String} (other : name ≠ method) (receiver : Expr)
    (arguments : List Expr) :
    (Expr.method receiver name arguments).calls method =
      receiver.calls method ++ arguments.flatMap (calls method) := by
  rw [calls, callsAll_eq_flatMap, if_neg other, List.append_nil]

end DataDerive.Expr
