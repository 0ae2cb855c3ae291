import TileTriggers.Script.Field

/-!
# Taking Arguments

A condition or an action is built from its arguments. They are taken one by one from
the front of a list, each as the kind that is due. An argument of another kind ends the
building, and so does the end of the list. Whoever builds says what to take and in which
order, and knows nothing of the schema.

An argument that is left over at the end was never looked at, so it has to be asked for
separately. Then all that was built is given up.

## Main definitions

* `Take`: Computations that take arguments and may find none that fits.
* `Take.next`: The next argument.
* `Take.finish`: What is built from all arguments of an operator.
-/

namespace TileTriggers

/-- A computation that takes arguments from the front of a list and may find none that
    fits. -/
abbrev Take := StateT (List FieldValue) Option

namespace Take

/-- The next argument, taken for what is picked out of it. -/
def next {α : Type} (pick : FieldValue → Option α) : Take α
  | [] => none
  | value :: rest => (pick value).map fun a => (a, rest)

/-- Whether all items must trigger or any. -/
def combine : Take Combine :=
  next fun
    | .combine value => some value
    | _ => none

/-- Object ids. -/
def ids : Take (List UInt8) :=
  next fun
    | .ids values => some values
    | _ => none

/-- Several cells. -/
def cells : Take (List Cell) :=
  next fun
    | .cells values => some values
    | _ => none

/-- Objects to bring into the world. -/
def spawns : Take (List Spawn) :=
  next fun
    | .spawns values => some values
    | _ => none

/-- Whether the order of the items matters. -/
def order : Take Order :=
  next fun
    | .order value => some value
    | _ => none

/-- How often a script fires. -/
def repeats : Take Repeat :=
  next fun
    | .repeat value => some value
    | _ => none

/-- A time. -/
def millis : Take UInt32 :=
  next fun
    | .millis value => some value
    | _ => none

/-- The number of a map. -/
def mapIndex : Take UInt8 :=
  next fun
    | .mapIndex value => some value
    | _ => none

/-- One cell. -/
def cell : Take Cell :=
  next fun
    | .cell value => some value
    | _ => none

/-- A dialog text. -/
def text : Take String :=
  next fun
    | .text value => some value
    | _ => none

/-- What is built from all arguments of an operator. Arguments that are not taken are too
    many, and like those that do not fit they are refused as a whole. -/
def finish {α : Type} (op : Operator) (take : Take α) (fields : List FieldValue) :
    Except SchemaViolation α :=
  match take fields with
  | some (a, []) => .ok a
  | _ => .error (.mismatch op)

end Take

end TileTriggers
