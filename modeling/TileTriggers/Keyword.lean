import TileTriggers.Vocabulary

/-!
# Argument Keywords

The three two-valued arguments that every list-watching condition takes. Each
is written as its exact upper-case keyword in script text and as the byte 0 or 1
in a payload; unlike operators they are not matched across cases.

## Main definitions

* `Combine`: Whether all listed items must trigger or any one of them.
* `Order`: Whether the items must trigger in the listed order.
* `Repeat`: Whether a script fires once or again and again.
-/

namespace TileTriggers

/-- Whether every listed item must trigger or any one of them. -/
inductive Combine
  | and | or
  deriving DecidableEq, Repr

/-- Whether the listed items must trigger in the listed order. -/
inductive Order
  | inOrder | anyOrder
  deriving DecidableEq, Repr

/-- Whether a script fires once or is armed again after it fired. -/
inductive Repeat
  | once | always
  deriving DecidableEq, Repr

instance : Vocabulary Combine where
  words := [.and, .or]
  byte
    | .and => 0
    | .or => 1
  keyword
    | .and => "AND"
    | .or => "OR"

instance : Vocabulary Order where
  words := [.inOrder, .anyOrder]
  byte
    | .inOrder => 0
    | .anyOrder => 1
  keyword
    | .inOrder => "IN_ORDER"
    | .anyOrder => "ANY_ORDER"

instance : Vocabulary Repeat where
  words := [.once, .always]
  byte
    | .once => 0
    | .always => 1
  keyword
    | .once => "ONCE"
    | .always => "ALWAYS"

end TileTriggers
