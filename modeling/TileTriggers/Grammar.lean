import TileTriggers.Vocabulary

/-!
# Operators and Their Schemas

A script pairs one condition with one action. Each side is an operator followed
by positional arguments, and the schema of the operator says how many there are
and of which kind. Text and binary scripts both follow the schema, which is why
it is stated once and apart from either.

The bytes of conditions and actions share one numbering, so a byte never names
both a condition and an action.

## Main definitions

* `FieldKind`: The kinds of arguments.
* `ConditionOp`, `ActionOp`: The operators of the two sides.
* `Operator`: An operator of either side.
* `Operator.schema`: The kinds of its arguments, in order.
-/

namespace TileTriggers

/-- The kinds of positional arguments. -/
inductive FieldKind
  /-- Whether all items must trigger or any: `AND`, `OR`. -/
  | combine
  /-- Object ids: `[id, ...]`. -/
  | idList
  /-- Cells: `[{x.y}, ...]`. -/
  | cellList
  /-- Objects to bring into the world: `[{TYPE-id-x.y}, ...]`. -/
  | spawnList
  /-- Whether the order of the items matters: `IN_ORDER`, `ANY_ORDER`. -/
  | order
  /-- How often a script fires: `ONCE`, `ALWAYS`. -/
  | repeat
  /-- A time in milliseconds. -/
  | millis
  /-- The number of another map. -/
  | mapIndex
  /-- One cell: `{x.y}`. -/
  | cell
  /-- Dialog text, unquoted and running to the end of the arguments. -/
  | text
  deriving DecidableEq, Repr

/-- The name of an argument kind in messages. -/
def FieldKind.label : FieldKind → String
  | .combine => "and-or"
  | .idList => "id-list"
  | .cellList => "cell-list"
  | .spawnList => "spawn-list"
  | .order => "order"
  | .repeat => "repeat"
  | .millis => "millis"
  | .mapIndex => "map-index"
  | .cell => "cell"
  | .text => "text"

/-- What can be waited for. -/
inductive ConditionOp
  | shootObjs | kill | get | touch | shootWalls | enter | timeElapsed
  deriving DecidableEq, Repr

/-- What can be done. -/
inductive ActionOp
  | open | close | spawn | despawn | dialog | warp | win
  deriving DecidableEq, Repr

instance : Vocabulary ConditionOp where
  words := [.shootObjs, .kill, .get, .touch, .shootWalls, .enter, .timeElapsed]
  byte
    | .shootObjs => 0
    | .kill => 1
    | .get => 2
    | .touch => 3
    | .shootWalls => 4
    | .enter => 5
    | .timeElapsed => 6
  keyword
    | .shootObjs => "SHOOT_OBJS"
    | .kill => "KILL"
    | .get => "GET"
    | .touch => "TOUCH"
    | .shootWalls => "SHOOT_WALLS"
    | .enter => "ENTER"
    | .timeElapsed => "TIME_ELAPSED"

instance : Vocabulary ActionOp where
  words := [.open, .close, .spawn, .despawn, .dialog, .warp, .win]
  byte
    | .open => 7
    | .close => 8
    | .spawn => 9
    | .despawn => 10
    | .dialog => 11
    | .warp => 12
    | .win => 13
  keyword
    | .open => "OPEN"
    | .close => "CLOSE"
    | .spawn => "SPAWN"
    | .despawn => "DESPAWN"
    | .dialog => "DIALOG"
    | .warp => "WARP"
    | .win => "WIN"

/-- The arguments of a condition operator. -/
def ConditionOp.schema : ConditionOp → List FieldKind
  | .shootObjs | .kill | .get | .touch => [.combine, .idList, .order, .repeat]
  | .shootWalls | .enter => [.combine, .cellList, .order, .repeat]
  | .timeElapsed => [.millis]

/-- The arguments of an action operator. -/
def ActionOp.schema : ActionOp → List FieldKind
  | .open | .close => [.cellList]
  | .spawn => [.spawnList]
  | .despawn => [.idList]
  | .dialog => [.text]
  | .warp => [.mapIndex, .cell]
  | .win => []

/-- An operator of either side. -/
inductive Operator
  | condition (op : ConditionOp)
  | action (op : ActionOp)
  deriving DecidableEq, Repr

namespace Operator

/-- The keyword of an operator. -/
def keyword : Operator → String
  | .condition op => Vocabulary.keyword op
  | .action op => Vocabulary.keyword op

/-- The arguments of an operator. -/
def schema : Operator → List FieldKind
  | .condition op => op.schema
  | .action op => op.schema

end Operator

end TileTriggers
