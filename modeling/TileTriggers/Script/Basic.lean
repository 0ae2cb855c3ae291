import TileTriggers.Script.Take

/-!
# Scripts

A script says: when the condition holds, perform the action. Each side is an
inductive type whose constructors carry exactly what their operator takes, so a
script cannot hold an argument too many or of the wrong kind.

Between this form and the positional one stand `fields` and `ofFields`, which
are inverse to each other along the schema of the operator. Everything that
handles arguments by position, both readers and both writers, goes through these
two functions.

## Main definitions

* `Trigger`: The arguments of the list-watching conditions.
* `Condition`, `Action`: The two sides of a script.
* `Condition.fields`, `Condition.ofFields`: The positional form and back; the
  same for actions.
* `Script`: A condition with an action.
* `Script.violation?`: The first rule that a script breaks.
* `Script.text`: The canonical line of a script.
-/

namespace TileTriggers

/-- What to watch, and how the watched items count. -/
structure Trigger (α : Type) where
  combine : Combine
  items : List α
  order : Order
  repeats : Repeat
  deriving DecidableEq, Repr

/-- The positional form of a trigger, its items wrapped as one argument. -/
def Trigger.fields {α : Type} (wrap : List α → FieldValue) (t : Trigger α) : List FieldValue :=
  [.combine t.combine, wrap t.items, .order t.order, .repeat t.repeats]

/-- The arguments of a trigger, its items taken as they are wrapped. -/
def Take.trigger {α : Type} (items : Take (List α)) : Take (Trigger α) := do
  return ⟨← combine, ← items, ← order, ← repeats⟩

/-- What a script waits for. -/
inductive Condition
  /-- Objects were shot. -/
  | shootObjs (trigger : Trigger UInt8)
  /-- Enemies were killed. -/
  | kill (trigger : Trigger UInt8)
  /-- Items were picked up. -/
  | get (trigger : Trigger UInt8)
  /-- Objects were touched. -/
  | touch (trigger : Trigger UInt8)
  /-- Walls were shot. -/
  | shootWalls (trigger : Trigger Cell)
  /-- Cells were entered. -/
  | enter (trigger : Trigger Cell)
  /-- Time went by. -/
  | timeElapsed (millis : UInt32)
  deriving DecidableEq, Repr

namespace Condition

/-- The operator of a condition. -/
def op : Condition → ConditionOp
  | .shootObjs _ => .shootObjs
  | .kill _ => .kill
  | .get _ => .get
  | .touch _ => .touch
  | .shootWalls _ => .shootWalls
  | .enter _ => .enter
  | .timeElapsed _ => .timeElapsed

/-- The positional form of a condition, in the order of the operator's schema. -/
def fields : Condition → List FieldValue
  | .shootObjs t | .kill t | .get t | .touch t => t.fields .ids
  | .shootWalls t | .enter t => t.fields .cells
  | .timeElapsed ms => [.millis ms]

/-- What a condition with an operator is built from. -/
def take : ConditionOp → Take Condition
  | .shootObjs => .shootObjs <$> Take.trigger Take.ids
  | .kill => .kill <$> Take.trigger Take.ids
  | .get => .get <$> Take.trigger Take.ids
  | .touch => .touch <$> Take.trigger Take.ids
  | .shootWalls => .shootWalls <$> Take.trigger Take.cells
  | .enter => .enter <$> Take.trigger Take.cells
  | .timeElapsed => .timeElapsed <$> Take.millis

/-- The condition with an operator and positional arguments; arguments that do
    not follow the schema are refused as a whole. -/
def ofFields (op : ConditionOp) (fields : List FieldValue) : Except SchemaViolation Condition :=
  (take op).finish (.condition op) fields

end Condition

/-- What a script does. -/
inductive Action
  /-- Open doors. -/
  | open (cells : List Cell)
  /-- Close doors. -/
  | close (cells : List Cell)
  /-- Bring objects into the world. -/
  | spawn (spawns : List Spawn)
  /-- Remove objects from the world. -/
  | despawn (ids : List UInt8)
  /-- Show a dialog. -/
  | dialog (text : String)
  /-- Move the player to a cell of another map. -/
  | warp (map : UInt8) (cell : Cell)
  /-- End the game. -/
  | win
  deriving DecidableEq, Repr

namespace Action

/-- The operator of an action. -/
def op : Action → ActionOp
  | .open _ => .open
  | .close _ => .close
  | .spawn _ => .spawn
  | .despawn _ => .despawn
  | .dialog _ => .dialog
  | .warp _ _ => .warp
  | .win => .win

/-- The positional form of an action, in the order of the operator's schema. -/
def fields : Action → List FieldValue
  | .open cells | .close cells => [.cells cells]
  | .spawn spawns => [.spawns spawns]
  | .despawn ids => [.ids ids]
  | .dialog text => [.text text]
  | .warp map cell => [.mapIndex map, .cell cell]
  | .win => []

/-- What an action with an operator is built from. -/
def take : ActionOp → Take Action
  | .open => .open <$> Take.cells
  | .close => .close <$> Take.cells
  | .spawn => .spawn <$> Take.spawns
  | .despawn => .despawn <$> Take.ids
  | .dialog => .dialog <$> Take.text
  | .warp => do return .warp (← Take.mapIndex) (← Take.cell)
  | .win => pure .win

/-- The action with an operator and positional arguments; arguments that do not
    follow the schema are refused as a whole. -/
def ofFields (op : ActionOp) (fields : List FieldValue) : Except SchemaViolation Action :=
  (take op).finish (.action op) fields

/-- The objects that an action brings into the world. -/
def spawns : Action → List Spawn
  | .spawn spawns => spawns
  | _ => []

end Action

/-- A complete script: when the condition holds, perform the action. -/
structure Script where
  condition : Condition
  action : Action
  deriving DecidableEq, Repr

namespace Script

/-- All arguments of a script, those of the condition first. -/
def fields (s : Script) : List FieldValue :=
  s.condition.fields ++ s.action.fields

/-- The first rule that a script breaks. -/
def violation? (s : Script) : Option SchemaViolation :=
  s.fields.findSome? FieldValue.violation?

/-- A script that breaks no rule. -/
def Valid (s : Script) : Prop :=
  s.violation? = none

instance (s : Script) : Decidable s.Valid :=
  inferInstanceAs (Decidable (s.violation? = none))

/-- The ids of the objects that a script brings into the world, in order. -/
def spawnIds (s : Script) : List UInt8 :=
  s.action.spawns.map Spawn.id

/-- An operator with its arguments in parentheses, separated by semicolons. -/
def renderCall (keyword : String) (fields : List FieldValue) : List Char :=
  keyword.toList ++ '(' :: ([';', ' '].intercalate (fields.map FieldValue.render) ++ [')'])

/-- The canonical line of a script, as characters. -/
def render (s : Script) : List Char :=
  "IF ".toList ++ renderCall (Vocabulary.keyword s.condition.op) s.condition.fields ++
    " THEN ".toList ++ renderCall (Vocabulary.keyword s.action.op) s.action.fields

/-- The canonical line of a script. -/
def text (s : Script) : String :=
  String.ofList s.render

end Script

end TileTriggers
