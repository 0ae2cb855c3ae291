import TileTriggers.Script.Arguments
import TileTriggers.Script.Basic
import TileTriggers.Script.Line
import TileTriggers.Script.Token

/-!
# Compiling a Line

From the parts of a line to a script. The arguments of each side are read one by
one along the schema of the operator, the condition's before the action's, and
the first argument that cannot be read is reported. Only when all are read is
the script as a whole held against the rules of its fields, so a line with an
unreadable argument and an empty list is reported for the argument.

## Main definitions

* `readField`: One argument of a given kind.
* `readFields`: The arguments of an operator.
* `LineParts.compile`: A script from the parts of a line.
* `Script.parse`: A script from a line.
-/

namespace TileTriggers

/-- A value of an optional reading, or the given error. -/
def orError {ε α : Type} (error : ε) : Option α → Except ε α
  | some a => .ok a
  | none => .error error

/-- A spawn whose type name is looked up. -/
def NamedSpawn.resolve (s : NamedSpawn) : Except ScriptError Spawn :=
  match (Vocabulary.ofKeyword? s.name : Option TileType) with
  | some kind => .ok ⟨kind, s.id, s.cell⟩
  | none => .error (.unknownSpawnType s.name)

/-- One argument of a given kind. The error is the one to report for a token that
    cannot be read; a spawn list whose only fault is a name has its own. -/
def readField (error : ScriptError) (kind : FieldKind) (token : List Char) :
    Except ScriptError FieldValue :=
  match kind with
  | .combine => .combine <$> orError error (Token.keyword? token)
  | .idList => .ids <$> orError error (Token.list? Token.byte? token)
  | .cellList => .cells <$> orError error (Token.list? Token.cell? token)
  | .spawnList => do
    let named ← orError error (Token.list? Token.namedSpawn? token)
    return .spawns (← named.mapM NamedSpawn.resolve)
  | .order => .order <$> orError error (Token.keyword? token)
  | .repeat => .repeat <$> orError error (Token.keyword? token)
  | .millis => .millis <$> orError error (Token.millis? token)
  | .mapIndex => .mapIndex <$> orError error (Token.byte? token)
  | .cell => .cell <$> orError error (Token.cell? token)
  | .text => .text <$> orError error (Token.text? token)

/-- The arguments from position `index` on: one token for each kind of the
    schema that is left. A semicolon in the last token is a surplus argument,
    unless the token is a text. -/
def readTokens (op : Operator) : Nat → List FieldKind → List (List Char) →
    Except ScriptError (List FieldValue)
  | _, [], _ => .ok []
  | index, kind :: _, [] => .error (.missingField op index kind)
  | index, kind :: kinds, token :: tokens => do
    if token.isEmpty then
      throw (.missingField op index kind)
    if kinds.isEmpty && kind != .text && token.contains ';' then
      throw (.extraField op)
    let value ← readField (.unreadableField op index kind (String.ofList token)) kind token
    return value :: (← readTokens op (index + 1) kinds tokens)

/-- The arguments of an operator. -/
def readFields (op : Operator) (args : String) : Except ScriptError (List FieldValue) := do
  let tokens ← orError .grammarMismatch (arguments? op.schema.length args.toList)
  if op.schema.length < tokens.length then
    throw (.extraField op)
  readTokens op 0 op.schema tokens

/-- A broken rule as an error of the line. -/
def orInvalid {α : Type} (r : Except SchemaViolation α) : Except ScriptError α :=
  r.mapError .invalid

/-- The operator that a word names, blanks at its ends and the case of ASCII
    letters ignored. -/
def operator? (α : Type) [Vocabulary α] (word : String) : Option α :=
  Vocabulary.ofKeywordAnyCase? (String.ofList (Text.trim word.toList))

/-- The script with the given operators and arguments. -/
def LineParts.compile (parts : LineParts) : Except ScriptError Script := do
  let conditionOp ← orError (.unknownCondition parts.condition)
    (operator? ConditionOp parts.condition)
  let actionOp ← orError (.unknownAction parts.action) (operator? ActionOp parts.action)
  let condition ← orInvalid
    (Condition.ofFields conditionOp (← readFields (.condition conditionOp) parts.conditionArgs))
  let action ← orInvalid
    (Action.ofFields actionOp (← readFields (.action actionOp) parts.actionArgs))
  let script : Script := ⟨condition, action⟩
  match script.violation? with
  | some violation => throw (.invalid violation)
  | none => return script

/-- The script on a line. -/
def Script.parse (line : String) : Except ScriptError Script := do
  (← LineParts.ofLine line).compile

end TileTriggers
