import TileTriggers.Script.Violation
import TileTriggers.Text.Quoted

/-!
# Errors of Script Text

Why a line is not a script. Errors about arguments carry the operator and the
position of the argument, so that their wording can name both; errors about
names carry the name as it was written.

`ErrorClass` is a coarse view for callers that only want to tell a line that was
never meant as a script from a script with a mistake in it.

## Main definitions

* `ScriptError`: What is wrong with a line.
* `ScriptError.message`: Its wording.
* `ScriptError.errorClass`: Its coarse class.
-/

namespace TileTriggers

/-- Why a line of text is not a script. -/
inductive ScriptError
  | grammarMismatch
  | unknownCondition (name : String)
  | unknownAction (name : String)
  | missingField (op : Operator) (index : Nat) (expected : FieldKind)
  | extraField (op : Operator)
  | unreadableField (op : Operator) (index : Nat) (expected : FieldKind) (token : String)
  | unknownSpawnType (name : String)
  | invalid (violation : SchemaViolation)
  deriving DecidableEq, Repr

/-- The coarse classes of errors: no script at all, an argument that cannot be
    read, or an argument that breaks a rule. -/
inductive ErrorClass
  | grammarMismatch | fieldParse | schemaViolation
  deriving DecidableEq, Repr

namespace ScriptError

/-- The class of an error. An unknown name counts as a broken rule, for the line
    has the shape of a script. -/
def errorClass : ScriptError → ErrorClass
  | .grammarMismatch => .grammarMismatch
  | .missingField .. | .extraField .. | .unreadableField .. => .fieldParse
  | .unknownCondition _ | .unknownAction _ | .unknownSpawnType _ | .invalid _ => .schemaViolation

/-- The wording of an error. Arguments are counted from one. -/
def message : ScriptError → String
  | .grammarMismatch => "not a script, expected IF <condition>(...) THEN <action>(...)"
  | .unknownCondition name => "unknown condition " ++ Text.quoted name
  | .unknownAction name => "unknown action " ++ Text.quoted name
  | .missingField op index expected =>
    s!"{op.keyword}: field {index + 1} is missing, expected {expected.label}"
  | .extraField op => s!"{op.keyword}: unexpected arguments after the last field"
  | .unreadableField op index expected token =>
    s!"{op.keyword}: field {index + 1} " ++ Text.quoted token ++
      s!" is not a valid {expected.label}"
  | .unknownSpawnType name => "unknown spawn type " ++ Text.quoted name
  | .invalid violation => violation.message

end ScriptError

end TileTriggers
