import TileTriggers.Text.Quoted
import TileTriggers.Text.Trim
import TileTriggers.Text.Utf8
import TileTriggers.Tool.Toml.Reader
import TileTriggers.Tool.Workspace

/-!
# Settings

What a user can set once instead of on every command line: the size of new maps
and how much is logged. Settings come in layers. Each has a default, a settings
file can replace it, and an environment variable has the last word.

A settings file that is missing is no error, and neither is a name in it that
means nothing here. A file that cannot be understood is an error, and so is a
value that does not convert. Conversion is generous: a number may be given as
text, as a truth value or with a fraction.

A name can also be a path, with names behind points and numbers in brackets. It
then sets something inside of its first name, which thereby becomes a list or a
table and no longer converts. A name that is no path is taken as it is.

## Main definitions

* `Setting`: A value from any layer.
* `Setting.word?`, `Setting.text?`: The conversions.
* `SettingsLayer.set`: A layer with one more value.
* `Settings`: The settings.
* `Settings.load`: The settings that hold for a run.
-/

namespace TileTriggers

/-- A value from any layer of settings. -/
inductive Setting
  | text (value : String)
  | integer (value : Int)
  | real (value : Binary64)
  | boolean (value : Bool)
  /-- A list or a table, which no setting is made of. -/
  | compound

namespace Setting

/-- The largest number that a setting can be. -/
def maxWord : Nat := Nat.pow 2 64 - 1

/-- The number that a text spells, a truth value counting as 0 or 1. -/
def wordOfText? (text : String) : Option Nat :=
  let lowered := text.toList.map Char.toLower
  if [['t', 'r', 'u', 'e'], ['o', 'n'], ['y', 'e', 's']].contains lowered then some 1
  else if [['f', 'a', 'l', 's', 'e'], ['o', 'f', 'f'], ['n', 'o']].contains lowered then some 0
  else
    match text.toList with
    | '+' :: digits => Decimal.value? maxWord digits
    | digits => Decimal.value? maxWord digits

/-- A value as an unsigned number. -/
def word? : Setting → Option Nat
  | .text value => wordOfText? value
  | .integer value => if 0 ≤ value then some value.toNat else none
  | .real value => some (value.roundedWord maxWord)
  | .boolean value => some (if value then 1 else 0)
  | .compound => none

/-- An integer in decimal. -/
def integerText (value : Int) : String :=
  String.ofList ((if value < 0 then ['-'] else []) ++ Decimal.digits value.natAbs)

/-- A value as text. -/
def text? : Setting → Option String
  | .text value => some value
  | .integer value => some (integerText value)
  | .real value => some value.text
  | .boolean value => some (if value then "true" else "false")
  | .compound => none

/-- A value of a settings file. -/
def ofNode : Toml.Node → Setting
  | .string value => .text value
  | .integer value => .integer value
  | .float value => .real value
  | .boolean value => .boolean value
  | .dateTime value => .text value.text
  | .array _ | .table .. | .elements _ => .compound

end Setting

/-- The settings that hold for a run. -/
structure Settings where
  /-- The width of new maps whose width is not given. -/
  defaultWidth : Nat
  /-- The height of new maps whose height is not given. -/
  defaultHeight : Nat
  /-- What is logged. -/
  logLevel : String
  deriving DecidableEq, Repr

/-- Names with values, the later ones replacing the earlier. -/
abbrev SettingsLayer := List (String × Setting)

namespace SettingsLayer

/-- Whether a character can be part of a name in a path. -/
def isNameChar (c : Char) : Bool :=
  c.isAlphanum || c == '_' || c == '-'

/-- What follows a number in brackets, behind the opening one. Numbers that do not
    fit a signed machine word are none. -/
def behindIndex? (cs : List Char) : Option (List Char) := do
  let cs := cs.dropWhile Text.isSpace
  let (limit, cs) := match cs with
    | '-' :: cs => (Nat.pow 2 63, cs)
    | cs => (Nat.pow 2 63 - 1, cs)
  let (digits, cs) := cs.span Char.isDigit
  let _ ← Decimal.value? limit digits
  match cs.dropWhile Text.isSpace with
  | ']' :: cs => some cs
  | _ => none

/-- Whether a text consists of steps of a path: names behind points and numbers in
    brackets. -/
def areSteps : Nat → List Char → Bool
  | _, [] => true
  | fuel + 1, '.' :: cs =>
    match cs.span isNameChar with
    | ([], _) => false
    | (_, cs) => areSteps fuel cs
  | fuel + 1, '[' :: cs =>
    match behindIndex? cs with
    | some cs => areSteps fuel cs
    | none => false
  | _, _ => false

/-- The first name of a path that goes on behind it. -/
def pathRoot? (name : String) : Option String :=
  match name.toList.span isNameChar with
  | ([], _) | (_, []) => none
  | (root, steps) =>
    if areSteps steps.length steps then some (String.ofList root) else none

/-- A layer with a value set by name or by path. -/
def set (layer : SettingsLayer) (name : String) (value : Setting) : SettingsLayer :=
  match pathRoot? name with
  | some root => layer ++ [(root, .compound)]
  | none => layer ++ [(name, value)]

/-- A layer with a value of a settings file. A table is set entry by entry, so that
    one without entries sets nothing. -/
def setNode (layer : SettingsLayer) (name : String) : Toml.Node → SettingsLayer
  | .table _ [] => if (pathRoot? name).isSome then layer.set name .compound else layer
  | node => layer.set name (.ofNode node)

end SettingsLayer

namespace Settings

/-- What holds where nothing is set. -/
def defaults : SettingsLayer :=
  [("default_width", .integer 32), ("default_height", .integer 32), ("log_level", .text "warn")]

/-- The settings of some layers, if their values convert. -/
def ofLayer? (layer : SettingsLayer) : Option Settings := do
  let find? (name : String) : Option Setting := layer.reverse.lookup name
  return ⟨← (← find? "default_width").word?, ← (← find? "default_height").word?,
    ← (← find? "log_level").text?⟩

/-- What the names of environment variables begin with, in any case. -/
def variablePrefix : List Char :=
  ['r', 'a', 'y', 'm', 'a', 'p', '_']

/-- A character in lower case, as far as that is an ASCII letter: the Kelvin sign
    becomes one too. -/
def lowered (c : Char) : Char :=
  if c = '\u212a' then 'k' else c.toLower

/-- The layer of some environment variables. -/
def ofEnvironment (environment : List (String × String)) : SettingsLayer :=
  environment.foldl (fun layer (name, value) =>
    let name := name.toList.map lowered
    if variablePrefix.isPrefixOf name then
      layer.set (String.ofList (name.drop variablePrefix.length)) (.text value)
    else layer) []

/-- The names of a path that say something, the last one first. -/
def reversedNames (path : String) : List String :=
  ((Workspace.names path).2.filter fun name => name != "" && name != ".").reverse

/-- What follows the last point of a file's name. A point in front hides a file
    and begins no extension. -/
def extension? (name : String) : Option String :=
  let (extension, before) := name.toList.reverse.span (· != '.')
  if before.length ≤ 1 then none else some (String.ofList extension.reverse)

/-- A path with the usual extension of settings files added. -/
def withExtension? (path : String) : Option String :=
  match reversedNames path with
  | [] => none
  | name :: above =>
    if name = ".." then none
    else
      let names := ((name ++ ".toml") :: above).reverse
      some ((if path.startsWith "/" then "/" else "") ++ "/".intercalate names)

/-- The bytes of the settings file that a path means, if there is one. A file
    with another extension is never one. -/
def content? (w : Workspace) (path : String) : Option (List UInt8) :=
  match w.read path with
  | .ok bytes =>
    match reversedNames path with
    | name :: _ => if extension? name = some "toml" then some bytes else none
    | [] => none
  | .error _ => (withExtension? path).bind fun path => (w.read path).toOption

/-- Some bytes without the mark that may be in front of UTF-8. -/
def withoutMark : List UInt8 → List UInt8
  | 0xef :: 0xbb :: 0xbf :: bytes => bytes
  | bytes => bytes

/-- The layer of a settings file. A file that is not there sets nothing. -/
def ofFile? (w : Workspace) (path : String) : Option SettingsLayer :=
  match content? w path with
  | none => some []
  | some bytes => do
    let entries ← Toml.document? (Text.decodeLenient (withoutMark bytes))
    return entries.foldl (fun layer (name, node) => layer.setNode name node) []

/-- The settings that hold for a run with a settings file and an environment. -/
def load (w : Workspace) (path : String) (environment : List (String × String)) :
    Option Settings := do
  ofLayer? (defaults ++ (← ofFile? w path) ++ ofEnvironment environment)

/-- The settings as they are logged. -/
def text (s : Settings) : String :=
  "Settings \x7b default_width: " ++ toString s.defaultWidth ++ ", default_height: " ++
    toString s.defaultHeight ++ ", log_level: " ++ Text.quoted s.logLevel ++ " \x7d"

end Settings

end TileTriggers
