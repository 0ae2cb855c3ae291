import TileTriggers.Map.Event
import TileTriggers.Pattern.Reader
import TileTriggers.Text.Trim

/-!
# Log Filters

Which records are shown. A filter is written as directives separated by commas:
a level, the start of a source's name, or both around an equals sign. A record
is judged by the directive with the longest name that its source begins with,
and a directive without a name judges all others.

Filters can be laid over one another. A later directive replaces an earlier one
of the same name, and the rest stay in force. What cannot be understood is passed
over. Behind a slash there may be a pattern that has to occur in messages.

## Main definitions

* `Record`: A line of the log.
* `Directive`: How much is shown of some sources.
* `LogFilter`: Directives, and what has to occur in messages.
* `LogFilter.parse`: A filter with the directives of a text laid over it.
* `LogFilter.shows`: Whether a record is shown.
-/

namespace TileTriggers

/-- A line of the log. -/
structure Record where
  level : Level
  source : String
  message : String
  deriving DecidableEq, Repr

/-- A record as it is shown. -/
def Record.text (r : Record) : String :=
  r.level.label ++ " " ++ r.source ++ ": " ++ r.message

/-- How much is shown of the sources whose names begin in some way. -/
structure Directive where
  name : Option (List Char)
  verbosity : Nat
  deriving DecidableEq, Repr

/-- Which records are shown. -/
structure LogFilter where
  directives : List Directive
  pattern : Option Pattern
  deriving DecidableEq, Repr

namespace LogFilter

/-- The filter without a directive. -/
def empty : LogFilter :=
  ⟨[], none⟩

/-- The verbosity of a level's name, in any case. -/
def verbosity? (name : List Char) : Option Nat :=
  let lowered := name.map Char.toLower
  if lowered = ['o', 'f', 'f'] then some 0
  else
    ([.error, .warn, .info, .debug, .trace] : List Level).findSome? fun level =>
      if level.label.toList.map Char.toLower = lowered then some level.verbosity else none

/-- The verbosity at which everything is shown. -/
def everything : Nat := Level.trace.verbosity

/-- The directive of a text, if it can be understood. -/
def directive? (text : List Char) : Option Directive :=
  match text.splitOn '=' with
  | [name] =>
    match verbosity? name with
    | some verbosity => some ⟨none, verbosity⟩
    | none => some ⟨some name, everything⟩
  | [name, level] =>
    let level := Text.trim level
    if level.isEmpty then some ⟨some name, everything⟩
    else (verbosity? level).map fun verbosity => ⟨some name, verbosity⟩
  | _ => none

/-- The directives with one more, which replaces the one of its name. -/
def add (directives : List Directive) (d : Directive) : List Directive :=
  if directives.any (·.name == d.name) then
    directives.map fun former => if former.name == d.name then d else former
  else directives ++ [d]

/-- A filter with the directives of a text laid over it. -/
def parse (f : LogFilter) (text : String) : LogFilter :=
  match text.toList.splitOn '/' with
  | directives :: rest =>
    if 1 < rest.length then { f with pattern := none }
    else
      let parts := ((directives.splitOn ',').map Text.trim).filter (!·.isEmpty)
      ⟨(parts.filterMap directive?).foldl add f.directives, rest.head?.bind Pattern.ofText?⟩
  | [] => f

/-- How much is shown of a source. The longest name wins, and of several equally
    long ones the last. Without any directive only errors are shown. -/
def verbosityOf (f : LogFilter) (source : String) : Nat :=
  let length (d : Directive) : Nat := (String.ofList (d.name.getD [])).utf8ByteSize
  let judges (d : Directive) : Bool := (d.name.getD []).isPrefixOf source.toList
  let best? := (f.directives.filter judges).foldl (fun best d =>
    match best with
    | some b => if length b ≤ length d then some d else some b
    | none => some d) none
  match best? with
  | some d => d.verbosity
  | none => if f.directives.isEmpty then Level.error.verbosity else 0

/-- Whether a record is shown. -/
def shows (f : LogFilter) (r : Record) : Bool :=
  r.level.verbosity ≤ f.verbosityOf r.source &&
    f.pattern.all (·.occursIn r.message.toList)

end LogFilter

end TileTriggers
