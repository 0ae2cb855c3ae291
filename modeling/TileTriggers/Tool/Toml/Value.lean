import TileTriggers.Binary64
import TileTriggers.Tool.Toml.DateTime

/-!
# TOML Documents

A TOML document is a table of named values, some of which are tables themselves.
The text may come back to a table in several places, by headers and by dotted
keys, and most of the rules of the format are about which of those ways may be
mixed. Every table therefore remembers how it came about.

A table with a header of its own, or written inline, is complete when its text
ends, except that headers of subtables may still follow. A table that was only
implied by a longer header can get its own header later, or be completed by dotted
keys instead. A table made or completed by dotted keys can be extended by dotted
keys, and has no header.

## Main definitions

* `Toml.Node`: A value.
* `Toml.putDotted`: Adds a value under a dotted key.
* `Toml.within`: Works on the table that a header leads to.
* `Toml.openTable`, `Toml.openElement`: What a header does to that table.
-/

namespace TileTriggers

namespace Toml

/-- How a table came about. -/
inductive Origin
  /-- By a header of its own. -/
  | header
  /-- By a header of one of its subtables. -/
  | implied
  /-- By dotted keys. -/
  | dotted
  /-- As a value between braces. -/
  | inlined
  deriving DecidableEq, Repr

/-- A value of a document. -/
inductive Node
  | string (text : String)
  | integer (value : Int)
  | float (value : Binary64)
  | boolean (value : Bool)
  | dateTime (value : DateTime)
  | array (items : List Node)
  | table (origin : Origin) (entries : List (String × Node))
  /-- Tables that share a double header, the latest first. -/
  | elements (tables : List (List (String × Node)))

/-- The entries of a table, in order. -/
abbrev Entries := List (String × Node)

/-- The entries with the value of a name replaced. -/
def replace (entries : Entries) (name : String) (node : Node) : Entries :=
  entries.map fun entry => if entry.1 == name then (name, node) else entry

/-- Adds a value under a dotted key, the names before the last one being those of
    tables. None of them may be complete, and the last one, which the value goes
    to, has a header no more. Of several tables with one header the key can only
    pass through the latest. -/
def putDotted (name : String) (node : Node) : List String → Entries → Option Entries
  | [], entries =>
    if (entries.lookup name).isSome then none else some (entries ++ [(name, node)])
  | table :: tables, entries =>
    match entries.lookup table with
    | none => do return entries ++ [(table, .table .dotted (← putDotted name node tables []))]
    | some (.table origin inner) =>
      if origin = .implied ∨ origin = .dotted then do
        let inner ← putDotted name node tables inner
        let origin := if tables.isEmpty then .dotted else origin
        return replace entries table (.table origin inner)
      else none
    | some (.elements (latest :: former)) =>
      if tables.isEmpty then none
      else do
        return replace entries table (.elements ((← putDotted name node tables latest) :: former))
    | some _ => none

/-- Works on the table that the names of a header lead to. Tables that do not
    exist yet are implied, and of several with one header the latest is meant. -/
def within (work : Entries → Option Entries) : List String → Entries → Option Entries
  | [], entries => work entries
  | table :: tables, entries =>
    match entries.lookup table with
    | none => do return entries ++ [(table, .table .implied (← within work tables []))]
    | some (.table .inlined _) => none
    | some (.table origin inner) => do
      return replace entries table (.table origin (← within work tables inner))
    | some (.elements (latest :: former)) => do
      return replace entries table (.elements ((← within work tables latest) :: former))
    | some _ => none

/-- What a header does to the table above: it makes a table of its last name, or
    completes one that was implied so far. -/
def openTable (name : String) (entries : Entries) : Option Entries :=
  match entries.lookup name with
  | none => some (entries ++ [(name, .table .header [])])
  | some (.table .implied inner) => some (replace entries name (.table .header inner))
  | some _ => none

/-- What a double header does to the table above: it begins another table among
    those of its last name. -/
def openElement (name : String) (entries : Entries) : Option Entries :=
  match entries.lookup name with
  | none => some (entries ++ [(name, .elements [[]])])
  | some (.elements tables) => some (replace entries name (.elements ([] :: tables)))
  | some _ => none

end Toml

end TileTriggers
