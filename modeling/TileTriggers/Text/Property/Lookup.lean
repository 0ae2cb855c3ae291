import TileTriggers.Text.Property.Age
import TileTriggers.Text.Property.Case
import TileTriggers.Text.Property.Category
import TileTriggers.Text.Property.Identifier
import TileTriggers.Text.Property.Script
import TileTriggers.Text.Property.Usage

/-!
# Looking Properties up

A property is asked for by one name, or by the name of a kind of property and a value
of that kind. One name alone means a property that characters have or have not, a
general category or a script, in this order.

## Main definitions

* `Property.normalized`: A name as it stands in the tables.
* `Property.named?`: The characters with a property.
* `Property.valued?`: The characters with some value of a kind of property.
-/

namespace TileTriggers

namespace Text

namespace Property

/-- A name as it stands in the tables: ASCII characters alone, in lower case and
    without blanks, hyphens and underscores. An "is" in front says nothing. -/
def normalized (name : List Char) : String :=
  let plain (cs : List Char) : List Char :=
    (cs.filter fun c => c.toNat < 0x80 && c != ' ' && c != '_' && c != '-').map Char.toLower
  match name with
  | i :: s :: rest =>
    if i.toLower = 'i' ∧ s.toLower = 's' then
      if plain rest = ['c'] then "isc" else String.ofList (plain rest)
    else String.ofList (plain name)
  | _ => String.ofList (plain name)

/-- The characters of a general category or of a group of them. -/
def category? (name : String) : Option Ranges :=
  match name with
  | "any" => some Ranges.everything
  | "ascii" => some [(0, 0x7f)]
  | "assigned" => (find? categories "unassigned").map Ranges.complement
  | name =>
    match categoryGroups.find? fun group => group.1.contains name with
    | some (_, members) => (members.mapM (find? categories)).map fun sets =>
      Ranges.ofPairs sets.flatten
    | none => find? categories name

/-- The characters with a property that characters have or have not. -/
def binary? (name : String) : Option Ranges :=
  ((find? identifierProperties name).or (find? caseProperties name)).or
    (find? usageProperties name)

/-- The characters of a script. -/
def script? (name : String) : Option Ranges :=
  find? scripts name

/-- The characters that a script uses, those included that others use as well. What
    is common or inherited is what no script is known to use. -/
def scriptExtension? (name : String) : Option Ranges := do
  let own ← script? name
  let entry ← scripts.find? fun p => p.names.contains name
  if entry.names.contains "common" || entry.names.contains "inherited" then
    return Ranges.minus own (Ranges.ofPairs (scriptExtensions.flatMap ranges))
  else
    let more := (entry.names.findSome? (find? scriptExtensions)).getD []
    return Ranges.union own more

/-- The characters that a version of the standard has. -/
def age? (name : String) : Option Ranges :=
  let former := ages.takeWhile fun p => !p.names.contains name
  match ages[former.length]? with
  | some last => some (Ranges.ofPairs ((former ++ [last]).flatMap ranges))
  | none => none

/-- The characters with the property of one name. -/
def named? (name : List Char) : Option Ranges :=
  let name := normalized name
  ((binary? name).or (category? name)).or (script? name)

/-- The characters with some value of a kind of property. -/
def valued? (kind value : List Char) : Option Ranges :=
  let value := normalized value
  match normalized kind with
  | "gc" | "generalcategory" => category? value
  | "sc" | "script" => script? value
  | "scx" | "scriptextensions" => scriptExtension? value
  | "age" => age? value
  | _ => none

end Property

end Text

end TileTriggers
