import TileTriggers.Map.Edit
import TileTriggers.Map.File

/-!
# Histories of Documents

Where a document can come from. Every document begins as a blank map or as a file
and is edited from there, and an edit that is refused counts as one that changes
nothing: whoever holds the document goes on with the one from before.

What holds of the beginnings and survives each edit therefore holds of every
document that there is. `Reachable` is the relation to prove it by, and keeps the
operations themselves free of conditions on their arguments.

## Main definitions

* `Edit`: One edit, with its arguments.
* `Document.apply`: The result of an edit, or why it was refused.
* `Document.after`: The document that an edit leaves behind in either case.
* `Document.Reachable`: The documents that a history leads to.
-/

namespace TileTriggers

/-- One edit of a document. -/
inductive Edit
  /-- Paint a cell. -/
  | place (x y : Nat) (kind : TileType)
  /-- Change the size. -/
  | resize (width height : Nat)
  /-- Replace the scripts. -/
  | setScriptText (listing : String)
  deriving DecidableEq, Repr

namespace Document

/-- The result of an edit, or why it was refused. -/
def apply (d : Document) : Edit → Except MapError (Logged Document)
  | .place x y kind => d.place x y kind
  | .resize width height => (d.resize width height).mapError .capacity
  | .setScriptText listing => .ok (d.setScriptText listing)

/-- The document that an edit leaves behind, refused or not. -/
def after (d : Document) (e : Edit) : Document :=
  match d.apply e with
  | .ok edited => edited.value
  | .error _ => d

/-- The documents that some history leads to. -/
inductive Reachable : Document → Prop
  /-- A blank map is the beginning of a history. -/
  | new {width height : Nat} {d : Document} (h : Document.new width height = .ok d) :
      Reachable d
  /-- A map file is the beginning of a history. -/
  | load {data : List UInt8} {loaded : Logged Document} (h : Document.load data = .ok loaded) :
      Reachable loaded.value
  /-- Every edit continues a history. -/
  | after {d : Document} (h : Reachable d) (e : Edit) : Reachable (d.after e)

end Document

end TileTriggers
