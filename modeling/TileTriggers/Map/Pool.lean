import TileTriggers.Map.Event
import TileTriggers.Map.IdSet

/-!
# The Pool of Object Ids

Every object of a map has an id of its own, whether it stands on a tile or a
script brings it into the world. The pool knows which ids are in use and hands
out new ones.

An id is handed out by going round from a probe to the next free one and leaving
the probe behind it. An id that was just given up is therefore not handed out
again until the probe has come round to it, so objects that follow each other on
the same cell get different ids as long as there are ids to spare.

## Main definitions

* `Pool`: The ids in use and the probe.
* `Pool.allocate?`: The next free id.
* `Pool.release`, `Pool.reserve`, `Pool.clear`, `Pool.retain`: Changes to the ids in use.
-/

namespace TileTriggers

/-- The ids in use, and where the search for the next free one begins. -/
structure Pool where
  probe : UInt8
  used : IdSet
  deriving DecidableEq, Repr

namespace Pool

/-- The pool with no id in use, which hands out 0 first. -/
def fresh : Pool :=
  ⟨0, .empty⟩

/-- Whether an id is in use. -/
def contains (p : Pool) (id : UInt8) : Bool :=
  p.used.contains id

/-- All ids in the order in which the search meets them: from the probe upwards,
    and on from 0 behind 255. -/
def searchOrder (p : Pool) : List UInt8 :=
  allIds.map (p.probe + ·)

/-- The next free id, if there is one. -/
def nextFree? (p : Pool) : Option UInt8 :=
  p.searchOrder.find? fun id => !p.contains id

/-- Hands out the next free id and moves the probe behind it. -/
def allocate? (p : Pool) : Option (Logged (UInt8 × Pool)) :=
  p.nextFree?.map fun id => ⟨(id, ⟨id + 1, p.used.insert id⟩), [.allocated id]⟩

/-- Gives an id back. It is no event to give back an id that is not in use. -/
def release (p : Pool) (id : UInt8) : Logged Pool :=
  if p.contains id then ⟨{ p with used := p.used.erase id }, [.released id]⟩ else .silent p

/-- Marks an id as used that was not handed out here. -/
def reserve (p : Pool) (id : UInt8) : Pool :=
  { p with used := p.used.insert id }

/-- Gives all ids back without telling, and begins again at the first. -/
def clear (p : Pool) : Pool :=
  { p with probe := 0, used := .empty }

/-- Gives back every id that fails a test, in ascending order. -/
def retain (p : Pool) (keep : UInt8 → Bool) : Logged Pool :=
  ⟨{ p with used := p.used.filter keep },
    (p.used.toList.filter fun id => !keep id).map .released⟩

end Pool

end TileTriggers
