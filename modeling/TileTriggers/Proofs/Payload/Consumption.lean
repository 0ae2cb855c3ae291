import TileTriggers.Proofs.Payload.Sequential

/-!
# Runs of Reads

Whoever takes data apart piece by piece, and goes on after a piece that was not there,
relies on the position: it has to tell how much of the data is used up, whatever was
read before and however often that failed. It does. What was found, put in a row, is the
data up to the position, and the rest of the data is what remains. So nothing is skipped,
nothing is read twice, and no read moves on without having found something.

A read asks for some number of bytes and gets them or fails, and it fails only if there
are less. The position moves on by as much as was asked for, and only after it is known
that there is as much. That is why the sum is safe even where positions are machine
words and a read may ask for any number of bytes: a sum that is formed is a position in
the data, and what is out of reach is refused without a sum.

Numbers are found as numbers. To be put in a row with the rest they are written out
again, which is no loss as long as they fit their bytes.

## Main definitions

* `Read.Request`: One read.
* `Read.Found`: What a read finds.
* `Read.Request.asked`: How many bytes a read asks for.
* `Read.run`: Some reads one after the other.
* `Read.consumed`: What the reads of a run found, put in a row.
* `Read.Continues`: What a read does at the end of a run.

## Theorems

* `Read.bytes_of_le`, `Read.bytes_of_lt`: When there are enough bytes, and when not.
* `Read.Request.read_cases`: One read.
* `Read.run_concat`: One more read.
* `Read.take_run`: Any reads, from any place in the data.
* `Read.continues`: What comes of the next read.
* `Read.run_accounts`: Any reads, from the start of the data.
-/

namespace TileTriggers

namespace Read

/-- One read. -/
inductive Request
  /-- The next byte. -/
  | byte
  /-- The number that the next so many bytes spell. -/
  | number (width : Nat)
  /-- The next so many bytes. -/
  | bytes (n : Nat)
  /-- Everything that is left. -/
  | rest
  deriving DecidableEq, Repr

/-- What a read finds. -/
inductive Found
  | byte (b : UInt8)
  | number (width n : Nat)
  | bytes (bs : List UInt8)
  deriving DecidableEq, Repr

/-- The bytes in which something was found, a number being written out again. -/
def Found.spelling : Found → List UInt8
  | .byte b => [b]
  | .number width n => bigEndian width n
  | .bytes bs => bs

namespace Request

/-- The reader that is called. -/
def read : Request → Read FormatError Found
  | .byte => .byte <$> Read.byte
  | .number width => .number width <$> Read.number width
  | .bytes n => .bytes <$> Read.bytes n
  | .rest => .bytes <$> Read.rest

/-- How many bytes a read asks for. -/
def asked (c : Cursor) : Request → Nat
  | .byte => 1
  | .number width => width
  | .bytes n => n
  | .rest => c.remaining

/-- What is found is of the sort that was asked for, and a number fits its bytes. -/
def Answers : Request → Found → Prop
  | .byte, .byte _ => True
  | .number width, .number width' n => width' = width ∧ n < 256 ^ width
  | .bytes _, .bytes _ => True
  | .rest, .bytes _ => True
  | _, _ => False

end Request

/-- Some reads one after the other: the outcome of each, and the cursor behind them. A
    read that fails is passed over, and the next one begins in its place. -/
def run : List Request → Cursor → List (Except FormatError Found) × Cursor
  | [], c => ([], c)
  | call :: calls, c =>
    match call.read c with
    | .ok (found, next) => (.ok found :: (run calls next).1, (run calls next).2)
    | .error e => (.error e :: (run calls c).1, (run calls c).2)

/-- What the reads of a run found, put in a row. -/
def consumed (outcomes : List (Except FormatError Found)) : List UInt8 :=
  (outcomes.filterMap Except.toOption).flatMap Found.spelling

section One

variable (c : Cursor)

/-- Bytes are there or are missed where the first of them should be. -/
theorem bytes_of_le {n : Nat} (h : n ≤ c.remaining) :
    bytes n c = .ok (c.unread.take n, ⟨c.position + n, c.unread.drop n⟩) := by
  have hlength : (c.unread.take n).length = n := List.length_take_of_le h
  simp only [bytes, hlength, Nat.lt_irrefl, if_false]

theorem bytes_of_lt {n : Nat} (h : c.remaining < n) :
    bytes n c = .error (.unexpectedEnd c.position) := by
  have hlength : (c.unread.take n).length < n :=
    Nat.lt_of_le_of_lt (List.length_take_le' n c.unread) h
  simp only [bytes, hlength, if_true]

/-- The same value in another form is missed for the same reason. -/
theorem map_of_error {ε α β : Type} {r : Read ε α} {c : Cursor} {e : ε} (f : α → β)
    (h : r c = .error e) : (f <$> r) c = .error e := by
  rw [map_eq_pure_bind, bind_eq_error_iff]
  exact Or.inl h

/-- A read fails if there is less than it asks for, and names the place where it is. If
    there is enough, it takes as much as it asks for. -/
theorem Request.read_cases (call : Request) :
    (c.remaining < call.asked c ∧ call.read c = .error (.unexpectedEnd c.position)) ∨
      call.asked c ≤ c.remaining ∧ ∃ found, call.Answers found ∧
        found.spelling = c.unread.take (call.asked c) ∧
        call.read c =
          .ok (found, ⟨c.position + call.asked c, c.unread.drop (call.asked c)⟩) := by
  cases call with
  | byte =>
      -- A single byte is taken from the front, without counting what is there.
      rcases c with ⟨position, unread⟩
      cases unread with
      | nil => exact Or.inl ⟨Nat.zero_lt_one, rfl⟩
      | cons b rest =>
          exact Or.inr ⟨Nat.succ_le_succ (Nat.zero_le _), .byte b, trivial, rfl, rfl⟩
  | number width =>
      rcases Nat.lt_or_ge c.remaining width with hshort | henough
      · exact Or.inl ⟨hshort, map_of_error _ (map_of_error _ (bytes_of_lt c hshort))⟩
      · -- The number is written out again in the bytes that spell it.
        have hlength : (c.unread.take width).length = width := List.length_take_of_le henough
        have hfits := ofBigEndian_lt (c.unread.take width)
        have hspelling := bigEndian_ofBigEndian (c.unread.take width)
        rw [hlength] at hfits hspelling
        refine Or.inr ⟨henough, .number width (ofBigEndian (c.unread.take width)), ⟨rfl, hfits⟩,
          hspelling, ?_⟩
        exact map_eq_ok_iff.mpr ⟨_, map_eq_ok_iff.mpr ⟨_, bytes_of_le c henough, rfl⟩, rfl⟩
  | bytes n =>
      rcases Nat.lt_or_ge c.remaining n with hshort | henough
      · exact Or.inl ⟨hshort, map_of_error _ (bytes_of_lt c hshort)⟩
      · refine Or.inr ⟨henough, .bytes (c.unread.take n), trivial, rfl, ?_⟩
        exact map_eq_ok_iff.mpr ⟨_, bytes_of_le c henough, rfl⟩
  | rest =>
      -- There is always enough, since this asks for what there is.
      refine Or.inr ⟨Nat.le_refl _, .bytes c.unread, trivial, ?_, ?_⟩
      · exact (List.take_length (l := c.unread)).symm
      · refine map_eq_ok_iff.mpr ⟨c.unread, ?_, rfl⟩
        rw [Request.asked, Cursor.remaining, List.drop_length]
        rfl

end One

section Run

variable {data : List UInt8} {c : Cursor}

/-- One more read at the end of a run. -/
theorem run_concat (calls : List Request) (call : Request) (c : Cursor) :
    run (calls ++ [call]) c =
      ((run calls c).1 ++ (run [call] (run calls c).2).1, (run [call] (run calls c).2).2) := by
  induction calls generalizing c with
  | nil => rfl
  | cons first calls ih =>
      rw [List.cons_append, run, run]
      -- Failed or not, the first read leads to a cursor from which the others go on.
      cases first.read c with
      | error e => simp only [ih c, List.cons_append]
      | ok p => simp only [ih p.2, List.cons_append]

/-- Behind what was read there is still the same data, and there is as much more of it in
    front as was read. -/
theorem within_read (hc : c.Within data) {n : Nat} (h : n ≤ c.remaining) :
    (⟨c.position + n, c.unread.drop n⟩ : Cursor).Within data ∧
      data.take c.position ++ c.unread.take n = data.take (c.position + n) := by
  constructor
  · have hwithin := hc.advance (List.take_append_drop n c.unread).symm
    rw [List.length_take_of_le h] at hwithin
    exact hwithin
  · rw [List.take_add, hc.unread]

/-- A run from some place in the data leads to another. What lies between the two is what
    the reads found. -/
theorem take_run (calls : List Request) (hc : c.Within data) :
    (run calls c).2.Within data ∧
      data.take c.position ++ consumed (run calls c).1 = data.take (run calls c).2.position := by
  induction calls generalizing c with
  | nil => exact ⟨hc, List.append_nil _⟩
  | cons call calls ih =>
      rw [run]
      rcases call.read_cases c with ⟨-, hread⟩ | ⟨henough, found, -, hspelling, hread⟩
      · -- A read that fails adds nothing and leaves the cursor where it is.
        rw [hread]
        exact ih hc
      · rw [hread]
        rcases within_read hc henough with ⟨hwithin, htake⟩
        rcases ih hwithin with ⟨hend, hrun⟩
        refine ⟨hend, ?_⟩
        -- What the first read found stands in front of what the others find.
        rw [← hrun, ← htake, List.append_assoc, ← hspelling]
        rfl

theorem length_run (calls : List Request) (c : Cursor) :
    (run calls c).1.length = calls.length := by
  induction calls generalizing c with
  | nil => rfl
  | cons call calls ih =>
      rw [run]
      cases call.read c with
      | error e => exact congrArg (· + 1) (ih c)
      | ok p => exact congrArg (· + 1) (ih p.2)

/-- What a read does at the end of a run. Either there is less than it asks for, and then it
    is told the place where it is and leaves everything as it was. Or there is enough, and
    then it finds what comes next in the data, and its position is the true sum even where
    positions are reduced by some limit that the length of the data does not reach. -/
def Continues (data : List UInt8) (calls : List Request)
    (outcomes : List (Except FormatError Found)) (c : Cursor) (call : Request) : Prop :=
  (c.remaining < call.asked c ∧ run (calls ++ [call]) (.start data) =
      (outcomes ++ [.error (.unexpectedEnd c.position)], c)) ∨
    call.asked c ≤ c.remaining ∧
      (∀ limit, data.length < limit →
        (c.position + call.asked c) % limit = c.position + call.asked c) ∧
      ∃ found, call.Answers found ∧
        found.spelling = (data.drop c.position).take (call.asked c) ∧
        run (calls ++ [call]) (.start data) =
          (outcomes ++ [.ok found],
            ⟨c.position + call.asked c, data.drop (c.position + call.asked c)⟩)

theorem continues {calls : List Request} {outcomes : List (Except FormatError Found)}
    (hrun : run calls (.start data) = (outcomes, c)) (hc : c.Within data) (call : Request) :
    Continues data calls outcomes c call := by
  -- A run with one more read is the run and then that read on its own.
  rw [Continues, run_concat, hrun]
  rcases call.read_cases c with ⟨hshort, hread⟩ | ⟨henough, found, hanswers, hspelling, hread⟩
  · refine Or.inl ⟨hshort, ?_⟩
    simp only [run, hread]
  · have hnext := (within_read hc henough).1
    have hrest : c.unread.drop (call.asked c) = data.drop (c.position + call.asked c) :=
      hnext.unread
    refine Or.inr ⟨henough, fun limit hlimit => ?_, found, hanswers, ?_, ?_⟩
    · -- The position stays within the data, so no limit above its length is reached.
      exact Nat.mod_eq_of_lt (Nat.lt_of_le_of_lt hnext.position_le hlimit)
    · rw [hspelling, hc.unread]
    · simp only [run, hread, hrest]

/-- Reads of any sort in any order, some of which may fail. What they found, put in a row,
    is the data up to the position, and the rest of the data remains. Every read that
    follows fails if less remains than it asks for, and finds what comes next if not. -/
theorem run_accounts (data : List UInt8) (calls : List Request) :
    ∃ outcomes c, run calls (.start data) = (outcomes, c) ∧ outcomes.length = calls.length ∧
      consumed outcomes = data.take c.position ∧
      c.position + c.remaining = data.length ∧
      ∀ call, Continues data calls outcomes c call := by
  have hlength := length_run calls (.start data)
  have htake := take_run calls (Cursor.within_start data)
  rcases hrun : run calls (.start data) with ⟨outcomes, c⟩
  rw [hrun] at hlength htake
  rcases htake with ⟨hwithin, hconsumed⟩
  refine ⟨outcomes, c, rfl, hlength, hconsumed, ?_, continues hrun hwithin⟩
  rw [Cursor.remaining, hwithin.unread, List.length_drop]
  exact Nat.add_sub_cancel' hwithin.position_le

/-- Two bytes are missed where there is one, and that one is still there to be read. -/
example : run [.byte, .number 2, .number 4, .number 2, .rest, .bytes 1]
    (.start [0x01, 0x00, 0x02, 0xaa, 0xbb, 0xcc, 0xdd, 0xee]) =
      ([.ok (.byte 1), .ok (.number 2 2), .ok (.number 4 0xaabbccdd), .error (.unexpectedEnd 7),
        .ok (.bytes [0xee]), .error (.unexpectedEnd 8)], ⟨8, []⟩) := by
  decide +kernel

end Run

end Read

end TileTriggers
