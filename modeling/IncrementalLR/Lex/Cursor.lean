import IncrementalLR.Text.Length
import IncrementalLR.Text.Utf8

/-!
# The lexing cursor

A cursor walks over a byte text one character at a time.
-/

namespace IncrementalLR

/-- The byte order mark, skipped at the start of a text. -/
def byteOrderMark : Char := Char.ofNat 0xFEFF

/-- The character that stands for a stray byte. -/
def replacementChar : Char := Char.ofNat 0xFFFD

/-- A scanning position over a text, with the token under construction. -/
structure Cursor where
  input : ByteArray
  position : Length
  tokenStart : Length
  tokenEnd : Option Length
  lookahead : Decoded
  result : Nat
  askedColumn : Bool
  cachedColumn : Option Nat
  examinedEnd : Nat

namespace Cursor

/-- Whether the cursor is at or past the end of its text. -/
def atEnd (c : Cursor) : Bool := c.position.bytes ≥ c.input.size

/-- The character under the cursor: `none` at the end, U+FFFD for a stray byte. -/
def current (c : Cursor) : Option Char :=
  if c.atEnd then none else some (c.lookahead.char.getD replacementChar)

/-- Bytes left from the cursor to the end of the text. -/
def remaining (c : Cursor) : Nat := c.input.size - min c.position.bytes c.input.size

/-- The unread text. -/
def rest (c : Cursor) : ByteArray := c.input.extract (min c.position.bytes c.input.size) c.input.size

/-- Records that input was inspected up to, not including, `endByte`; one past the end
    of the text is as far as this can reach. -/
def noteExamined (c : Cursor) (endByte : Nat) : Cursor :=
  { c with examinedEnd := max c.examinedEnd (min endByte (c.input.size + 1)) }

/-- Decodes the character under the cursor and records it as inspected. -/
def readLookahead (c : Cursor) : Cursor :=
  let d := Utf8.decodeAt c.input (min c.position.bytes c.input.size)
  { c with lookahead := d }.noteExamined (c.position.bytes + max d.size 1)

/-- A cursor at the start of `input`. -/
def new (input : ByteArray) : Cursor :=
  readLookahead
    { input, position := Length.zero, tokenStart := Length.zero, tokenEnd := none,
      lookahead := ⟨none, 0⟩, result := 0, askedColumn := false, cachedColumn := none,
      examinedEnd := 0 }

/-- Moves over the character under the cursor. With `skip` the character is padding
    and the token start moves past it. At the end nothing changes. -/
def step (c : Cursor) (skip : Bool) : Cursor :=
  if c.atEnd then c
  else
    let size := max c.lookahead.size 1
    let moved :=
      if c.lookahead.char = some '\n' then
        { c with position := ⟨c.position.bytes + size, ⟨c.position.extent.row + 1, 0⟩⟩,
                 cachedColumn := some 0 }
      else
        let isMark := c.position.bytes = 0 ∧ c.lookahead.char = some byteOrderMark
        { c with
          position := ⟨c.position.bytes + size,
            ⟨c.position.extent.row, c.position.extent.column + size⟩⟩,
          cachedColumn := if isMark then c.cachedColumn else c.cachedColumn.map (· + 1) }
    let moved := if skip then { moved with tokenStart := moved.position } else moved
    moved.readLookahead

/-- Consumes the character under the cursor as part of the token. -/
def advance (c : Cursor) : Cursor := c.step false

/-- Consumes the character under the cursor as padding. -/
def skip (c : Cursor) : Cursor := c.step true

/-- Steps while the position is before `goal` and the text has not ended; `fuel` bounds
    the number of steps. -/
def stepUntil (skip : Bool) (goal : Nat) : Nat → Cursor → Cursor
  | 0, c => c
  | fuel + 1, c =>
    if c.position.bytes < goal ∧ ¬c.atEnd then stepUntil skip goal fuel (c.step skip) else c

/-- Consumes whole characters until at least `count` bytes are read or the text ends. -/
def advanceBytes (c : Cursor) (count : Nat) : Cursor :=
  stepUntil false (c.position.bytes + count) count c

/-- Consumes whole characters as padding until at least `count` bytes are skipped. -/
def skipBytes (c : Cursor) (count : Nat) : Cursor :=
  stepUntil true (c.position.bytes + count) count c

/-- Marks the current position as the end of the token. -/
def markEnd (c : Cursor) : Cursor := { c with tokenEnd := some c.position }

/-- Sets the symbol that the scan reports. -/
def setResult (c : Cursor) (symbol : Nat) : Cursor := { c with result := symbol }

/-- Counts the characters of `line` from byte `offset` on; a byte order mark at the
    very start of the text (`lineStart + offset = 0`) does not count. -/
def countColumns (line : ByteArray) (lineStart : Nat) : Nat → Nat → Nat → Nat
  | 0, _, acc => acc
  | fuel + 1, offset, acc =>
    if offset < line.size then
      let d := Utf8.decodeAt line offset
      let isMark := lineStart + offset = 0 ∧ d.char = some byteOrderMark
      countColumns line lineStart fuel (offset + max d.size 1) (if isMark then acc else acc + 1)
    else acc

/-- The character column of the position, and the cursor that remembers both the value
    and that the column was asked for. -/
def column (c : Cursor) : Nat × Cursor :=
  let c := { c with askedColumn := true }
  match c.cachedColumn with
  | some value => (value, c)
  | none =>
    let lineStart := c.position.bytes - c.position.extent.column
    let line := c.input.extract lineStart c.position.bytes
    let value := countColumns line lineStart line.size 0 0
    (value, { c with cachedColumn := some value })

/-- Moves to `position`, keeping the examined end; the column is forgotten if the byte
    offset changes. -/
def reset (c : Cursor) (position : Length) : Cursor :=
  let c := if position.bytes ≠ c.position.bytes then { c with cachedColumn := none } else c
  { c with position }.readLookahead

/-- Begins a new token at the cursor. A byte order mark at the start is skipped. -/
def start (c : Cursor) : Cursor :=
  let c := { c with tokenStart := c.position, tokenEnd := none, result := 0,
                    askedColumn := false }
  if c.position.bytes = 0 ∧ c.lookahead.char = some byteOrderMark then c.skip else c

/-- The token's start and end: the end is the marked position, or the current one; a
    start past the end is moved back to the end. -/
def finish (c : Cursor) : Length × Length :=
  let stop := c.tokenEnd.getD c.position
  let begin := if stop.bytes < c.tokenStart.bytes then stop else c.tokenStart
  (begin, stop)

/-- One operation on a cursor, as a scanner would perform it. -/
inductive Op where
  | advance
  | skip
  | advanceBytes (count : Nat)
  | skipBytes (count : Nat)
  | markEnd
  | column
  | noteExamined (endByte : Nat)
  | setResult (symbol : Nat)
deriving Repr, DecidableEq

/-- What can be observed of a cursor after an operation; `column` is the answer of a
    column query. -/
structure Snapshot where
  position : Length
  current : Option Char
  atEnd : Bool
  tokenStart : Length
  result : Nat
  remaining : Nat
  column : Option Nat

/-- The observable state of `c`, with the answer of a column query if there was one. -/
def snapshot (c : Cursor) (column : Option Nat) : Snapshot :=
  ⟨c.position, c.current, c.atEnd, c.tokenStart, c.result, c.remaining, column⟩

/-- Performs one operation and returns the column if it was a column query. -/
def perform (c : Cursor) : Op → Cursor × Option Nat
  | .advance => (c.advance, none)
  | .skip => (c.skip, none)
  | .advanceBytes n => (c.advanceBytes n, none)
  | .skipBytes n => (c.skipBytes n, none)
  | .markEnd => (c.markEnd, none)
  | .column => let (v, c) := c.column; (c, some v)
  | .noteExamined n => (c.noteExamined n, none)
  | .setResult s => (c.setResult s, none)

/-- The snapshots of a fresh cursor over `input` before any operation and after each
    of `ops`. -/
def trace (input : ByteArray) (ops : List Op) : List Snapshot :=
  let c := new input
  let rec go (c : Cursor) : List Op → List Snapshot
    | [] => []
    | op :: ops => let (c, v) := c.perform op; c.snapshot v :: go c ops
  c.snapshot none :: go c ops

end Cursor

end IncrementalLR
