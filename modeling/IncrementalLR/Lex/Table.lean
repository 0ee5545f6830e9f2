import IncrementalLR.Lex.Cursor
import IncrementalLR.Lex.Pattern

/-!
# Lex tables

A lex table knows, for every terminal symbol, how to recognise it (a literal or a pattern),
and for every lex state which symbols are valid there.
-/

namespace IncrementalLR

/-- How one terminal is recognised. -/
inductive Matcher where
  | literal (bytes : List UInt8)
  | pattern (p : TokenPattern)
deriving DecidableEq

/-- Matchers by symbol, the valid symbols of each lex state, and the skip pattern. -/
structure LexTable where
  matchers : Array (Option Matcher)
  states : Array (List Nat)
  skip : Option TokenPattern
deriving DecidableEq

namespace LexTable

/-- The empty table. -/
def empty : LexTable := ⟨#[], #[], none⟩

/-- Sets the matcher of a symbol. -/
def setMatcher (t : LexTable) (symbol : Nat) (m : Matcher) : LexTable :=
  let ms := if t.matchers.size ≤ symbol then
      t.matchers ++ Array.replicate (symbol + 1 - t.matchers.size) none
    else t.matchers
  { t with matchers := ms.setIfInBounds symbol (some m) }

/-- Adds a lex state and returns its number. -/
def addState (t : LexTable) (symbols : List Nat) : LexTable × Nat :=
  ({ t with states := t.states.push symbols }, t.states.size)

/-- The number of bytes of `lit` that agree with `text` from `offset` on. -/
def commonPrefix (lit : List UInt8) (text : ByteArray) (offset : Nat) : Nat :=
  ((lit.zipIdx).takeWhile fun (b, i) => text[offset + i]? = some b).length

/-- The best match so far: length, whether it is a literal, and the symbol. -/
abbrev Candidate := Option (Nat × Bool × Nat)

/-- Whether a match of `len` bytes by a literal or not replaces the best so far. -/
def better (best : Candidate) (len : Nat) (isLiteral : Bool) : Bool :=
  match best with
  | none => true
  | some (bestLen, bestLiteral, _) => len > bestLen || (len == bestLen && isLiteral && !bestLiteral)

/-- Tries every valid symbol at `offset`: the best candidate and the examined length. -/
def scanSymbols (t : LexTable) (text : ByteArray) (offset : Nat) :
    List Nat → Candidate → Nat → Candidate × Nat
  | [], best, examined => (best, examined)
  | symbol :: rest, best, examined =>
    match t.matchers[symbol]?.join with
    | none => scanSymbols t text offset rest best examined
    | some (.literal lit) =>
      let common := commonPrefix lit text offset
      let examined := Nat.max examined (common + 1)
      let len := if common = lit.length then common else 0
      let best := if len ≠ 0 ∧ better best len true then some (len, true, symbol) else best
      scanSymbols t text offset rest best examined
    | some (.pattern p) =>
      let examined := Nat.max examined (p.examined text offset)
      let len := p.matchLength text offset
      let best := if len ≠ 0 ∧ better best len false then some (len, false, symbol) else best
      scanSymbols t text offset rest best examined

/-- Scans one token in lex state `state`. The answer says whether a token was found;
    at the end of the input that is always the end symbol. -/
def lex (t : LexTable) (c : Cursor) (state : Nat) : Bool × Cursor :=
  match t.states[state]? with
  | none => (false, c)
  | some valid =>
    let c := match t.skip with
      | some skip =>
        let pos := c.position.bytes
        let len := skip.matchLength c.input pos
        let c := c.noteExamined (pos + skip.examined c.input pos)
        if len > 0 then c.skipBytes len else c
      | none => c
    if c.atEnd then (true, (c.setResult 0).markEnd)
    else
      let pos := c.position.bytes
      let (best, examined) := t.scanSymbols c.input pos valid none 1
      let c := c.noteExamined (pos + examined)
      match best with
      | some (len, _, symbol) => (true, ((c.advanceBytes len).markEnd).setResult symbol)
      | none => (false, c)

end LexTable

end IncrementalLR
