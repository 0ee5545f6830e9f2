import IncrementalLR.Lex.Cursor
import IncrementalLR.Unicode.Classes

/-!
# Hand-written scanners

Some tokens are beyond a lex table: comments that nest, or braces whose depth decides what
may close.
-/

namespace IncrementalLR

/-- A scanner for tokens that a lex table cannot describe. -/
inductive Scanner where
  /-- Block comments from a slash and a star to a star and a slash, which nest. -/
  | nestedComment
  /-- Opening and closing braces whose open count is the scanner state, and a bang
      that only stands at the start of a line. -/
  | braces
deriving DecidableEq, Repr

namespace Scanner

/-- Skips white space as padding; `fuel` bounds the characters skipped. -/
def skipSpace : Nat → Cursor → Cursor
  | 0, c => c
  | fuel + 1, c =>
    match c.current with
    | some ch => if Unicode.isWhiteSpace ch then skipSpace fuel c.skip else c
    | none => c

/-- Reads the rest of a comment at nesting `depth`; a comment closed at depth one ends
    the token there. The text ending first is a failure. -/
def commentBody : Nat → Nat → Cursor → Bool × Cursor
  | 0, _, c => (false, c)
  | fuel + 1, depth, c =>
    match c.current with
    | none => (false, c)
    | some '*' =>
      let c := c.advance
      if c.current = some '/' then
        let c := c.advance
        if depth ≤ 1 then (true, (c.markEnd).setResult 0)
        else commentBody fuel (depth - 1) c
      else commentBody fuel depth c
    | some '/' =>
      let c := c.advance
      if c.current = some '*' then commentBody fuel (depth + 1) c.advance
      else commentBody fuel depth c
    | some _ => commentBody fuel depth c.advance

/-- Scans a nested comment, when comment tokens (index 0) are valid. -/
def scanComment (c : Cursor) (valid : Array Bool) : Bool × Cursor :=
  if !(valid[0]?.getD false) then (false, c)
  else
    let c := skipSpace (c.remaining + 1) c
    if c.current ≠ some '/' then (false, c)
    else
      let c := c.advance
      if c.current ≠ some '*' then (false, c)
      else commentBody (c.remaining + 1) 1 c.advance

/-- The byte that the brace scanner's state holds once per open brace. -/
def openBrace : UInt8 := 0x7B

/-- Scans a brace token. An open brace (index 0) adds to the state and looks one
    character further; a close brace (index 1) needs an open one in the state; a bang
    (index 2) must stand in column 0. A question mark, a percent sign, an ampersand and
    a caret produce tokens that the lexing rules then refuse or accept: an unknown
    index, an empty token, a token ending before it starts, and a close brace that
    ignores validity. -/
def scanBraces (c : Cursor) (state : List UInt8) (valid : Array Bool) :
    Bool × Cursor × List UInt8 :=
  let isValid (i : Nat) : Bool := valid[i]?.getD false
  let c := skipSpace (c.remaining + 1) c
  match c.current with
  | some '{' =>
    if isValid 0 then
      let c := c.advance.markEnd
      let c := if c.current = some '{' then c.advance else c
      (true, c.setResult 0, state ++ [openBrace])
    else (false, c, state)
  | some '}' =>
    if isValid 1 && !state.isEmpty then
      (true, (c.advance.markEnd).setResult 1, state.dropLast)
    else (false, c, state)
  | some '!' =>
    if isValid 2 then
      let (col, c) := c.column
      if col ≠ 0 then (false, c, state)
      else (true, (c.advance.markEnd).setResult 2, state)
    else (false, c, state)
  | some '?' => (true, (c.advance.markEnd).setResult 7, state)
  | some '%' => (true, c.markEnd.setResult 0, state)
  | some '&' => (true, (c.markEnd.skip).setResult 0, state)
  | some '^' => (true, (c.advance.markEnd).setResult 1, state)
  | _ => (false, c, state)

/-- Runs a scanner: whether it found a token, the cursor after it, and the new state. -/
def scan : Scanner → Cursor → List UInt8 → Array Bool → Bool × Cursor × List UInt8
  | .nestedComment, c, state, valid =>
    let (found, c) := scanComment c valid
    (found, c, state)
  | .braces, c, state, valid => scanBraces c state valid

end Scanner

end IncrementalLR
