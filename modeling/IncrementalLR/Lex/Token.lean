import IncrementalLR.Language.Basic

/-!
# Tokens

`nextToken` scans the token at a cursor in the lex mode of a parse state.
-/

namespace IncrementalLR

/-- One scanned token, with absolute positions. -/
structure Token where
  symbol : Nat
  paddingStart : Length
  start : Length
  stop : Length
  examinedEnd : Nat
  lexMode : LexMode
  dependsOnColumn : Bool
  scannerState : Option (List UInt8)
deriving Inhabited

namespace Token

/-- Whether the token is text no token matches. -/
def isError (t : Token) : Bool := t.symbol == errorSymbol

/-- Whether the token is the end of the input. -/
def isEnd (t : Token) : Bool := t.symbol == endSymbol

/-- The text skipped before the token. -/
def padding (t : Token) : Length := t.start.sub t.paddingStart

/-- The token's own extent. -/
def size (t : Token) : Length := t.stop.sub t.start

/-- How many bytes past its end were examined to produce the token. -/
def lookaheadBytes (t : Token) : Nat := t.examinedEnd - t.stop.bytes

end Token

/-- The lexer cursor reset to `position` with a token begun there. -/
def Cursor.restart (c : Cursor) (position : Length) : Cursor := (c.reset position).start

/-- One run of the lex table in `lexState` from `position`: the token found, if it is
    non-empty or the end of the input, and whether the column was asked for. -/
def lexInternal (table : ParseTable) (c : Cursor) (position : Length) (lexState : Nat) :
    Option (Nat × Length × Length) × Bool × Cursor :=
  let c := c.restart position
  let (matched, c) := table.lexTable.lex c lexState
  if !matched then (none, c.askedColumn, c)
  else
    let (start, stop) := c.finish
    let symbol := c.result
    let found :=
      if stop.bytes > start.bytes ∧ symbol ≠ endSymbol then some (symbol, start, stop)
      else if symbol = endSymbol ∧ stop.bytes ≥ c.input.size then some (symbol, start, stop)
      else none
    (found, c.askedColumn, c)

/-- Grows an error token from `errorEnd` one character at a time until the error lex
    state finds a token after it or the text ends; `fuel` bounds the characters. -/
def growError (table : ParseTable) (errorMode : Nat) : Nat → Cursor → Length → Length × Cursor
  | 0, c, errorEnd => (errorEnd, c)
  | fuel + 1, c, errorEnd =>
    let c := (c.restart errorEnd).advance
    let errorEnd := c.position
    if c.atEnd then (errorEnd, c)
    else
      let (found, _, c) := lexInternal table c errorEnd errorMode
      if found.isSome then (errorEnd, c) else growError table errorMode fuel c errorEnd

/-- The error token from `errorStart`, or the end of the input when nothing but
    padding is left. -/
def lexError (table : ParseTable) (c : Cursor) (errorStart : Length) :
    (Nat × Length × Length) × Cursor :=
  if errorStart.bytes ≥ c.input.size then
    ((endSymbol, errorStart, errorStart), c.reset errorStart)
  else
    let errorMode := (table.lexMode errorState).lexState
    let (errorEnd, c) := growError table errorMode (c.input.size + 1) c errorStart
    ((errorSymbol, errorStart, errorEnd), c)

/-- Runs the grammar's scanner at `start` in `parseState`: the token it found, if its
    index names a valid scanner token and it is not empty, with the state after it. -/
def scanExternal (table : ParseTable) (scanner : Scanner) (c : Cursor) (start : Length)
    (parseState : Nat) (state : List UInt8) :
    Option ((Nat × Length × Length) × List UInt8) × Bool × Cursor :=
  let valid := table.scannerValid parseState
  let c := c.restart start
  let (scanned, c, state) := scanner.scan c state valid
  let asked := c.askedColumn
  if !scanned then (none, asked, c)
  else
    let (begin, stop) := c.finish
    let index := c.result
    match table.externals[index]? with
    | some symbol =>
      if valid[index]?.getD false ∧ stop.bytes > begin.bytes then
        (some ((symbol, begin, stop), state), asked, c)
      else (none, asked, c)
    | none => (none, asked, c)

/-- Scans the token at the cursor in the lex mode of `parseState`, with `state` the
    scanner state before it. -/
def nextToken (table : ParseTable) (c : Cursor) (parseState : Nat) (state : List UInt8) :
    Token × Cursor :=
  let startPos := c.position
  let mode := table.lexMode parseState
  let c := { c with examinedEnd := startPos.bytes }
  let (external, asked, c) :=
    match table.scanner with
    | some scanner =>
      if mode.scannerState ≠ 0 then scanExternal table scanner c startPos parseState state
      else (none, false, c)
    | none => (none, false, c)
  let errorMode := (table.lexMode errorState).lexState
  let modes :=
    if parseState ≠ errorState ∧ errorMode ≠ mode.lexState then [mode.lexState, errorMode]
    else [mode.lexState]
  let attempt (acc : Option (Nat × Length × Length) × Bool × Length × Cursor) (m : Nat) :=
    let (found, asked, errorStart, c) := acc
    if found.isSome then acc
    else
      let (found, askedHere, c) := lexInternal table c startPos m
      let errorStart := if found.isNone then errorStart.max c.tokenStart else errorStart
      (found, asked || askedHere, errorStart, c)
  let (found, asked, errorStart, c) :=
    modes.foldl attempt (external.map (·.1), asked, startPos, c)
  let ((symbol, begin, stop), c) :=
    match found with
    | some token => (token, c)
    | none => lexError table c errorStart
  ({ symbol, paddingStart := startPos, start := begin, stop,
     examinedEnd := max c.examinedEnd (stop.bytes + 1), lexMode := mode,
     dependsOnColumn := asked, scannerState := external.map (·.2) }, c)

/-- The tokens of a whole text in the error state, ending with the end of the input.
    Each token starts where the one before it ended, and a scanner's state passes from
    token to token; `fuel` bounds the number of tokens. -/
def tokensFrom (table : ParseTable) : Nat → Cursor → List UInt8 → List Token
  | 0, _, _ => []
  | fuel + 1, c, state =>
    let (token, c) := nextToken table c errorState state
    let state := token.scannerState.getD state
    if token.isEnd then [token]
    else token :: tokensFrom table fuel (c.reset token.stop) state

/-- The tokens of `input` in the error state, ending with the end of the input. -/
def tokens (table : ParseTable) (input : ByteArray) : List Token :=
  tokensFrom table (input.size + 2) (Cursor.new input) []

end IncrementalLR
