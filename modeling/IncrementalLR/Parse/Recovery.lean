import IncrementalLR.Parse.Reuse

/-!
# Trying repairs

When no action applies, the parser compares repairs by simulating them on the states of its
stack alone: assuming a missing token, or skipping the lookahead.
-/

namespace IncrementalLR

/-- What a parse needs besides its changing state. -/
structure ParseContext where
  table : ParseTable
  options : ParseOptions
  input : ByteArray
  total : Length
  logging : Bool
  incremental : Bool

/-- The outcome of feeding one symbol to a simulated stack. -/
inductive SimStep where
  | shifted (extra : Bool)
  | accepted
  | failed
deriving DecidableEq, Repr

/-- How far a simulated parse got: accepted, the tokens consumed, and one past the last
    byte its lexing examined. -/
structure Trial where
  accepted : Bool
  consumed : Nat
  examinedEnd : Nat
deriving DecidableEq, Repr

/-- A simulation that got nowhere. -/
def Trial.failed : Trial := ⟨false, 0, 0⟩

/-- A repair: assume a missing token, or skip the lookahead. -/
inductive Repair where
  | insert (symbol : Nat)
  | delete
deriving DecidableEq, Repr

/-- Runs the reductions for `symbol` on a stack of states, then shifts or accepts it;
    `fuel` bounds the reductions. -/
def simulateToken (table : ParseTable) (symbol : Nat) : Nat → List Nat → SimStep × List Nat
  | 0, states => (.failed, states)
  | fuel + 1, states =>
    match states with
    | [] => (.failed, states)
    | state :: _ =>
      match table.action? state symbol with
      | some (.shift next extra) => (.shifted extra, if extra then states else next :: states)
      | some (.reduce lhs count _) =>
        match states.drop count with
        | [] => (.failed, states)
        | below :: rest =>
          let target := table.goto below lhs
          if target = 0 then (.failed, states)
          else simulateToken table symbol fuel (target :: below :: rest)
      | some .accept => (.accepted, states)
      | _ => (.failed, states)

/-- The bound on the rounds of a parse, on the steps of feeding one lookahead and on the
    tokens of a recovery trial: far beyond what any input reaches, so that reaching it
    stands for a loop that never ends. -/
def loopLimit : Nat := 18446744073709551616

namespace ParseContext

/-- Feeds one symbol to a simulated stack, within the reduction limit. -/
def feed (ctx : ParseContext) (states : List Nat) (symbol : Nat) : SimStep × List Nat :=
  simulateToken ctx.table symbol (ctx.options.maxStackDepth + 1) states

/-- The terminals a state can do something with besides skipping them as extras. -/
def candidates (ctx : ParseContext) (state : Nat) : List Nat :=
  (List.range' 1 (ctx.table.tokenCount - 1)).filter fun s =>
    !(ctx.table.actionsAt state s).isEmpty && !ctx.table.isExtraOnly state s

/-- Feeds tokens lexed from `position` on until the window is full, a token is an
    error or is refused, or the parse is accepted, for at most `fuel` tokens; `none` when
    that is not enough, as when the end of the input is shifted as an extra over and
    over. -/
def simulateTokensWithin (ctx : ParseContext) (window : Nat) :
    Nat → Cursor → List Nat → Length → Nat → Nat → List UInt8 → Option Trial
  | 0, _, _, _, _, _, _ => none
  | fuel + 1, c, states, position, consumed, examined, scanner =>
    if consumed ≥ window then some ⟨false, consumed, examined⟩
    else
      match states with
      | [] => some ⟨false, consumed, examined⟩
      | state :: _ =>
        let (token, c) := nextToken ctx.table (c.reset position) state scanner
        let examined := Nat.max examined token.examinedEnd
        if token.isError then some ⟨false, consumed, examined⟩
        else
          let scanner := token.scannerState.getD scanner
          match ctx.feed states token.symbol with
          | (.accepted, _) => some ⟨true, consumed, examined⟩
          | (.failed, _) => some ⟨false, consumed, examined⟩
          | (.shifted extra, states) =>
            ctx.simulateTokensWithin window fuel c states token.stop
              (if extra then consumed else consumed + 1) examined scanner

/-- Feeds tokens lexed from `position` on until the window is full, a token is an
    error or is refused, or the parse is accepted; `none` when this does not end within
    `loopLimit` tokens. -/
def simulateTokens (ctx : ParseContext) (window : Nat) (c : Cursor) (states : List Nat)
    (position : Length) (consumed examined : Nat) (scanner : List UInt8) : Option Trial :=
  ctx.simulateTokensWithin window loopLimit c states position consumed examined scanner

/-- Feeds tokens lexed from `resume` on, having consumed `consumed` already. -/
def simulateFrom (ctx : ParseContext) (scanner : List UInt8) (states : List Nat)
    (resume : Length) (consumed window : Nat) : Option Trial :=
  ctx.simulateTokens window (Cursor.new ctx.input) states resume consumed 0 scanner

/-- Simulates assuming `inserted`, then feeding the lookahead `first`, then tokens
    lexed from `resume`. -/
def simulate (ctx : ParseContext) (scanner : List UInt8) (states : List Nat)
    (inserted : Option Nat) (first : Nat) (resume : Length) (window : Nat) : Option Trial :=
  let afterInsert :=
    match inserted with
    | some symbol =>
      match ctx.feed states symbol with
      | (.shifted false, states) => some states
      | _ => none
    | none => some states
  match afterInsert with
  | none => some Trial.failed
  | some states =>
    match ctx.feed states first with
    | (.accepted, _) => some { Trial.failed with accepted := true }
    | (.failed, _) => some Trial.failed
    | (.shifted extra, states) =>
      ctx.simulateFrom scanner states resume (if extra then 0 else 1) window

/-- The first run of exactly `depth` assumed tokens after which the end of the input
    is accepted, trying terminals in ascending order. -/
def completion (ctx : ParseContext) : Nat → List Nat → Option (List Nat)
  | 0, states =>
    match ctx.feed states endSymbol with
    | (.accepted, _) => some []
    | _ => none
  | depth + 1, states =>
    match states with
    | [] => none
    | state :: _ =>
      (ctx.candidates state).firstM fun symbol =>
        match ctx.feed states symbol with
        | (.shifted false, next) => (ctx.completion depth next).map (symbol :: ·)
        | _ => none

/-- The shortest run of at most `window` assumed tokens that completes the parse. -/
def shortestCompletion (ctx : ParseContext) (states : List Nat) (window : Nat) :
    Option (List Nat) :=
  (List.range' 1 window).firstM fun depth => ctx.completion depth states

end ParseContext

/-- Whether a trial with cost `cost` beats the best so far: it gets further (an accepted
    parse first, then more tokens), or as far for less. -/
def Trial.beats (trial : Trial) (cost : Nat) : Option (Repair × Trial × Nat) → Bool
  | none => true
  | some (_, best, bestCost) =>
    (trial.accepted && !best.accepted) ||
      (trial.accepted == best.accepted &&
        (trial.consumed > best.consumed || (trial.consumed == best.consumed && cost < bestCost)))

/-- The repair to make, given the best trial: it is taken when it was accepted, filled
    the window, or is an assumed token that let a token through; otherwise a
    lookahead that is not the end is skipped, and at the end there is none. -/
def chooseRepair (best : Option (Repair × Trial × Nat)) (window : Nat) (atEnd : Bool) :
    Option Repair :=
  match best with
  | some (repair, trial, _) =>
    if trial.accepted || trial.consumed ≥ window ||
        (match repair with | .insert _ => trial.consumed > 0 | .delete => false) then some repair
    else if !atEnd then some .delete else none
  | none => if !atEnd then some .delete else none

end IncrementalLR
