import IncrementalLR.Regex.Parse
import IncrementalLR.Regex.Determinize

/-!
# Token patterns

A token pattern is a regular expression anchored at the lexing position and matched
leftmost-first against the bytes that follow.
-/

namespace IncrementalLR

open Regex

/-- A compiled token pattern. -/
structure TokenPattern where
  search : Automaton
  /-- Whether every match starts at the lexing position; otherwise a match may start
      later, and the token then ends where that match ends. -/
  anchored : Bool
  scan : Option Automaton
  maxLength : Option Nat
deriving DecidableEq

/-- Why a token pattern was refused. -/
inductive PatternError where
  | invalid
  | matchesEmpty
deriving Repr, DecidableEq

namespace TokenPattern

/-- Compiles `source`, anchored at the lexing position. A pattern that can match the
    empty text is refused; so is one whose anchored form cannot be read. The length
    bounds come from `source` alone, and without them there is no scan. -/
def compile (source : String) : Except PatternError TokenPattern :=
  match Regex.parse ("^(?:" ++ source ++ ")") with
  | .error _ => .error .invalid
  | .ok anchored =>
    if !anchored.fitsSearchMemory then .error .invalid
    else
    let own := (Regex.parse source).toOption
    if own.bind Regex.minLength = some 0 then .error .matchesEmpty
    else
      let scan := own.bind fun r =>
        if r.hasLook Look.isUnicodeWord then none
        else
          let a := Automaton.ofRegex r
          if a.fitsDense then some a else none
      .ok ⟨Automaton.ofRegex anchored, anchored.startsAtTextStart, scan,
        own.bind Regex.maxLength⟩

/-- Where the leftmost-first match in the text from byte `offset` on ends, counted from
    `offset`; zero when there is none. -/
def matchLength (p : TokenPattern) (text : ByteArray) (offset : Nat) : Nat :=
  (p.search.matchEnd ⟨text, offset⟩ p.anchored).getD 0

/-- How many bytes from `offset` the match attempt examined, counting one past the end
    of the text when it read to the end. -/
def examined (p : TokenPattern) (text : ByteArray) (offset : Nat) : Nat :=
  let rest := text.size - Nat.min offset text.size
  match p.scan with
  | some a => a.deadEnd ⟨text, offset⟩
  | none => Nat.min (p.maxLength.getD rest) rest + 1

end TokenPattern

end IncrementalLR
