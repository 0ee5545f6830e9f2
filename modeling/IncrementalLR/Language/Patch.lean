import IncrementalLR.Language.Basic

/-!
# Changing tables by hand

A table can be changed after it is built, to try the parser on tables a grammar would never
produce: cells with several actions or with `recover`, gotos to nowhere, lex modes that name
missing lex states, other symbol visibility, and counts that no longer agree with the
arrays.
-/

namespace IncrementalLR

namespace Action

/-- The text form of an action. -/
def render : Action → String
  | .shift s false => s!"shift {s}"
  | .shift s true => s!"shift_extra {s}"
  | .reduce sym n p => s!"reduce {sym} {n} {p}"
  | .accept => "accept"
  | .recover => "recover"

/-- Reads the text form of an action. -/
def ofText? (text : String) : Option Action :=
  match (text.splitOn " ").filter (!·.isEmpty) with
  | ["shift", s] => s.toNat?.map fun s => .shift s false
  | ["shift_extra", s] => s.toNat?.map fun s => .shift s true
  | ["reduce", sym, n, p] => do pure (.reduce (← sym.toNat?) (← n.toNat?) (← p.toNat?))
  | ["accept"] => some .accept
  | ["recover"] => some .recover
  | _ => none

end Action

/-- Changes to a built table. -/
structure TablePatch where
  version : Nat
  actions : List (Nat × Nat × List Action)
  gotos : List (Nat × Nat × Nat)
  lexModes : List (Nat × LexMode)
  info : List (Nat × SymbolInfo)
  stateCount : Option Nat
  tokenCount : Option Nat

/-- Sets entry `i` of an array, growing it with `fill` first when it is too short. -/
def setGrowing {α : Type} (a : Array α) (i : Nat) (fill x : α) : Array α :=
  let a := if a.size ≤ i then a ++ Array.replicate (i + 1 - a.size) fill else a
  a.setIfInBounds i x

namespace ParseTable

/-- Applies a patch: cells, gotos, lex modes and symbol information in that order, then
    the counts and the layout version. -/
def patch (t : ParseTable) (p : TablePatch) : ParseTable :=
  let tc := t.tokenCount
  let ntc := t.nonterminalCount
  let actions := p.actions.foldl (fun a (state, symbol, cell) =>
    setGrowing a (state * tc + symbol) [] cell) t.actions
  let gotos := p.gotos.foldl (fun a (state, symbol, target) =>
    setGrowing a (state * ntc + (symbol - tc)) 0 target) t.gotos
  let lexModes := p.lexModes.foldl (fun a (state, mode) => setGrowing a state ⟨0, 0⟩ mode) t.lexModes
  let symbolInfo := p.info.foldl (fun a (symbol, i) => setGrowing a symbol ⟨false, false⟩ i) t.symbolInfo
  { t with actions, gotos, lexModes, symbolInfo, version := p.version,
           stateCount := p.stateCount.getD t.stateCount, tokenCount := p.tokenCount.getD tc }

end ParseTable

end IncrementalLR
