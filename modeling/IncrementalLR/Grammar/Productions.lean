import IncrementalLR.Grammar.Containers
import IncrementalLR.Grammar.Spec
import IncrementalLR.Language.Basic

/-!
# Symbols and productions

A grammar description is turned into numbered symbols and plain productions.
-/

namespace IncrementalLR

/-- A production: its left side, its right side, and the fields of its children by
    position. -/
structure Production where
  lhs : Nat
  rhs : List Nat
  fields : List (Nat × String)
deriving DecidableEq, Repr, Inhabited

/-- A grammar with numbered symbols and expanded productions. -/
structure Grammar where
  name : String
  symbolNames : Array String
  symbolInfo : Array SymbolInfo
  tokenCount : Nat
  startSymbol : Nat
  productions : Array Production
  extras : List Nat
  externals : List Nat
  lexTable : LexTable
  scanner : Option Scanner

namespace Grammar

/-- Whether a symbol is a terminal. -/
def isTerminal (g : Grammar) (s : Nat) : Bool := s < g.tokenCount

/-- The number of nonterminals. -/
def nonterminalCount (g : Grammar) : Nat := g.symbolNames.size - g.tokenCount

/-- The productions of every nonterminal, by offset from the first one; the augmented
    start is in none of them. -/
def byLhs (g : Grammar) : Array (List Nat) :=
  let add (acc : Array (List Nat)) (i : Nat) : Array (List Nat) :=
    match g.productions[i]? with
    | some p => acc.modify (p.lhs - g.tokenCount) (· ++ [i])
    | none => acc
  (List.range' 1 (g.productions.size - 1)).foldl add (Array.replicate g.nonterminalCount [])

end Grammar

/-- The state of rule expansion: the grammar so far and the hidden repetition rules
    made, by repeated symbol and field. -/
structure Expansion where
  grammar : Grammar
  repeats : List ((Nat × Option String) × Nat)
  repeatCount : Nat

/-- The symbols that names and literals stand for. -/
structure SymbolScope where
  named : ListMap String Nat
  literals : ListMap String Nat

namespace Expansion

/-- The symbol an item refers to. -/
def resolve (scope : SymbolScope) (item : Item) : Except GrammarError Nat :=
  match item.ref with
  | .name n =>
    match scope.named[n]? with
    | some s => .ok s
    | none => .error (.unknownSymbol n)
  | .literal t =>
    match scope.literals[t]? with
    | some s => .ok s
    | none => .error (.unknownSymbol t)

/-- The hidden rule that matches one or more `symbol`, made on first use and named
    after the rule that first needed it. -/
def repetition (e : Expansion) (ruleName : String) (symbol : Nat) (field : Option String) :
    Except GrammarError (Nat × Expansion) :=
  match e.repeats.lookup (symbol, field) with
  | some r => .ok (r, e)
  | none =>
    let number := e.repeatCount + 1
    let g := e.grammar
    let r := g.symbolNames.size
    if r ≥ errorSymbol then .error (.tooLarge "symbols")
    else
      let fieldAt (i : Nat) : List (Nat × String) := field.toList.map fun f => (i, f)
      let g := { g with
        symbolNames := g.symbolNames.push s!"{ruleName}_repeat{number}"
        symbolInfo := g.symbolInfo.push ⟨false, false⟩
        productions :=
          (g.productions.push ⟨r, [r, symbol], fieldAt 1⟩).push ⟨r, [symbol], fieldAt 0⟩ }
      .ok (r, { grammar := g, repeats := e.repeats ++ [((symbol, field), r)],
                repeatCount := number })

/-- Right sides with their fields, after one more item: an optional item keeps each
    side without it first. -/
def extend (sides : List (List Nat × List (Nat × String))) (symbol : Nat)
    (field : Option String) (optional : Bool) : List (List Nat × List (Nat × String)) :=
  sides.flatMap fun (rhs, fields) =>
    let withItem := (rhs ++ [symbol], fields ++ field.toList.map fun f => (rhs.length, f))
    if optional then [(rhs, fields), withItem] else [withItem]

/-- Expands one alternative into the right sides it stands for. -/
def expandItems (scope : SymbolScope) (ruleName : String) :
    List Item → List (List Nat × List (Nat × String)) → Expansion →
      Except GrammarError (List (List Nat × List (Nat × String)) × Expansion)
  | [], sides, e => .ok (sides, e)
  | item :: items, sides, e => do
    let symbol ← resolve scope item
    match item.suffix with
    | none => expandItems scope ruleName items (extend sides symbol item.field false) e
    | some '?' => expandItems scope ruleName items (extend sides symbol item.field true) e
    | some c =>
      let (r, e) ← e.repetition ruleName symbol item.field
      expandItems scope ruleName items (extend sides r none (c = '*')) e

/-- Expands every alternative of a rule into productions of `lhs`. -/
def expandRule (scope : SymbolScope) (ruleName : String) (lhs : Nat) :
    List (List Item) → Expansion → Except GrammarError Expansion
  | [], e => .ok e
  | items :: rest, e => do
    let (sides, e) ← expandItems scope ruleName items [([], [])] e
    let g := e.grammar
    let productions := sides.foldl (fun ps (rhs, fields) => ps.push ⟨lhs, rhs, fields⟩) g.productions
    expandRule scope ruleName lhs rest { e with grammar := { g with productions } }

end Expansion

/-- Reads the items of every alternative of every rule, in order. -/
def readRules : List RuleDecl → Except GrammarError (List (List (List Item)))
  | [] => .ok []
  | r :: rs => do
    if r.alternatives.isEmpty then throw (.emptyRule r.name)
    let alts ← r.alternatives.mapM fun alt => (splitWhiteSpace alt).mapM Item.parse
    let rest ← readRules rs
    pure (alts :: rest)

/-- The literals of the items, in order of first use after those already known. -/
def collectLiterals (known : List String) (rules : List (List (List Item))) : List String :=
  let add (acc : List String) (item : Item) : List String :=
    match item.ref with
    | .literal t => if t ∈ acc then acc else acc ++ [t]
    | .name _ => acc
  rules.foldl (fun acc alts => alts.foldl (fun acc items => items.foldl add acc) acc) known

/-- Compiles a token pattern, naming the token in errors. -/
def compilePattern (name source : String) : Except GrammarError TokenPattern :=
  match TokenPattern.compile source with
  | .ok p => .ok p
  | .error .invalid => .error (.invalidPattern name)
  | .error .matchesEmpty => .error (.emptyPattern name)

/-- The named tokens: their symbols from 1 on, patterns, scanner tokens and extras. -/
def numberTokens : List TokenDecl → Nat → ListMap String Nat → LexTable →
    Array String → Array SymbolInfo → List Nat → List Nat →
    Except GrammarError (ListMap String Nat × LexTable × Array String ×
      Array SymbolInfo × List Nat × List Nat)
  | [], _, named, lex, names, infos, externals, extras => .ok (named, lex, names, infos, externals, extras)
  | t :: ts, symbol, named, lex, names, infos, externals, extras => do
    if symbol ≥ errorSymbol then throw (.tooLarge "symbols")
    if named.contains t.name then throw (.duplicateSymbol t.name)
    let named := named.insert t.name symbol
    let (lex, externals) ← match t.source with
      | .pattern source => do
        let p ← compilePattern t.name source
        pure (lex.setMatcher symbol (.pattern p), externals)
      | .scanner => pure (lex, externals ++ [symbol])
    let extras := if t.extra then extras ++ [symbol] else extras
    numberTokens ts (symbol + 1) named lex (names.push t.name)
      (infos.push ⟨!t.name.startsWith "_", true⟩) externals extras

/-- The rules' symbols, from `symbol` on. -/
def numberRules : List RuleDecl → Nat → ListMap String Nat →
    Except GrammarError (ListMap String Nat)
  | [], _, named => .ok named
  | r :: rs, symbol, named => do
    if symbol ≥ errorSymbol then throw (.tooLarge "symbols")
    if named.contains r.name then throw (.duplicateSymbol r.name)
    numberRules rs (symbol + 1) (named.insert r.name symbol)

/-- Numbers the symbols of a grammar description whose rules read as `parsed`: the named
    tokens from 1 on, then the literals, then the rules. Gives the scope that names and
    literals resolve in, and the grammar over these symbols whose only production is the
    augmented start. -/
def GrammarSpec.number (spec : GrammarSpec) (parsed : List (List (List Item))) :
    Except GrammarError (SymbolScope × Grammar) := do
  let literals := collectLiterals spec.literals parsed
  let skip ← match spec.skip with
    | some source => some <$> compilePattern "<skip>" source
    | none => pure none
  let lex : LexTable := { LexTable.empty with skip }
  let (named, lex, names, infos, externals, extras) ←
    numberTokens spec.tokens 1 {} lex #["end"] #[⟨false, true⟩] [] []
  let addLiteral (acc : LexTable × ListMap String Nat × Array String × Array SymbolInfo)
      (text : String) : Except GrammarError _ :=
    let (lex, lits, names, infos) := acc
    let symbol := names.size
    if symbol ≥ errorSymbol then .error (.tooLarge "symbols")
    else
      .ok (lex.setMatcher symbol (.literal text.toUTF8.toList), lits.insert text symbol,
        names.push text, infos.push ⟨true, false⟩)
  let (lex, literalSymbols, names, infos) ← literals.foldlM addLiteral (lex, {}, names, infos)
  let extras ← spec.extraNames.foldlM (fun extras n =>
    match named[n]? with
    | some s => if s ∈ extras then pure extras else pure (extras ++ [s])
    | none => throw (.unknownSymbol n)) extras
  let tokenCount := names.size
  let named ← numberRules spec.rules tokenCount named
  let names := names ++ (spec.rules.map (·.name)).toArray
  let infos := infos ++ (spec.rules.map fun r => ⟨!r.name.startsWith "_", true⟩).toArray
  let grammar : Grammar :=
    { name := spec.name, symbolNames := names, symbolInfo := infos, tokenCount,
      startSymbol := tokenCount, productions := #[⟨tokenCount, [tokenCount], []⟩],
      extras, externals, lexTable := lex, scanner := spec.scanner }
  pure (⟨named, literalSymbols⟩, grammar)

/-- Numbers the symbols of a grammar description and expands its rules. -/
def Grammar.ofSpec (spec : GrammarSpec) : Except GrammarError Grammar := do
  if spec.rules.isEmpty then throw .noRules
  let parsed ← readRules spec.rules
  let (scope, grammar) ← spec.number parsed
  let expansion ← ((spec.rules.zip parsed).zipIdx).foldlM
    (fun e ((r, alts), i) => Expansion.expandRule scope r.name (grammar.tokenCount + i) alts e)
    ⟨grammar, [], 0⟩
  pure expansion.grammar

end IncrementalLR
