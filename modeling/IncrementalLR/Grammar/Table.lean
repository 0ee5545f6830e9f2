import IncrementalLR.Grammar.ItemSets
import IncrementalLR.Grammar.Follow

/-!
# SLR(1) tables

The table of a grammar has a state for each LR(0) item set, after the error state 0.
-/

namespace IncrementalLR

/-- A candidate reduction: the production and its action. -/
structure Reduction where
  production : Nat
  symbol : Nat
  childCount : Nat
  fieldMap : Nat

namespace Grammar

/-- A production as conflict messages show it: literals in single quotes. -/
def describe (g : Grammar) (production : Nat) : String :=
  match g.productions[production]? with
  | none => ""
  | some p =>
    let shown (s : Nat) : String :=
      let name := (g.symbolNames[s]?).getD ""
      if ((g.symbolInfo[s]?).getD ⟨false, false⟩).named then name else "'" ++ name ++ "'"
    p.rhs.foldl (fun out s => out ++ " " ++ shown s) (((g.symbolNames[p.lhs]?).getD "") ++ " ->")

/-- The field names of all productions, sorted, each once. -/
def fieldNames (g : Grammar) : List String :=
  (sortBy (fun a b => decide (a ≤ b)) (g.productions.toList.flatMap fun p => p.fields.map (·.2))).eraseDups

/-- The field maps, the first one empty, and the field map of every production. -/
def fieldMaps (g : Grammar) (names : List String) : Array (List FieldEntry) × Array Nat :=
  -- field ids are 16 bits wide: one more than the name's place, wrapping past 65535
  let fieldId (name : String) : Nat := (names.idxOf? name).map (fun i => (i + 1) % 65536) |>.getD 0
  let add (acc : Array (List FieldEntry) × Array Nat) (p : Production) :=
    let (maps, ids) := acc
    let entries := sortBy (fun a b => a.field < b.field || (a.field == b.field && a.child ≤ b.child))
      (p.fields.map fun (child, name) => (⟨fieldId name, child⟩ : FieldEntry))
    match maps.findIdx? (· == entries) with
    | some id => (maps, ids.push id)
    | none => (maps.push entries, ids.push maps.size)
  g.productions.foldl add (#[[]], #[])

/-- Adds a reduction to the reductions of `lookahead`, unless one of the same production
    is there. -/
def addReduction (cells : List (Nat × List Reduction)) (lookahead : Nat) (r : Reduction) :
    List (Nat × List Reduction) :=
  match cells.lookup lookahead with
  | some rs =>
    if rs.any (·.production == r.production) then cells
    else cells.map fun (s, rs) => if s == lookahead then (s, rs ++ [r]) else (s, rs)
  | none => cells ++ [(lookahead, [r])]

/-- The action of one cell, or the conflict in it. -/
def cellAction (g : Grammar) (state symbol : Nat) (shift : Option Nat)
    (reductions : List Reduction) (accept : Bool) : Except GrammarError (Option Action) :=
  let conflict (detail : String) : GrammarError :=
    .conflict state symbol ((g.symbolNames[symbol]?).getD "") detail
  match shift, reductions with
  | some _, r :: _ => .error (conflict ("shift/reduce with \x60" ++ g.describe r.production ++ "\x60"))
  | _, r :: rest =>
    if !rest.isEmpty || accept then
      let shown := (r :: rest).map fun r => "\x60" ++ g.describe r.production ++ "\x60"
      .error (conflict ("reduce/reduce between " ++ " and ".intercalate shown))
    else .ok (some (.reduce r.symbol r.childCount r.fieldMap))
  | some target, [] => .ok (some (.shift target false))
  | none, [] => .ok (if accept then some .accept else none)

/-- The cells of one state, stored into the action and goto arrays. -/
def fillState (g : Grammar) (follow : Array (List Nat)) (mapIds : Array Nat)
    (acc : Array (List Action) × Array Nat) (index : Nat) (items : List LrItem)
    (edges : List (Nat × Nat)) : Except GrammarError (Array (List Action) × Array Nat) := do
  let (actions, gotos) := acc
  let state := index + 1
  let tc := g.tokenCount
  let ntc := g.nonterminalCount
  let scan (acc : List (Nat × Nat) × List (Nat × List Reduction) × Bool) (item : LrItem) :=
    let (shifts, reductions, accepts) := acc
    match g.productions[item.1]? with
    | none => acc
    | some p =>
      match p.rhs[item.2]? with
      | some s =>
        if g.isTerminal s then
          match edges.lookup s with
          | some t => ((shifts.filter (·.1 != s)) ++ [(s, t + 1)], reductions, accepts)
          | none => acc
        else acc
      | none =>
        if item.1 = 0 then (shifts, reductions, true)
        else
          let r : Reduction := ⟨item.1, p.lhs, p.rhs.length, (mapIds[item.1]?).getD 0⟩
          let reductions := ((follow[g.offset p.lhs]?).getD []).foldl
            (fun cells la => addReduction cells la r) reductions
          (shifts, reductions, accepts)
  let (shifts, reductions, accepts) := items.foldl scan ([], [], false)
  let gotos := edges.foldl (fun gotos (s, t) =>
    if g.isTerminal s then gotos else gotos.setIfInBounds (state * ntc + g.offset s) (t + 1)) gotos
  let actions ← (List.range tc).foldlM (fun actions symbol => do
    let action ← g.cellAction state symbol (shifts.lookup symbol)
      ((reductions.lookup symbol).getD []) (accepts && symbol == endSymbol)
    let cell := match action with
      | some a => [a]
      | none => if g.extras.contains symbol then [.shift state true] else []
    pure (actions.setIfInBounds (state * tc + symbol) cell)) actions
  pure (actions, gotos)

/-- The lex modes of all states, adding one lex state to the lex table for each
    distinct set of valid table tokens. -/
def lexModes (g : Grammar) (stateCount : Nat) (actions : Array (List Action)) :
    Array LexMode × LexTable :=
  let tc := g.tokenCount
  let tokens := List.range' 1 (tc - 1)
  let internalAll := tokens.filter fun s => !g.externals.contains s
  let step (acc : Array LexMode × LexTable × List (List Nat × Nat) × List (List Nat × Nat))
      (state : Nat) :=
    let (modes, lex, lexStates, scannerStates) := acc
    let (internal, external) :=
      if state = 0 then (internalAll, g.externals)
      else
        let valid := tokens.filter fun s => !((actions[state * tc + s]?).getD []).isEmpty
        valid.partition fun s => !g.externals.contains s
    let (lexState, lex, lexStates) :=
      match lexStates.lookup internal with
      | some id => (id, lex, lexStates)
      | none =>
        let (lex, id) := lex.addState internal
        (id, lex, lexStates ++ [(internal, id)])
    let (scannerState, scannerStates) :=
      if external.isEmpty then (0, scannerStates)
      else match scannerStates.lookup external with
        | some id => (id, scannerStates)
        | none => (scannerStates.length + 1, scannerStates ++ [(external, scannerStates.length + 1)])
    (modes.push ⟨lexState, scannerState⟩, lex, lexStates, scannerStates)
  let (modes, lex, _, _) := (List.range stateCount).foldl step (#[], g.lexTable, [], [])
  (modes, lex)

/-- The parse table of the grammar, with `fields` giving the field maps and the field map
    of every production. -/
def tableWith (g : Grammar) (sets : ItemSets) (fields : Array (List FieldEntry) × Array Nat) :
    Except GrammarError ParseTable := do
  let tc := g.tokenCount
  let ntc := g.nonterminalCount
  let stateCount := sets.states.size + 1
  let follow := g.followSets
  let start : Array (List Action) × Array Nat :=
    (Array.replicate (stateCount * tc) [], Array.replicate (stateCount * ntc) 0)
  let (actions, gotos) ← (sets.states.toList.zipIdx).foldlM (fun acc (items, index) =>
    g.fillState follow fields.2 acc index items ((sets.transitions[index]?).getD [])) start
  let (modes, lex) := g.lexModes stateCount actions
  pure { name := g.name, version := newestVersion, symbolNames := g.symbolNames,
         symbolInfo := g.symbolInfo, tokenCount := tc, stateCount, actions, gotos,
         lexModes := modes, lexTable := lex, fieldNames := g.fieldNames.toArray,
         fieldMaps := fields.1, externals := g.externals.toArray, scanner := g.scanner }

/-- The parse table of the grammar. Production ids are 16 bits wide: a grammar whose field
    maps need a number past 65535 is refused before any cell is filled. -/
def table (g : Grammar) (sets : ItemSets) : Except GrammarError ParseTable :=
  let fields := g.fieldMaps g.fieldNames
  if fields.2.any (· > 65535) then .error (.tooLarge "productions")
  else g.tableWith sets fields

end Grammar

/-- Builds the parse table of a grammar description. -/
def GrammarSpec.build (spec : GrammarSpec) : Except GrammarError ParseTable := do
  let g ← Grammar.ofSpec spec
  let sets ← g.itemSets
  g.table sets

end IncrementalLR
