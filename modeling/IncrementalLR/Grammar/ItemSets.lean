import IncrementalLR.Grammar.Productions

/-!
# LR(0) item sets

An item is a production with a dot in its right side.
-/

namespace IncrementalLR

/-- An item: a production and the position of the dot in its right side. -/
abbrev LrItem := Nat × Nat

/-- The order of items: by production, then by dot. -/
def LrItem.le (a b : LrItem) : Bool := a.1 < b.1 || (a.1 == b.1 && a.2 ≤ b.2)

/-- A kernel: items sorted, each once. -/
def kernelOf (items : List LrItem) : List LrItem := (sortBy LrItem.le items).eraseDups

/-- Too many states for a table with 16-bit state numbers. -/
def stateLimit : Nat := 65535

/-- The item sets and their transitions, by ascending symbol. -/
structure ItemSets where
  states : Array (List LrItem)
  transitions : Array (List (Nat × Nat))

namespace Grammar

/-- The symbol after the dot of an item, if any. -/
def next? (g : Grammar) (item : LrItem) : Option Nat :=
  g.productions[item.1]? |>.bind fun p => p.rhs[item.2]?

/-- Closes item list `items` from position `i` on; `expanded` are the nonterminals whose
    productions are already in. -/
def closeFrom (g : Grammar) (byLhs : Array (List Nat)) :
    Nat → Array LrItem → Nat → List Nat → Array LrItem
  | 0, items, _, _ => items
  | fuel + 1, items, i, expanded =>
    match items[i]? with
    | none => items
    | some item =>
      match g.next? item with
      | some s =>
        if !g.isTerminal s && !expanded.contains s then
          let added := ((byLhs[s - g.tokenCount]?).getD []).map fun q => (q, 0)
          g.closeFrom byLhs fuel (items ++ added.toArray) (i + 1) (s :: expanded)
        else g.closeFrom byLhs fuel items (i + 1) expanded
      | none => g.closeFrom byLhs fuel items (i + 1) expanded

/-- The closure of a kernel: the kernel in order, then the added items in the order
    their nonterminals were first met. -/
def closure (g : Grammar) (byLhs : Array (List Nat)) (kernel : List LrItem) : List LrItem :=
  (g.closeFrom byLhs (kernel.length + g.productions.size + 1) kernel.toArray 0 []).toList

/-- The kernels reached from a closed set, by ascending symbol. -/
def successors (g : Grammar) (items : List LrItem) : List (Nat × List LrItem) :=
  let moves := items.filterMap fun item => (g.next? item).map fun s => (s, (item.1, item.2 + 1))
  let symbols := (sortBy (fun a b => a ≤ b) (moves.map (·.1))).eraseDups
  symbols.map fun s => (s, kernelOf ((moves.filter (·.1 == s)).map (·.2)))

/-- Explores item sets breadth first from `queue[i]` on. -/
def explore (g : Grammar) (byLhs : Array (List Nat)) :
    Nat → Array (List LrItem) → ListMap (List LrItem) Nat → Nat → ItemSets →
      Except GrammarError ItemSets
  | 0, _, _, _, _ => .error (.tooLarge "states")
  | fuel + 1, queue, kernels, i, sets =>
    match queue[i]? with
    | none => .ok sets
    | some kernel =>
      let items := g.closure byLhs kernel
      let visit (acc : Array (List LrItem) × ListMap (List LrItem) Nat × List (Nat × Nat))
          (move : Nat × List LrItem) :=
        let (queue, kernels, edges) := acc
        match kernels[move.2]? with
        | some t => (queue, kernels, edges ++ [(move.1, t)])
        | none => (queue.push move.2, kernels.insert move.2 queue.size, edges ++ [(move.1, queue.size)])
      let (queue, kernels, edges) := (g.successors items).foldl visit (queue, kernels, [])
      let sets := ⟨sets.states.push items, sets.transitions.push edges⟩
      if queue.size ≥ stateLimit then .error (.tooLarge "states")
      else g.explore byLhs fuel queue kernels (i + 1) sets

/-- The LR(0) item sets of the grammar, from the augmented start item. -/
def itemSets (g : Grammar) : Except GrammarError ItemSets :=
  let start : List LrItem := [(0, 0)]
  g.explore g.byLhs (stateLimit + 1) #[start] (({} : ListMap (List LrItem) Nat).insert start 0)
    0 ⟨#[], #[]⟩

end Grammar

end IncrementalLR
