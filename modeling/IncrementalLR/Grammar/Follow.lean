import IncrementalLR.Grammar.Productions

/-!
# Nullable, first and follow sets

A nonterminal is nullable when some production of it derives the empty text; its first set
holds the terminals that can begin it; its follow set holds the terminals that can come
right after it, with the end of the input after the start rule.
-/

namespace IncrementalLR

/-- Inserts into a sorted list; the answer says whether it grew. -/
def insertSorted (x : Nat) : List Nat → Bool × List Nat
  | [] => (true, [x])
  | y :: ys =>
    if x < y then (true, x :: y :: ys)
    else if x = y then (false, y :: ys)
    else let (grew, rest) := insertSorted x ys; (grew, y :: rest)

/-- Inserts every element of `xs` into a sorted list; the answer says whether it grew. -/
def insertAll (xs : List Nat) (set : List Nat) : Bool × List Nat :=
  xs.foldl (fun (grew, s) x => let (g, s) := insertSorted x s; (grew || g, s)) (false, set)

/-- The nullable flags and first sets of the nonterminals, by offset. -/
structure FirstSets where
  nullable : Array Bool
  first : Array (List Nat)

namespace Grammar

/-- The nonterminal offset of a symbol. -/
def offset (g : Grammar) (s : Nat) : Nat := s - g.tokenCount

/-- The terminals that can begin `symbols`, and whether all of them are nullable. -/
def firstOfSeq (g : Grammar) (sets : FirstSets) : List Nat → List Nat × Bool
  | [] => ([], true)
  | s :: rest =>
    if g.isTerminal s then ([s], false)
    else
      let here := (sets.first[g.offset s]?).getD []
      if (sets.nullable[g.offset s]?).getD false then
        let (more, all) := g.firstOfSeq sets rest
        (here ++ more, all)
      else (here, false)

/-- One pass over the productions, updating first sets and nullable flags in place. -/
def firstPass (g : Grammar) (sets : FirstSets) : Bool × FirstSets :=
  let step (acc : Bool × FirstSets) (p : Production) : Bool × FirstSets :=
    let (changed, sets) := acc
    let lhs := g.offset p.lhs
    let (terminals, allNullable) := g.firstOfSeq sets p.rhs
    let (grew, set) := insertAll terminals ((sets.first[lhs]?).getD [])
    let sets := { sets with first := sets.first.setIfInBounds lhs set }
    if allNullable && !((sets.nullable[lhs]?).getD false) then
      (true, { sets with nullable := sets.nullable.setIfInBounds lhs true })
    else (changed || grew, sets)
  (g.productions.toList.drop 1).foldl step (false, sets)

/-- Repeats passes until the first sets settle; `fuel` bounds the passes. -/
def firstLoop (g : Grammar) : Nat → FirstSets → FirstSets
  | 0, sets => sets
  | fuel + 1, sets =>
    let (changed, sets) := g.firstPass sets
    if changed then g.firstLoop fuel sets else sets

/-- Nullable flags and first sets. Every pass that changes something adds a terminal
    or a flag, which bounds the passes. -/
def firstSets (g : Grammar) : FirstSets :=
  let n := g.nonterminalCount
  g.firstLoop (n * (g.tokenCount + 1) + 2) ⟨Array.replicate n false, Array.replicate n []⟩

/-- One pass over the productions, adding to follow sets in place. -/
def followPass (g : Grammar) (sets : FirstSets) (follow : Array (List Nat)) :
    Bool × Array (List Nat) :=
  let visit (lhs : Nat) (acc : Bool × Array (List Nat)) (entry : Nat × List Nat) :=
    let (changed, follow) := acc
    let (symbol, after) := entry
    if g.isTerminal symbol then acc
    else
      let (additions, restNullable) := g.firstOfSeq sets after
      let additions :=
        if restNullable then additions ++ ((follow[lhs]?).getD []) else additions
      let target := g.offset symbol
      let (grew, set) := insertAll additions ((follow[target]?).getD [])
      (changed || grew, follow.setIfInBounds target set)
  let step (acc : Bool × Array (List Nat)) (p : Production) :=
    let tails := (List.range p.rhs.length).filterMap fun i =>
      p.rhs[i]?.map fun s => (s, p.rhs.drop (i + 1))
    tails.foldl (visit (g.offset p.lhs)) acc
  (g.productions.toList.drop 1).foldl step (false, follow)

/-- Repeats passes until the follow sets settle; `fuel` bounds the passes. -/
def followLoop (g : Grammar) (sets : FirstSets) : Nat → Array (List Nat) → Array (List Nat)
  | 0, follow => follow
  | fuel + 1, follow =>
    let (changed, follow) := g.followPass sets follow
    if changed then g.followLoop sets fuel follow else follow

/-- The follow sets of the nonterminals, by offset. -/
def followSets (g : Grammar) : Array (List Nat) :=
  let n := g.nonterminalCount
  let start := (Array.replicate n []).setIfInBounds (g.offset g.startSymbol) [endSymbol]
  g.followLoop g.firstSets (n * (g.tokenCount + 1) + 2) start

end Grammar

end IncrementalLR
