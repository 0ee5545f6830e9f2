import IncrementalLR.Regex.Basic

/-!
# Byte automata

An `Automaton` is a Thompson automaton over bytes.
-/

namespace IncrementalLR.Regex

/-- A node of a byte automaton. -/
inductive Node where
  | bytes (moves : List (Nat × Nat × Nat))
  | split (targets : List Nat)
  | look (l : Look) (next : Nat)
  | accept
  | fail
deriving Repr, Inhabited, DecidableEq

/-- How many edges leave a node. -/
def Node.degree : Node → Nat
  | .bytes moves => moves.length
  | .split targets => targets.length
  | .look _ _ => 1
  | _ => 0

/-- A bound on the nodes one closure over `nodes` can push: every edge once, plus one. -/
def edgeCount (nodes : Array Node) : Nat :=
  nodes.foldl (fun acc n => acc + n.degree + 1) 1

/-- A byte automaton with its start node, and `edgeCount` of its nodes. -/
structure Automaton where
  nodes : Array Node
  start : Nat
  edgeBound : Nat
deriving Inhabited, DecidableEq

end IncrementalLR.Regex
