import IncrementalLR.Regex.Automaton

/-!
# Automata under construction

A `Draft` is an automaton while it is being built.
-/

namespace IncrementalLR.Regex

/-- A state of an automaton under construction. -/
inductive DraftState where
  | empty (next : Nat)
  | range (lo hi next : Nat)
  | sparse (moves : List (Nat × Nat × Nat))
  | look (l : Look) (next : Nat)
  | capture (next : Nat)
  | branch (targets : Array Nat)
  | branchRev (targets : Array Nat)
  | fail
  | accept
deriving Inhabited

namespace DraftState

/-- The memory a state takes besides its own `stateBytes`. -/
def heap : DraftState → Nat
  | .sparse moves => 8 * moves.length
  | .branch ts | .branchRev ts => 4 * ts.size
  | _ => 0

/-- The state with its open exit led to `dst`: a branch gains `dst` as its last target,
    a state with one exit has it replaced, and other states stay as they are. -/
def link (s : DraftState) (dst : Nat) : DraftState :=
  match s with
  | .empty _ => .empty dst
  | .range lo hi _ => .range lo hi dst
  | .look l _ => .look l dst
  | .capture _ => .capture dst
  | .branch ts => .branch (ts.push dst)
  | .branchRev ts => .branchRev (ts.push dst)
  | s => s

/-- The memory that linking a state adds: one target of a branch. -/
def linkHeap : DraftState → Nat
  | .branch _ | .branchRev _ => 4
  | _ => 0

/-- Where a state leads without reading or testing anything, when it is a forwarding
    state or a branch with one target. -/
def goto : DraftState → Option Nat
  | .empty next => some next
  | .branch ts | .branchRev ts => if ts.size = 1 then ts[0]? else none
  | _ => none

/-- The finished node of a state that is kept, its targets renumbered by `r`. -/
def toNode (r : Nat → Nat) : DraftState → Node
  | .empty next => .split [r next]
  | .range lo hi next => .bytes [(lo, hi, r next)]
  | .sparse [] => .fail
  | .sparse moves => .bytes (moves.map fun (lo, hi, next) => (lo, hi, r next))
  | .look l next => .look l (r next)
  | .capture next => .split [r next]
  | .branch ts => if ts.isEmpty then .fail else .split (ts.toList.map r)
  | .branchRev ts => if ts.isEmpty then .fail else .split (ts.toList.reverse.map r)
  | .fail => .fail
  | .accept => .accept

end DraftState

/-- A cache with a fixed number of slots, addressed by a hash of the key; `clear` empties
    it by moving to a new generation, which no older entry belongs to. -/
structure BoundedCache (κ : Type) where
  slots : Array (Option (Nat × κ × Nat))
  generation : Nat
deriving Inhabited

namespace BoundedCache

variable {κ : Type}

/-- An empty cache of `capacity` slots. -/
def new (capacity : Nat) : BoundedCache κ := ⟨Array.replicate capacity none, 0⟩

/-- The cache with every entry forgotten. -/
def clear (c : BoundedCache κ) : BoundedCache κ := { c with generation := c.generation + 1 }

/-- The slot of a hash. -/
def slot (c : BoundedCache κ) (hash : Nat) : Nat := hash % c.slots.size

/-- The value stored for `key`, whose hash is `hash`, if its entry survives. -/
def find? [BEq κ] (c : BoundedCache κ) (hash : Nat) (key : κ) : Option Nat :=
  match c.slots[c.slot hash]? with
  | some (some (g, k, v)) => if g == c.generation && k == key then some v else none
  | _ => none

/-- Stores `value` for `key`, replacing whatever was in its slot. -/
def insert (c : BoundedCache κ) (hash : Nat) (key : κ) (value : Nat) : BoundedCache κ :=
  { c with slots := c.slots.set! (c.slot hash) (some (c.generation, key, value)) }

end BoundedCache

/-- One step of the 64-bit FNV-1a hash. -/
def fnvStep (h : UInt64) (x : Nat) : UInt64 := (h ^^^ x.toUInt64) * 1099511628211

/-- The start value of the 64-bit FNV-1a hash. -/
def fnvStart : UInt64 := 14695981039346656037

/-- The hash of a list of transitions, each as its range and target. -/
def transitionsHash (moves : List (Nat × Nat × Nat)) : Nat :=
  (moves.foldl (fun h (lo, hi, next) => fnvStep (fnvStep (fnvStep h lo) hi) next) fnvStart).toNat

/-- The hash of a transition given as its target and range. -/
def suffixHash (key : Nat × Nat × Nat) : Nat :=
  (fnvStep (fnvStep (fnvStep fnvStart key.1) key.2.1) key.2.2).toNat

/-- The memory counted for each state of a draft. -/
def stateBytes : Nat := 32

/-- An automaton under construction, with its memory count and limit and the caches
    for classes of code points. -/
structure Draft where
  states : Array DraftState := #[]
  heap : Nat := 0
  limit : Option Nat := none
  classCache : BoundedCache (List (Nat × Nat × Nat)) := BoundedCache.new 10000
  suffixCache : BoundedCache (Nat × Nat × Nat) := BoundedCache.new 1000
deriving Inhabited

/-- The memory that the states of a draft take. -/
def Draft.memory (d : Draft) : Nat := stateBytes * d.states.size + d.heap

/-- Building stopped because the automaton grew past the memory limit. -/
structure TooLarge where
  limit : Nat
deriving Repr

/-- Building a draft, stopping when it grows too large. -/
abbrev Build := StateT Draft (Except TooLarge)

/-- Stops if the draft has grown past its limit. -/
def checkLimit : Build Unit := do
  let d ← get
  match d.limit with
  | some l => if d.memory > l then throw ⟨l⟩ else pure ()
  | none => pure ()

/-- Adds a state and returns its number. -/
def addState (s : DraftState) : Build Nat := do
  let id ← modifyGet fun d =>
    (d.states.size, { d with states := d.states.push s, heap := d.heap + s.heap })
  checkLimit
  pure id

/-- Leads the open exit of state `src` to state `dst`. -/
def patch (src dst : Nat) : Build Unit := do
  modify fun d =>
    let grow := (d.states[src]?.map DraftState.linkHeap).getD 0
    { d with states := d.states.modify src (·.link dst), heap := d.heap + grow }
  checkLimit

/-- Follows forwarding states from `i` until a state whose new number is known; answers
    that number and the states passed on the way. -/
def chainEnd (states : Array DraftState) (known : Array (Option Nat)) :
    Nat → Nat → List Nat → Nat × List Nat
  | 0, _, passed => (0, passed)
  | fuel + 1, i, passed =>
    match known[i]? with
    | some (some n) => (n, passed)
    | _ =>
      match states[i]?.bind DraftState.goto with
      | some next => chainEnd states known fuel next (i :: passed)
      | none => (0, passed)

/-- The new numbers of the states: kept states are numbered in order, and a forwarding
    state takes the number of the kept state it leads to. -/
def renumbering (states : Array DraftState) : Array Nat :=
  let (kept, _) := states.foldl (fun (acc : Array (Option Nat) × Nat) s =>
    match s.goto with
    | some _ => (acc.1.push none, acc.2)
    | none => (acc.1.push (some acc.2), acc.2 + 1)) (#[], 0)
  let resolved := (List.range states.size).foldl (fun known i =>
    match known[i]? with
    | some none =>
      let (n, passed) := chainEnd states known (states.size + 1) i []
      passed.foldl (fun k j => k.set! j (some n)) known
    | _ => known) kept
  resolved.map (·.getD 0)

/-- The finished automaton of a draft, started at state `start`. -/
def Draft.finish (d : Draft) (start : Nat) : Automaton :=
  let numbers := renumbering d.states
  let r (i : Nat) : Nat := numbers[i]?.getD 0
  let nodes := (d.states.filter fun s => s.goto.isNone).map (·.toNode r)
  ⟨nodes, r start, edgeCount nodes⟩

end IncrementalLR.Regex
