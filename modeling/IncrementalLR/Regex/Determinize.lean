import Std.Data.TreeSet
import IncrementalLR.Regex.Search
import IncrementalLR.Regex.Compile

/-!
# The size of the determinised automaton

Scanning for the examined length is done by a determinised automaton when one exists within
a memory budget.
-/

namespace IncrementalLR.Regex

/-- The memory budget of a determinised automaton, in bytes. -/
def denseLimit : Nat := 1048576

/-- Bytes taken by the parts of a determinised automaton besides its rows. -/
def denseOverhead : Nat := 52

end IncrementalLR.Regex

namespace IncrementalLR.Regex

/-- Whether a set of assertions holds `l`. -/
def hasBit (set : Nat) (l : Look) : Bool := set &&& l.bit != 0

/-- A state of the determinised automaton. -/
structure DenseState where
  nodes : List Nat
  accepted : Bool
  fromWord : Bool
  halfCrlf : Bool
  known : Nat
  needed : Nat
deriving BEq, Ord, Inhabited

/-- The state with no nodes and nothing known: no match can follow it. -/
def DenseState.dead : DenseState := ⟨[], false, false, false, 0, 0⟩

/-- What kinds of assertions an automaton has. -/
structure LookKinds where
  anchor : Bool
  line : Bool
  crlf : Bool
  word : Bool

/-- The kinds of assertions among the nodes. -/
def lookKinds (nodes : Array Node) : LookKinds :=
  let add (k : LookKinds) (n : Node) : LookKinds :=
    match n with
    | .look l _ =>
      { anchor := k.anchor || l == .textStart || l == .textEnd,
        line := k.line || l.isLine, crlf := k.crlf || l.isCrlf, word := k.word || l.isWord }
    | _ => k
  nodes.foldl add ⟨false, false, false, false⟩

/-- Every node reached from `stack` without reading, in order, including branches and
    assertions that do not hold; assertions in `known` are passed through. -/
def storeClosure (nodes : Array Node) (known : Nat) :
    Nat → List Nat → Std.TreeSet Nat → Array Nat → Std.TreeSet Nat × Array Nat
  | 0, _, seen, out => (seen, out)
  | _, [], seen, out => (seen, out)
  | fuel + 1, s :: rest, seen, out =>
    if seen.contains s then storeClosure nodes known fuel rest seen out
    else
      let seen := seen.insert s
      let out := out.push s
      match nodes[s]? with
      | some (.split targets) => storeClosure nodes known fuel (targets ++ rest) seen out
      | some (.look l next) =>
        if hasBit known l then storeClosure nodes known fuel (next :: rest) seen out
        else storeClosure nodes known fuel rest seen out
      | _ => storeClosure nodes known fuel rest seen out

/-- The assertions that the nodes wait for. -/
def neededLooks (nodes : Array Node) (set : List Nat) : Nat :=
  set.foldl (fun (acc : Nat) (s : Nat) =>
    match (nodes[s]? : Option Node) with
    | some (.look l _) => acc ||| l.bit
    | _ => acc) 0

/-- The assertions about the position before `unit` that become known once `unit` (a
    byte, or none for the end of the text) is seen. -/
def aheadLooks (s : DenseState) (unit : Option Nat) : Nat :=
  let isWord := match unit with | some b => Haystack.isWordByte b | none => false
  let crlfEnd :=
    match unit with
    | some 13 => Look.crlfEnd.bit
    | some 10 => if s.halfCrlf then 0 else Look.crlfEnd.bit
    | some _ => 0
    | none => Look.textEnd.bit ||| Look.lineEnd.bit ||| Look.crlfEnd.bit
  let lineEnd := if unit = some 10 then Look.lineEnd.bit else 0
  let crlfStart := if s.halfCrlf && unit ≠ some 10 then Look.crlfStart.bit else 0
  let boundary :=
    if s.fromWord == isWord then Look.notWordAscii.bit ||| Look.notWordUnicode.bit
    else Look.wordAscii.bit ||| Look.wordUnicode.bit
  let endHalf := if !isWord then Look.wordEndHalfAscii.bit ||| Look.wordEndHalfUnicode.bit else 0
  let edge :=
    if s.fromWord && !isWord then Look.wordEndAscii.bit ||| Look.wordEndUnicode.bit
    else if !s.fromWord && isWord then Look.wordStartAscii.bit ||| Look.wordStartUnicode.bit
    else 0
  crlfEnd ||| lineEnd ||| crlfStart ||| boundary ||| endHalf ||| edge

/-- The targets of the nodes over one unit, in order, stopping at the first accepting
    node. -/
def denseTargets (nodes : Array Node) (unit : Option Nat) : List Nat → Bool × List Nat
  | [] => (false, [])
  | t :: ts =>
    match nodes[t]? with
    | some .accept => (true, [])
    | some (.bytes moves) =>
      let (accepted, rest) := denseTargets nodes unit ts
      let here := match unit with
        | some b => (transTarget b moves).toList
        | none => []
      (accepted, here ++ rest)
    | _ => denseTargets nodes unit ts

/-- The state entered from `s` on `unit`. -/
def denseNext (a : Automaton) (kinds : LookKinds) (s : DenseState) (unit : Option Nat) :
    DenseState :=
  let bound := a.edgeBound
  let current :=
    if s.needed = 0 then s.nodes
    else
      let known := s.known ||| aheadLooks s unit
      if (known ^^^ s.known) &&& s.needed = 0 then s.nodes
      else (storeClosure a.nodes known (bound + s.nodes.length) s.nodes {} #[]).2.toList
  let isWord := match unit with | some b => Haystack.isWordByte b | none => false
  let behind :=
    (if kinds.line && unit = some 10 then Look.lineStart.bit else 0) |||
    (if kinds.crlf && unit = some 13 then Look.crlfStart.bit else 0) |||
    (if kinds.word && !isWord then Look.wordStartHalfAscii.bit ||| Look.wordStartHalfUnicode.bit
     else 0)
  let (accepted, targets) := denseTargets a.nodes unit current
  let set := (storeClosure a.nodes behind (bound + targets.length) targets {} #[]).2.toList
  let needed := neededLooks a.nodes set
  { nodes := set, accepted,
    fromWord := !set.isEmpty && kinds.word && isWord,
    halfCrlf := !set.isEmpty && kinds.crlf && unit = some 13,
    known := if needed = 0 then 0 else behind, needed }

/-- The start states, one for each kind of text before the start: none at all, a line
    feed, a carriage return, a line terminator, a word byte, another byte. -/
def denseStarts (a : Automaton) (kinds : LookKinds) : List DenseState :=
  let half := if kinds.word then Look.wordStartHalfAscii.bit ||| Look.wordStartHalfUnicode.bit else 0
  let line := if kinds.line then Look.lineStart.bit else 0
  let configs : List (Nat × Bool × Bool) :=
    [((if kinds.anchor then Look.textStart.bit else 0) |||
        (if kinds.line then Look.lineStart.bit ||| Look.crlfStart.bit else 0) ||| half, false, false),
     ((if kinds.line then Look.crlfStart.bit else 0) ||| line ||| half, false, false),
     (half, false, kinds.crlf),
     (line ||| half, false, false),
     (0, kinds.word, false),
     (half, false, false)]
  configs.map fun (known, fromWord, halfCrlf) =>
    let set := (storeClosure a.nodes known (a.edgeBound + 1) [a.start] {} #[]).2.toList
    let needed := neededLooks a.nodes set
    { nodes := set, accepted := false, fromWord, halfCrlf,
      known := if needed = 0 then 0 else known, needed }

/-- The ends of the byte classes: byte `b` ends a class when `b` and `b + 1` are told
    apart by some transition or assertion. -/
def classEnds (nodes : Array Node) (kinds : LookKinds) : Array Bool :=
  let mark (ends : Array Bool) (lo hi : Nat) : Array Bool :=
    let ends := if lo > 0 then ends.setIfInBounds (lo - 1) true else ends
    ends.setIfInBounds hi true
  let markNode (ends : Array Bool) (n : Node) : Array Bool :=
    match n with
    | .bytes moves => moves.foldl (fun e (lo, hi, _) => mark e lo hi) ends
    | _ => ends
  let ends := nodes.foldl markNode (Array.replicate 256 false)
  let ends := if kinds.line || kinds.crlf then mark ends 10 10 else ends
  let ends := if kinds.crlf then mark ends 13 13 else ends
  if kinds.word then
    (List.range 256).foldl (fun e b =>
      if b < 255 && Haystack.isWordByte b != Haystack.isWordByte (b + 1) then e.setIfInBounds b true
      else e) ends
  else ends

/-- The first byte of every byte class. -/
def classStarts (ends : Array Bool) : List Nat :=
  0 :: ((List.range 255).filter fun b => ends[b]?.getD false).map (· + 1)

/-- The smallest power of two that is at least `n`. -/
def powerAtLeast (n : Nat) : Nat :=
  let rec go (p : Nat) : Nat → Nat
    | 0 => p
    | fuel + 1 => if p ≥ n then p else go (2 * p) fuel
  go 1 64

/-- Explores states breadth first; answers false as soon as `count` rows exceed the
    budget. -/
def exploreDense (a : Automaton) (kinds : LookKinds) (units : List (Option Nat))
    (maxRows : Nat) : Nat → Array DenseState → Nat → Std.TreeSet DenseState compare → Nat → Bool
  | 0, _, _, _, _ => true
  | fuel + 1, queue, next, seen, count =>
    match queue[next]? with
    | none => true
    | some s =>
      let visit (acc : Array DenseState × Std.TreeSet DenseState compare × Nat) (u : Option Nat) :=
        let (q, seen, count) := acc
        let t := denseNext a kinds s u
        if seen.contains t then (q, seen, count) else (q.push t, seen.insert t, count + 1)
      let (queue, seen, count) := units.foldl visit (queue, seen, count)
      if count > maxRows then false
      else exploreDense a kinds units maxRows fuel queue (next + 1) seen count

/-- Whether the determinised automaton of `a` fits in the memory budget. -/
def Automaton.fitsDense (a : Automaton) : Bool :=
  let kinds := lookKinds a.nodes
  let starts := classStarts (classEnds a.nodes kinds)
  let stride := powerAtLeast (starts.length + 1)
  let maxRows := (denseLimit - denseOverhead) / (stride * 4)
  let seen : Std.TreeSet DenseState compare := ({} : Std.TreeSet DenseState compare).insert DenseState.dead
  let visit (acc : Array DenseState × Std.TreeSet DenseState compare × Nat) (t : DenseState) :=
    let (q, seen, count) := acc
    if seen.contains t then (q, seen, count) else (q.push t, seen.insert t, count + 1)
  let (queue, seen, count) := (denseStarts a kinds).foldl visit (#[], seen, 2)
  if count > maxRows then false
  else
    exploreDense a kinds ((starts.map some) ++ [none]) maxRows (maxRows + 1) queue 0 seen count

end IncrementalLR.Regex
