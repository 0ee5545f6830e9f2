import IncrementalLR.Regex.Draft
import IncrementalLR.Regex.Utf8Ranges

/-!
# Compiling expressions into automata

`Regex.draft` builds the automaton of an expression as a draft, reading forwards or
backwards, with or without states for capture groups, and under an optional memory limit;
`Automaton.ofRegex` finishes the forward draft without capture states.
-/

namespace IncrementalLR.Regex

/-- How an automaton is built. -/
structure BuildOptions where
  reverse : Bool := false
  captures : Bool := false
  limit : Option Nat := none

/-- A compiled piece: where it starts and the state whose exit is still open. -/
structure Fragment where
  start : Nat
  exit : Nat

/-- A forwarding state, to be led on. -/
def emptyFragment : Build Fragment := do
  let id ← addState (.empty 0)
  pure ⟨id, id⟩

/-- The piece that never matches. -/
def failFragment : Build Fragment := do
  let id ← addState .fail
  pure ⟨id, id⟩

/-- One byte from a range. -/
def rangeFragment (lo hi : Nat) : Build Fragment := do
  let id ← addState (.range lo hi 0)
  pure ⟨id, id⟩

/-- An assertion. -/
def lookFragment (l : Look) : Build Fragment := do
  let id ← addState (.look l 0)
  pure ⟨id, id⟩

/-- A branch whose targets are tried in the order they are added, or in the reverse
    order when `greedy` is false. -/
def addBranch (greedy : Bool) : Build Nat :=
  addState (if greedy then .branch #[] else .branchRev #[])

/-- The pieces one after the other in reading order. -/
def chainFragments (opts : BuildOptions) (pieces : List (Build Fragment)) : Build Fragment :=
  match (if opts.reverse then pieces.reverse else pieces) with
  | [] => emptyFragment
  | first :: rest => do
    let f ← first
    let exit ← rest.foldlM (fun exit piece => do
      let g ← piece
      patch exit g.start
      pure g.exit) f.exit
    pure ⟨f.start, exit⟩

/-- A branch to each piece, all joined in one forwarding state. -/
def altFragments (pieces : List (Build Fragment)) : Build Fragment :=
  match pieces with
  | [] => failFragment
  | [piece] => piece
  | p1 :: p2 :: rest => do
    let first ← p1
    let second ← p2
    let union ← addState (.branch #[])
    let exit ← addState (.empty 0)
    patch union first.start
    patch first.exit exit
    patch union second.start
    patch second.exit exit
    for piece in rest do
      let f ← piece
      patch union f.start
      patch f.exit exit
    pure ⟨union, exit⟩

/-- One state with a transition for each range, all leading to a forwarding state. -/
def rangesFragment (ranges : List (Nat × Nat)) : Build Fragment := do
  let exit ← addState (.empty 0)
  let start ← addState (.sparse (ranges.map fun (a, b) => (a, b, exit)))
  pure ⟨start, exit⟩

/-- A node of a UTF-8 tree whose state is not built yet: its finished transitions and
    the range of the transition still being extended. -/
structure OpenNode where
  moves : Array (Nat × Nat × Nat)
  last : Option (Nat × Nat)
deriving Inhabited

/-- The node with its pending transition led to `next`. -/
def OpenNode.close (n : OpenNode) (next : Nat) : OpenNode :=
  match n.last with
  | some (a, b) => ⟨n.moves.push (a, b, next), none⟩
  | none => n

/-- Building a UTF-8 tree: the open path from its root. -/
abbrev TreeBuild := StateT (Array OpenNode) Build

/-- The state with the given transitions: one from the class cache, or a new one. -/
def internNode (moves : List (Nat × Nat × Nat)) : Build Nat := do
  let hash := transitionsHash moves
  match (← get).classCache.find? hash moves with
  | some id => pure id
  | none =>
    let id ← addState (.sparse moves)
    modify fun d => { d with classCache := d.classCache.insert hash moves id }
    pure id

/-- Builds the open nodes deeper than `depth`, deepest first, each led to from the
    pending transition of its parent; the pending transition at `depth` then leads to
    the last one built, or to `target` if none was. -/
def closeFrom (target depth : Nat) : TreeBuild Unit := do
  let rec go (next : Nat) : Nat → TreeBuild Nat
    | 0 => pure next
    | fuel + 1 => do
      let path ← get
      if depth + 1 < path.size then
        let node := (path[path.size - 1]?.getD default).close next
        set path.pop
        let id ← (internNode node.moves.toList : Build Nat)
        go id fuel
      else pure next
  let next ← go target (← get).size
  modify fun path => path.modify (path.size - 1) (·.close next)

/-- Adds the byte ranges of one UTF-8 sequence, which must not come before the one
    added last. -/
def addSequence (target : Nat) (seq : List (Nat × Nat)) : TreeBuild Unit := do
  let path ← get
  let shared := ((seq.zip path.toList).takeWhile fun (r, n) => n.last = some r).length
  closeFrom target shared
  match seq.drop shared with
  | [] => pure ()
  | first :: more =>
    modify fun path =>
      let path := path.modify (path.size - 1) fun n => { n with last := some first }
      more.foldl (fun p r => p.push ⟨#[], some r⟩) path

/-- A class of code points read forwards: a tree over the UTF-8 sequences of its
    ranges, in order. -/
def charsForward (s : CodeSet) : Build Fragment := do
  let target ← addState (.empty 0)
  modify fun d => { d with classCache := d.classCache.clear }
  let run : TreeBuild Nat := do
    for (a, b) in s.ranges do
      for seq in utf8Sequences a b do
        addSequence target seq
    closeFrom target 0
    let root := (← get)[0]?.getD default
    internNode root.moves.toList
  let (start, _) ← run.run #[⟨#[], none⟩]
  pure ⟨start, target⟩

/-- A class of code points read backwards: a branch to one chain of byte ranges per
    UTF-8 sequence, last byte first, sharing chains that end alike. -/
def charsReverse (s : CodeSet) : Build Fragment := do
  modify fun d => { d with suffixCache := d.suffixCache.clear }
  let union ← addState (.branch #[])
  let altEnd ← addState (.empty 0)
  for (a, b) in s.ranges do
    for seq in utf8Sequences a b do
      let first ← seq.foldlM (fun exit (lo, hi) => do
        let key := (exit, lo, hi)
        let hash := suffixHash key
        match (← get).suffixCache.find? hash key with
        | some id => pure id
        | none =>
          let id ← addState (.range lo hi exit)
          modify fun d => { d with suffixCache := d.suffixCache.insert hash key id }
          pure id) altEnd
      patch union first
  pure ⟨union, altEnd⟩

/-- A class of code points. -/
def charsFragment (opts : BuildOptions) (s : CodeSet) : Build Fragment :=
  if s.isAscii then rangesFragment s.ranges
  else if opts.reverse then charsReverse s
  else charsForward s

/-- A node of a trie of literals: its transitions as bytes and child nodes, and the
    chunks it is divided into. A chunk closes each time a literal ends at the node, and
    transitions are added to the open chunk only, in byte order, so that literals keep
    their preference order. -/
structure TrieNode where
  edges : Array (Nat × Nat)
  chunks : Array (Nat × Nat)
deriving Inhabited

namespace TrieNode

/-- Where the open chunk starts. -/
def openStart (n : TrieNode) : Nat := (n.chunks.back?.map (·.2)).getD 0

/-- The transitions of the open chunk. -/
def openEdges (n : TrieNode) : Array (Nat × Nat) := n.edges.extract n.openStart n.edges.size

/-- The chunks in order, the open one last. -/
def chunkList (n : TrieNode) : List (List (Nat × Nat)) :=
  n.chunks.toList.map (fun (a, b) => (n.edges.extract a b).toList) ++ [n.openEdges.toList]

/-- Marks that a literal ends here, closing the open chunk. -/
def addMatch (n : TrieNode) : TrieNode :=
  if n.edges.isEmpty && !n.chunks.isEmpty then n
  else { n with chunks := n.chunks.push (n.openStart, n.edges.size) }

end TrieNode

/-- The child of trie node `node` on byte `b` in its open chunk, added if missing. -/
def trieChild (t : Array TrieNode) (node b : Nat) : Array TrieNode × Nat :=
  let n := t[node]?.getD default
  let active := n.openEdges
  match active.find? (·.1 == b) with
  | some (_, c) => (t, c)
  | none =>
    let pos := n.openStart + (active.filter (·.1 < b)).size
    let c := t.size
    let edges := (n.edges.extract 0 pos).push (b, c) ++ n.edges.extract pos n.edges.size
    ((t.push default).modify node fun m => { m with edges := edges }, c)

/-- The trie of the literals, their bytes in reading order. -/
def trieOf (reverse : Bool) (literals : List (List UInt8)) : Array TrieNode :=
  literals.foldl (fun t lit =>
    let bytes := (if reverse then lit.reverse else lit).map UInt8.toNat
    let (t, last) := bytes.foldl (fun (acc : Array TrieNode × Nat) b => trieChild acc.1 acc.2 b)
      (t, 0)
    t.modify last TrieNode.addMatch) #[default]

/-- The states of a trie node: per chunk a state reading its bytes, with the end of
    the trie between chunks, all under one branch. -/
def trieNodeState (t : Array TrieNode) (exit : Nat) : Nat → Nat → Build Nat
  | 0, _ => pure exit
  | fuel + 1, i => do
    let mut targets : Array Nat := #[]
    let mut first := true
    for chunk in (t[i]?.getD default).chunkList do
      if !first then targets := targets.push exit
      first := false
      let mut moves : Array (Nat × Nat × Nat) := #[]
      for (b, c) in chunk do
        if ((t[c]?.map (·.edges.isEmpty)).getD true) then moves := moves.push (b, b, exit)
        else
          let id ← trieNodeState t exit fuel c
          moves := moves.push (b, b, id)
      match moves.toList with
      | [] => pure ()
      | [(lo, hi, next)] => targets := targets.push (← addState (.range lo hi next))
      | more => targets := targets.push (← addState (.sparse more))
    addState (.branch targets)

/-- An alternation of literals, as a trie. -/
def trieFragment (opts : BuildOptions) (literals : List (List UInt8)) : Build Fragment := do
  let exit ← addState (.empty 0)
  let t := trieOf opts.reverse literals
  let start ← trieNodeState t exit t.size 0
  pure ⟨start, exit⟩

/-- The bytes of alternatives that are all literals. -/
def allLiterals : List Regex → Option (List (List UInt8))
  | [] => some []
  | .literal bs :: rest => (allLiterals rest).map (bs :: ·)
  | _ => none

/-- A capture group around a piece, when capture groups are built. -/
def captureFragment (opts : BuildOptions) (inner : Build Fragment) : Build Fragment :=
  if opts.captures then do
    let start ← addState (.capture 0)
    let f ← inner
    let exit ← addState (.capture 0)
    patch start f.start
    patch f.exit exit
    pure ⟨start, exit⟩
  else inner

/-- `x?`: a branch to `x` and past it. -/
def optionalFragment (piece : Build Fragment) (greedy : Bool) : Build Fragment := do
  let union ← addBranch greedy
  let f ← piece
  let exit ← addState (.empty 0)
  patch union f.start
  patch union exit
  patch f.exit exit
  pure ⟨union, exit⟩

/-- `x{n}`: `n` copies in a row. -/
def exactlyFragment (opts : BuildOptions) (piece : Build Fragment) (n : Nat) : Build Fragment :=
  chainFragments opts (List.replicate n piece)

/-- `x{n,}`: `n` copies with the last one repeatable; for `n = 0` a loop, written as
    `(x+)?` when `x` may match the empty text. -/
def atLeastFragment (opts : BuildOptions) (piece : Build Fragment) (pieceMin : Option Nat)
    (greedy : Bool) (n : Nat) : Build Fragment :=
  match n with
  | 0 =>
    if pieceMin.any (· > 0) then do
      let union ← addBranch greedy
      let f ← piece
      patch union f.start
      patch f.exit union
      pure ⟨union, union⟩
    else do
      let f ← piece
      let plus ← addBranch greedy
      patch f.exit plus
      patch plus f.start
      let question ← addBranch greedy
      let exit ← addState (.empty 0)
      patch question f.start
      patch question exit
      patch plus exit
      pure ⟨question, exit⟩
  | 1 => do
    let f ← piece
    let union ← addBranch greedy
    patch f.exit union
    patch union f.start
    pure ⟨f.start, union⟩
  | n + 2 => do
    let pre ← exactlyFragment opts piece (n + 1)
    let last ← piece
    let union ← addBranch greedy
    patch pre.exit last.start
    patch last.exit union
    patch union last.start
    pure ⟨pre.start, union⟩

/-- `x{min,max}` with `min < max`: `min` copies, then `max - min` optional ones, each
    able to skip straight to the end. -/
def boundedFragment (opts : BuildOptions) (piece : Build Fragment) (greedy : Bool)
    (min max : Nat) : Build Fragment := do
  let pre ← exactlyFragment opts piece min
  let exit ← addState (.empty 0)
  let last ← (List.range (max - min)).foldlM (fun prevExit _ => do
    let union ← addBranch greedy
    let f ← piece
    patch prevExit union
    patch union f.start
    patch union exit
    pure f.exit) pre.exit
  patch last exit
  pure ⟨pre.start, exit⟩

/-- A repetition of a piece. -/
def repetitionFragment (opts : BuildOptions) (piece : Build Fragment) (pieceMin : Option Nat)
    (min : Nat) (max : Option Nat) (greedy : Bool) : Build Fragment :=
  match min, max with
  | 0, some 1 => optionalFragment piece greedy
  | min, none => atLeastFragment opts piece pieceMin greedy min
  | min, some max =>
    if min = max then exactlyFragment opts piece min
    else boundedFragment opts piece greedy min max

mutual

/-- The piece of an expression. -/
def fragmentOf (opts : BuildOptions) : Regex → Build Fragment
  | .empty => emptyFragment
  | .literal bs => chainFragments opts (bs.map fun b => rangeFragment b.toNat b.toNat)
  | .chars s => charsFragment opts s
  | .bytes s => rangesFragment s.ranges
  | .look l => lookFragment l
  | .repetition r min max greedy =>
    repetitionFragment opts (fragmentOf opts r) r.minLength min max greedy
  | .capture _ r => captureFragment opts (fragmentOf opts r)
  | .concat rs => chainFragments opts (fragmentsOf opts rs)
  | .alt rs =>
    match allLiterals rs with
    | some literals =>
      if literals.length ≥ 2 then trieFragment opts literals
      else altFragments (fragmentsOf opts rs)
    | none => altFragments (fragmentsOf opts rs)

/-- The pieces of a list of expressions, not yet built. -/
def fragmentsOf (opts : BuildOptions) : List Regex → List (Build Fragment)
  | [] => []
  | r :: rs => fragmentOf opts r :: fragmentsOf opts rs

end

/-- Whether every match must start at the start of the text, or, read backwards, end
    at its end. -/
def anchoredFor (opts : BuildOptions) (r : Regex) : Bool :=
  if opts.reverse then r.trailingLooks &&& Look.textEnd.bit != 0
  else r.leadingLooks &&& Look.textStart.bit != 0

/-- The draft of an expression's automaton and the state where an anchored search
    starts. -/
def draft (opts : BuildOptions) (r : Regex) : Except TooLarge (Draft × Nat) :=
  let run : Build Nat := do
    let pre ← if r.anchoredFor opts then emptyFragment
      else atLeastFragment opts (rangesFragment [(0, 255)]) (some 1) false 0
    let whole ← captureFragment opts (fragmentOf opts r)
    let done ← addState .accept
    patch whole.exit done
    patch pre.exit whole.start
    pure whole.start
  (run.run { limit := opts.limit }).map fun (start, d) => (d, start)

/-- The automaton of an expression, read forwards, without capture states. -/
def Automaton.ofRegex (r : Regex) : Automaton :=
  match r.draft {} with
  | .ok (d, start) => d.finish start
  | .error _ => default

/-- The memory limit of the automata that a search builds. -/
def searchMemoryLimit : Nat := 10485760

/-- Whether the automata of a search fit the memory limit: the forward one with its
    capture states and the backward one without. -/
def fitsSearchMemory (r : Regex) : Bool :=
  let fits (opts : BuildOptions) : Bool :=
    match r.draft opts with
    | .ok _ => true
    | .error _ => false
  fits { captures := true, limit := some searchMemoryLimit } &&
    fits { reverse := true, limit := some searchMemoryLimit }

end IncrementalLR.Regex
