import IncrementalLR.Parse.Basic

/-!
# The parse stack

The stack pairs each parse state with the subtree pushed to reach it and the absolute
position just after that subtree.
-/

namespace IncrementalLR

/-- One stack entry: a state, the subtree that led to it, the position after it, and
    the number of entries up to it, itself included. -/
structure StackEntry where
  state : Nat
  subtree : Option Subtree
  position : Length
  height : Nat

/-- The parse stack, top first, with its depth limit. -/
structure Stack where
  entries : List StackEntry
  maxDepth : Nat

namespace Stack

/-- A stack holding only the bottom entry in `state`. -/
def new (state maxDepth : Nat) : Stack := ⟨[⟨state, none, Length.zero, 1⟩], maxDepth⟩

/-- The state on top. -/
def state (s : Stack) : Nat := (s.entries.head?.map (·.state)).getD 0

/-- The position after the subtree on top. -/
def position (s : Stack) : Length := (s.entries.head?.map (·.position)).getD Length.zero

/-- The number of entries. -/
def depth (s : Stack) : Nat := (s.entries.head?.map (·.height)).getD 0

/-- The subtree on top. -/
def topSubtree (s : Stack) : Option Subtree := s.entries.head?.bind (·.subtree)

/-- Pushes a subtree and the state it leads to; fails when the stack is full. -/
def push (s : Stack) (state : Nat) (t : Subtree) : Except ParseError Stack :=
  if s.depth ≥ s.maxDepth then .error (.resourceExhausted s.maxDepth)
  else .ok { s with entries := ⟨state, some t, s.position.add t.totalSize, s.depth + 1⟩ :: s.entries }

/-- Pops the top entry, unless it is the bottom one. -/
def pop (s : Stack) : Option StackEntry × Stack :=
  match s.entries with
  | e :: rest@(_ :: _) => (some e, { s with entries := rest })
  | _ => (none, s)

/-- Pops entries from `entries` until `remaining` subtrees that are not extras are
    gone, never the bottom entry; `popped` collects the subtrees in document order. -/
def popFrom (remaining : Nat) (popped : List Subtree) :
    List StackEntry → List Subtree × List StackEntry
  | [] => (popped, [])
  | e :: rest =>
    if rest.isEmpty || remaining == 0 then (popped, e :: rest)
    else
      match e.subtree with
      | some t =>
        popFrom (if t.isExtra then remaining else remaining - 1) (t :: popped) rest
      | none => popFrom remaining popped rest

theorem popFrom_zero (popped : List Subtree) (es : List StackEntry) :
    popFrom 0 popped es = (popped, es) := by
  cases es <;> simp [popFrom]

/-- Above the bottom entry, an entry with a subtree is popped. -/
theorem popFrom_cons_some {remaining : Nat} {popped : List Subtree} {e below : StackEntry}
    {rest : List StackEntry} {t : Subtree} (hr : remaining ≠ 0) (ht : e.subtree = some t) :
    popFrom remaining popped (e :: below :: rest) =
      popFrom (if t.isExtra then remaining else remaining - 1) (t :: popped) (below :: rest) := by
  simp [popFrom, hr, ht]

/-- Above the bottom entry, an entry without a subtree is dropped. -/
theorem popFrom_cons_none {remaining : Nat} {popped : List Subtree} {e below : StackEntry}
    {rest : List StackEntry} (hr : remaining ≠ 0) (ht : e.subtree = none) :
    popFrom remaining popped (e :: below :: rest) = popFrom remaining popped (below :: rest) := by
  simp [popFrom, hr, ht]

/-- Pops `count` subtrees that are not extras, with the extras between them, in
    document order. -/
def popCount (s : Stack) (count : Nat) : List Subtree × Stack :=
  let (popped, entries) := popFrom count [] s.entries
  (popped, { s with entries })

/-- Pops everything above the bottom entry, in document order. -/
def popAll (s : Stack) : List Subtree × Stack :=
  match s.entries.reverse with
  | bottom :: rest => (rest.filterMap (·.subtree), { s with entries := [bottom] })
  | [] => ([], s)

/-- The states of the bottom entry and of every entry that is not an extra, top
    first: all that a simulated parse needs. -/
def states (s : Stack) : List Nat :=
  (s.entries.filter fun e => match e.subtree with
    | some t => !t.isExtra
    | none => true).map (·.state)

/-- The error cost of every subtree on the stack. -/
def errorCost (s : Stack) : Nat :=
  s.entries.foldl (fun acc e => acc + ((e.subtree.map (·.errorCost)).getD 0)) 0

end Stack

/-- Splits the extras at the end of a child list off: the children up to the last one
    that is not an extra, and the extras after it. -/
def splitTrailingExtras (children : List Subtree) : List Subtree × List Subtree :=
  let trailing := (children.reverse.takeWhile (·.isExtra)).reverse
  (children.take (children.length - trailing.length), trailing)

end IncrementalLR
