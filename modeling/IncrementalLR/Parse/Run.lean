import IncrementalLR.Parse.Recovery

/-!
# The parse loop

A parse walks the text once.
-/

namespace IncrementalLR

/-- The changing state of a parse. -/
structure RunState where
  stack : Stack
  reuse : ReuseCursor
  scannerState : List UInt8
  reductionsSinceShift : Nat
  /-- While an assumed token is pushed, one past the last byte examined to choose it;
      the reductions it triggers cover that text. -/
  repairEnd : Nat
  /-- The identity of the error node last built around skipped tokens, with the summary
      of its children, so that skipping one more token only adds that token. -/
  errorRun : Option (Nat × ChildSummary)
  nextId : Nat
  log : Array LogLine

/-- Parsing steps: they read the context, change the run state, may fail, and may not
    end. -/
abbrev ParseM := ReaderT ParseContext (StateT RunState (ExceptT ParseError Option))

/-- Runs a parsing step in `ctx` from `s`: its value and the state after it, an error,
    or `none` when it never ends. -/
def ParseM.exec {α : Type} (x : ParseM α) (ctx : ParseContext) (s : RunState) :
    Option (Except ParseError (α × RunState)) :=
  ((x.run ctx).run s).run

/-- The next token to feed the table: a fresh leaf, or a subtree of the old tree. -/
structure Lookahead where
  tree : Subtree
  reused : Bool

namespace ParseM

/-- Records a log line when the parse is logged. -/
def say (kind : LogKind) (message : Unit → String) : ParseM Unit := do
  if (← read).logging then
    modify fun s => { s with log := s.log.push ⟨kind, message ()⟩ }

/-- A new node identity. -/
def fresh : ParseM Nat :=
  modifyGet fun s => (s.nextId, { s with nextId := s.nextId + 1 })

/-- The name of a symbol as log lines show it. -/
def name (symbol : Nat) : ParseM String := do
  pure (escapeText ((← read).table.symbolName symbol))

/-- Pushes a subtree onto the stack. -/
def push (state : Nat) (t : Subtree) : ParseM Unit := do
  let s ← get
  match s.stack.push state t with
  | .ok stack => set { s with stack }
  | .error e => throw e

/-- Changes the stack. -/
def withStack {α : Type} (f : Stack → α × Stack) : ParseM α :=
  modifyGet fun s => let (a, stack) := f s.stack; (a, { s with stack })

/-- Changes the reuse cursor. -/
def moveReuse (f : ReuseCursor → ReuseCursor) : ParseM Unit :=
  modify fun s => { s with reuse := f s.reuse }

/-- Lexes a fresh token at `position` in `state` and makes its leaf. -/
def lex (state : Nat) (position : Length) : ParseM Subtree := do
  let ctx ← read
  say .lex fun _ =>
    s!"lex_internal state:{state}, row:{position.extent.row}, column:{position.extent.column}"
  let cursor := (Cursor.new ctx.input).reset position
  let (token, _) := nextToken ctx.table cursor state (← get).scannerState
  let tree := Subtree.ofToken ctx.table (← fresh) token state
  let symbol ← name token.symbol
  say .lex fun _ => s!"lexed_lookahead sym:{symbol}, size:{token.size.bytes}"
  pure tree

/-- Why an old subtree cannot be reused at its own position, if it cannot. -/
def unusable (ctx : ParseContext) (tree : Subtree) (endOffset : Nat) : Option String :=
  if tree.hasChanges then some "has_changes"
  else if tree.isError then some "is_error"
  else if tree.isMissing then some "is_missing"
  else if tree.errorCost > 0 then some "contains_error"
  else if tree.totalBytes = 0 ∨ tree.info.firstLeaf.isNone then some "is_empty"
  else if endOffset > ctx.input.size then some "past_end"
  else none

end ParseM

/-- A parsing log line, when the parse is logged. -/
def ParseContext.note (ctx : ParseContext) (message : Unit → String) : List LogLine :=
  if ctx.logging then [⟨.parse, message ()⟩] else []

/-- Walks the old tree from the cursor to a subtree that starts at `position` and
    would be rebuilt unchanged in `state` after the scanner state `scanner`; gives it,
    the cursor after the walk and the walk's log lines. -/
def reuseWalk (ctx : ParseContext) (state : Nat) (position : Length) (scanner : List UInt8)
    (c : ReuseCursor) : Option Subtree × ReuseCursor × List LogLine :=
  match h : c.path with
  | [] => (none, c, [])
  | entry :: _ =>
    let tree := entry.tree
    let offset := entry.byteOffset
    let endOffset := offset + tree.totalBytes
    let symbol := escapeText (ctx.table.symbolName tree.symbol)
    if offset > position.bytes then
      (none, c, ctx.note fun _ => s!"before_reusable_node symbol:{symbol}")
    else if offset < position.bytes then
      let moved := if endOffset ≤ position.bytes then c.advance else c.descend?.getD c.advance
      have : moved.remaining < c.remaining := by
        have hadvance := ReuseCursor.remaining_advance_lt (c := c) (by simp [h])
        simp only [moved]
        split
        · exact hadvance
        · cases hd : c.descend? with
          | some r => exact ReuseCursor.remaining_descend_lt hd
          | none => exact hadvance
      let (found, c, log) := reuseWalk ctx state position scanner moved
      (found, c, ctx.note (fun _ => s!"past_reusable_node symbol:{symbol}") ++ log)
    else if c.scannerState != scanner then
      have : c.advance.remaining < c.remaining :=
        ReuseCursor.remaining_advance_lt (c := c) (by simp [h])
      let (found, c, log) := reuseWalk ctx state position scanner c.advance
      (found, c,
        ctx.note (fun _ => s!"cant_reuse_node_external_scanner_state symbol:{symbol}") ++ log)
    else
      match ParseM.unusable ctx tree endOffset with
      | some reason =>
        let moved := c.descend?.getD c.advance
        have : moved.remaining < c.remaining := by
          simp only [moved]
          cases hd : c.descend? with
          | some r => exact ReuseCursor.remaining_descend_lt hd
          | none => exact ReuseCursor.remaining_advance_lt (c := c) (by simp [h])
        let (found, c, log) := reuseWalk ctx state position scanner moved
        (found, c, ctx.note (fun _ => s!"cant_reuse_node_{reason} tree:{symbol}") ++ log)
      | none =>
        if (tree.info.firstLeaf.map (·.lexMode)) != some (ctx.table.lexMode state) then
          (none, c.advancePastLeaf, ctx.note fun _ => s!"cant_reuse_node symbol:{symbol}")
        else (some tree, c, ctx.note fun _ => s!"reuse_node symbol:{symbol}")
termination_by c.remaining

/-- Descends from the cursor through first children to a subtree that can be shifted in
    `state`: a leaf, or a node built in `state` whose symbol has a goto there; gives it,
    the cursor after the descent and the descent's log lines. -/
def breakdownWalk (ctx : ParseContext) (state : Nat) (c : ReuseCursor) :
    Option Subtree × ReuseCursor × List LogLine :=
  match c.path with
  | [] => (none, c, [])
  | entry :: _ =>
    let tree := entry.tree
    if tree.childCount = 0 ∨ (tree.parseState = state ∧ ctx.table.goto state tree.symbol ≠ 0) then
      (some tree, c, [])
    else
      let note := ctx.note fun _ =>
        s!"state_mismatch sym:{escapeText (ctx.table.symbolName tree.symbol)}"
      match hd : c.descend? with
      | some r =>
        have : r.remaining < c.remaining := ReuseCursor.remaining_descend_lt hd
        let (found, c, log) := breakdownWalk ctx state r
        (found, c, note ++ log)
      | none => (none, c, note)
termination_by c.remaining

namespace ParseM

/-- Lifts a computation that may not end. -/
def lift {α : Type} (x : Option α) : ParseM α := monadLift x

/-- Appends log lines. -/
def sayAll (lines : List LogLine) : ParseM Unit :=
  modify fun s => { s with log := s.log ++ lines.toArray }

/-- Finds a subtree of the old tree that starts at `position` and would be rebuilt
    unchanged in `state`, moving the reuse cursor past what it rejects. -/
def reuseNode (state : Nat) (position : Length) : ParseM (Option Subtree) := do
  let ctx ← read
  let s ← get
  let (found, reuse, log) := reuseWalk ctx state position s.scannerState s.reuse
  moveReuse fun _ => reuse
  sayAll log
  pure found

/-- Replaces a reused lookahead by the part of it that can be shifted in `state`,
    descending through first children. -/
def breakdown (state : Nat) : ParseM (Option Subtree) := do
  let ctx ← read
  let s ← get
  let (found, reuse, log) := breakdownWalk ctx state s.reuse
  moveReuse fun _ => reuse
  sayAll log
  pure found

/-- A fresh token at the stack's position, replacing a reused lookahead. -/
def relex (state : Nat) : ParseM Lookahead := do
  let position := (← get).stack.position
  pure ⟨← lex state position, false⟩

/-- The next lookahead: a reusable old subtree if there is one, or a fresh token. -/
def nextLookahead : ParseM Lookahead := do
  let s ← get
  let state := s.stack.state
  let position := s.stack.position
  match ← reuseNode state position with
  | some tree => pure ⟨tree, true⟩
  | none => pure ⟨← lex state position, false⟩

/-- Shifts the lookahead into `state`; a leaf becomes an extra or stops being one as
    `extra` says. -/
def shift (state : Nat) (la : Lookahead) (extra : Bool) : ParseM Unit := do
  let id ← fresh
  let tree := if la.tree.childCount = 0 then la.tree.withExtra extra id else la.tree
  match tree.lastExternalToken with
  | some token => modify fun s => { s with scannerState := token.scannerState.getD [] }
  | none => pure ()
  say .parse fun _ => if extra then "shift_extra" else s!"shift state:{state}"
  push state tree
  if la.reused then moveReuse ReuseCursor.advance
  modify fun s => { s with reductionsSinceShift := 0 }

/-- Reduces the top `childCount` subtrees that are not extras to a `symbol` node. The
    node covers what was examined to decide on the reduction. -/
def reduce (symbol childCount production : Nat) (lookahead : Subtree) : ParseM Unit := do
  let ctx ← read
  let s ← get
  let reductions := s.reductionsSinceShift + 1
  set { s with reductionsSinceShift := reductions }
  if reductions > ctx.options.maxStackDepth then
    throw (.resourceExhausted ctx.options.maxStackDepth)
  let lookaheadEnd := Nat.max (s.stack.position.bytes + lookahead.firstLeafEnd) s.repairEnd
  let children ← withStack fun st => st.popCount childCount
  let (children, trailing) := splitTrailingExtras children
  let st := (← get).stack
  let state := st.state
  let nextState := ctx.table.goto state symbol
  let start := st.position.bytes
  let node := (Subtree.node ctx.table (← fresh) symbol children production state).extendLookahead
    (lookaheadEnd - start)
  let symbolName ← name symbol
  say .parse fun _ => s!"reduce sym:{symbolName}, child_count:{childCount}"
  push nextState node
  for extra in trailing do
    push nextState extra

/-- Accepts: the stack becomes the root's children, taking the place of the last
    subtree that is not an extra when that one is a nonterminal node. -/
def accept : ParseM Subtree := do
  let ctx ← read
  say .parse fun _ => "accept"
  let subtrees ← withStack Stack.popAll
  let lastIndex := (subtrees.zipIdx.filter fun (t, _) => !t.isExtra).getLast?.map (·.2)
  let root := lastIndex.bind fun i =>
    subtrees[i]?.bind fun t =>
      if t.symbol ≥ ctx.table.tokenCount ∧ !t.isError then some (i, t) else none
  let (symbol, production, children) :=
    match root with
    | some (i, t) => (t.symbol, t.production, subtrees.take i ++ t.children ++ subtrees.drop (i + 1))
    | none => (errorSymbol, 0, subtrees)
  pure (Subtree.root ctx.table (← fresh) symbol production children ctx.total)

/-- Wraps `token` in an extra error node, merging it into an error node right below. -/
def skipToken (token : Subtree) : ParseM Unit := do
  let ctx ← read
  let symbol ← name token.symbol
  say .parse fun _ => s!"skip_token symbol:{symbol}"
  let state := (← get).stack.state
  match token.lastExternalToken with
  | some ext => modify fun s => { s with scannerState := ext.scannerState.getD [] }
  | none => pure ()
  let mergeable := match (← get).stack.topSubtree with
    | some top => top.isError && top.isExtra
    | none => false
  let id ← fresh
  let run := (← get).errorRun
  let merged ←
    if mergeable then do
      let entry ← withStack Stack.pop
      let childId ← fresh
      let (children, summary) := match entry.bind (·.subtree) with
        | some top =>
          if top.children.isEmpty then
            let children := [top.withExtra false childId, token]
            (children, ChildSummary.ofChildren true children)
          else
            let children := top.children ++ [token]
            match run with
            | some (runId, summary) =>
              if runId == top.id then (children, summary.add true token)
              else (children, ChildSummary.ofChildren true children)
            | none => (children, ChildSummary.ofChildren true children)
        | none => ([token], ChildSummary.ofChildren true [token])
      pure (some (children, summary))
    else if token.isError then pure none
    else pure (some ([token], ChildSummary.ofChildren true [token]))
  let error := match merged with
    | some (children, summary) => Subtree.errorNodeWith ctx.table id children summary true state
    | none => token.withExtra true id
  if let some (_, summary) := merged then modify fun s => { s with errorRun := some (id, summary) }
  push state error
  modify fun s => { s with reductionsSinceShift := 0 }

/-- The best repair for `lookahead` in the current state, with one past the last byte
    that choosing it examined. -/
def chooseFor (lookahead : Subtree) (window : Nat) : ParseM (Option Repair × Nat) := do
  let ctx ← read
  let s ← get
  let state := s.stack.state
  let states := s.stack.states
  let resume := s.stack.position.add lookahead.totalSize
  let start := s.stack.position.bytes + lookahead.firstLeafEnd
  let consider (acc : Option (Repair × Trial × Nat) × Nat) (entry : Repair × Trial × Nat) :=
    let (best, examined) := acc
    let (_, trial, cost) := entry
    (if trial.beats cost best then some entry else best, Nat.max examined trial.examinedEnd)
  let inserts ← lift ((ctx.candidates state).mapM fun symbol =>
    (ctx.simulate s.scannerState states (some symbol) lookahead.symbol resume window).map
      fun trial => (Repair.insert symbol, trial, costPerMissing))
  let deletes ←
    if lookahead.isEnd then pure []
    else do
      let trial ← lift (ctx.simulateFrom s.scannerState states resume 0 window)
      pure [(Repair.delete, trial, costPerSkippedTree + skipCost lookahead.size)]
  let (best, examined) := (inserts ++ deletes).foldl consider (none, start)
  pure (chooseRepair best window lookahead.isEnd, examined)

/-- Logs an assumed token of `symbol` and makes its empty leaf; the reductions it
    triggers cover the text up to `examinedEnd`, which chose it. -/
def missing (symbol examinedEnd : Nat) : ParseM Lookahead := do
  let ctx ← read
  let missingName ← name symbol
  say .parse fun _ => s!"recover_with_missing symbol:{missingName}"
  let leaf := Subtree.missingLeaf ctx.table (← fresh) symbol (← get).stack.state
  modify fun s => { s with repairEnd := examinedEnd }
  pure ⟨leaf, false⟩

/-- Ends the text covered by an assumed token's reductions. -/
def clearRepair : ParseM Unit := modify fun s => { s with repairEnd := 0 }

/-- Feeds one lookahead to the table until it is shifted, the parse is accepted, or
    recovery has dealt with it, in at most `fuel` nested feeds; `none` when that is not
    enough. Recovery feeds assumed tokens before the lookahead. The type is that of a
    parsing step, spelled out, so that the result is one of `Option`. -/
def advanceWithin : Nat → Lookahead →
    ParseContext → RunState → Option (Except ParseError (Option Subtree × RunState))
  | 0, _ => fun _ _ => none
  | fuel + 1, la => show ParseM (Option Subtree) from do
    let ctx ← read
    let state := (← get).stack.state
    match ctx.table.action? state la.tree.leafSymbol with
    | some (.shift next extra) =>
      if la.tree.childCount > 0 then
        let target := ctx.table.goto state la.tree.symbol
        if extra || la.tree.parseState != state || target = 0 then
          match ← breakdown state with
          | some tree => advanceWithin fuel { la with tree }
          | none => advanceWithin fuel (← relex state)
        else
          shift target la false
          pure none
      else
        if extra then shift state la true else shift next la false
        pure none
    | some (.reduce symbol count production) =>
      reduce symbol count production la.tree
      advanceWithin fuel la
    | some .accept => some <$> accept
    | _ =>
      if la.reused then advanceWithin fuel (← relex state)
      else
        let lookahead := la.tree
        let cost := (← get).stack.errorCost
        let symbol ← name lookahead.symbol
        say .parse fun _ => s!"detect_error state:{state}, lookahead:{symbol}, cost:{cost}"
        if lookahead.isError then
          skipToken lookahead
          pure none
        else
          let window := Nat.max ctx.options.recoveryWindow 1
          let states := (← get).stack.states
          let (choice, examined) ← chooseFor lookahead window
          match choice with
          | some (.insert symbol) =>
            let _ ← advanceWithin fuel (← missing symbol examined)
            clearRepair
            advanceWithin fuel ⟨lookahead, false⟩
          | some .delete =>
            skipToken lookahead
            pure none
          | none =>
            match ctx.shortestCompletion states window with
            | some path =>
              let examinedEnd := (← get).stack.position.bytes + lookahead.firstLeafEnd
              path.forM fun symbol => do
                let _ ← advanceWithin fuel (← missing symbol examinedEnd)
                clearRepair
              advanceWithin fuel ⟨lookahead, false⟩
            | none =>
              say .parse fun _ => "recover_eof"
              let children ← withStack Stack.popAll
              pure (some (Subtree.root ctx.table (← fresh) errorSymbol 0 children ctx.total))

/-- Feeds one lookahead to the table until it is shifted, the parse is accepted, or
    recovery has dealt with it; `none` when this does not end within the reduction
    limit and `loopLimit` nested feeds. -/
def advance (la : Lookahead) (ctx : ParseContext) :
    RunState → Option (Except ParseError (Option Subtree × RunState)) :=
  advanceWithin (ctx.options.maxStackDepth + loopLimit) la ctx

/-- One round of the parse: the next lookahead, fed to the table. -/
def round : ParseM (Option Subtree) := do
  advance (← nextLookahead)

end ParseM

/-- At most `fuel` rounds of the whole parse until the root is made; `none` when they
    are not enough. -/
def runLoopWithin : Nat → ParseContext → RunState →
    Option (Except ParseError (Subtree × RunState))
  | 0, _, _ => none
  | fuel + 1, ctx, s =>
    match ParseM.round.exec ctx s with
    | some (.ok (some root, s)) => some (.ok (root, s))
    | some (.ok (none, s)) => runLoopWithin fuel ctx s
    | some (.error e) => some (.error e)
    | none => none

/-- Rounds of the whole parse until the root is made; `none` when they do not end within
    `loopLimit` rounds. -/
def runLoop (ctx : ParseContext) (s : RunState) :
    Option (Except ParseError (Subtree × RunState)) :=
  runLoopWithin loopLimit ctx s

/-- The state a parse starts in: the start state alone on the stack, the reuse cursor at
    the root of the old tree if there is one, and `next` as the first unused identity. -/
def RunState.initial (options : ParseOptions) (logging : Bool) (old : Option Subtree)
    (next : Nat) : RunState :=
  { stack := Stack.new startState (Nat.max options.maxStackDepth 2),
    reuse := (old.map ReuseCursor.start).getD ReuseCursor.empty,
    scannerState := [], reductionsSinceShift := 0, repairEnd := 0, errorRun := none,
    nextId := next,
    log := if logging then #[⟨.parse, if old.isSome then "parse_after_edit" else "new_parse"⟩]
      else #[] }

/-- Parses `input` with `table`, reusing subtrees of `old` when it is given. `next` is
    the first unused node identity; the answer gives the root, the log and the next
    unused identity, and is `none` when the parse never ends. -/
def parseText (table : ParseTable) (options : ParseOptions) (logging : Bool)
    (input : ByteArray) (old : Option Subtree) (next : Nat) :
    Option (Except ParseError (Subtree × Array LogLine × Nat)) :=
  let ctx : ParseContext :=
    { table, options, input, total := Length.of input.toList, logging,
      incremental := old.isSome }
  (runLoop ctx (RunState.initial options logging old next)).map fun
    | .ok (root, s) =>
      let log := if logging then s.log.push ⟨.parse, "done"⟩ else s.log
      .ok (root, log, s.nextId)
    | .error e => .error e

end IncrementalLR
