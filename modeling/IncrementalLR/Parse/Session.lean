import IncrementalLR.Parse.Parser
import IncrementalLR.Tree.Cursor
import IncrementalLR.Tree.Diff
import Std.Data.HashSet

/-!
# Editing sessions

A session follows one text through a series of changes: it holds a parser, the current text
and its tree.
-/

namespace IncrementalLR

/-- The visible nodes of a tree in pre-order. -/
def SyntaxTree.nodes (t : SyntaxTree) : List SyntaxNode :=
  (SyntaxNode.ofRoot t.root).descendants t.language.table

/-- The ranges whose visible structure differs between two trees. -/
def SyntaxTree.changedRanges (old new : SyntaxTree) : List TextRange :=
  IncrementalLR.changedRanges old.root new.root

/-- A change to parse options: each given field replaces the current one. -/
structure OptionsUpdate where
  recoveryWindow : Option Nat
  maxStackDepth : Option Nat
  reuseNodes : Option Bool

/-- The options with the given fields replaced. -/
def OptionsUpdate.apply (u : OptionsUpdate) (o : ParseOptions) : ParseOptions :=
  { recoveryWindow := u.recoveryWindow.getD o.recoveryWindow
    maxStackDepth := u.maxStackDepth.getD o.maxStackDepth
    reuseNodes := u.reuseNodes.getD o.reuseNodes }

/-- One step of a session. -/
inductive SessionStep where
  /-- Replace bytes `start .. oldEnd` of the text (clamped to it) and reparse. -/
  | replace (start oldEnd : Nat) (replacement : ByteArray)
  /-- Check the edits, apply them and reparse the given text. -/
  | reparse (edits : List Edit) (text : ByteArray)
  /-- Apply an edit without checking it and reparse the given text. -/
  | rawEdit (edit : Edit) (text : ByteArray)
  /-- Parse a text from scratch. -/
  | parse (text : ByteArray)
  /-- Parse a text against the current tree as it is. -/
  | parseWithOld (text : ByteArray)
  /-- Change some parse options. -/
  | setOptions (update : OptionsUpdate)
  /-- Parse with another language from now on; the current tree stays. -/
  | setLanguage (table : ParseTable)

/-- The state of a session: the parser, the current text and tree, the next unused
    node identity, and the next unused language handle. -/
structure Session where
  parser : Parser
  text : ByteArray
  tree : SyntaxTree
  nextId : Nat
  nextHandle : Nat

/-- What a parsing step reports. -/
structure StepReport where
  tree : SyntaxTree
  log : Array LogLine
  /-- Pre-order indices of the new tree's nodes that are nodes of the tree before the
      step. -/
  shared : List Nat
  /-- The ranges changed against the tree parsed against, if the step had one. -/
  changed : Option (List TextRange)
  /-- The edited tree parsed against, if the step edited one. -/
  edited : Option SyntaxTree
  /-- Whether a parse from scratch gives a tree of the same shape. -/
  freshEq : Bool
  /-- The edit a replacement made. -/
  inputEdit : Option Edit

/-- What a step did: parsed, or changed the configuration. -/
inductive StepOutcome where
  | parsed (report : StepReport)
  | configured

/-- Why a step failed. -/
inductive SessionError where
  | parse (error : ParseError)
  | language (error : TableError)

namespace Session

/-- Starts a session by parsing `text`; gives the session and the parse's log, or
    `none` when the parse never ends. -/
def start (parser : Parser) (text : ByteArray) (next handle : Nat) :
    Option (Except ParseError (Session × Array LogLine)) :=
  (parser.parse text none next).map fun
    | .ok (tree, log, next) => .ok (⟨parser, text, tree, next, handle⟩, log)
    | .error e => .error e

/-- The pre-order indices of the nodes of `new` that are visible nodes of `old`. -/
def sharedNodes (old new : SyntaxTree) : List Nat :=
  let ids : Std.HashSet Nat := old.nodes.foldl (fun acc n => acc.insert n.tree.id) {}
  ((new.nodes.zipIdx.filter fun (n, _) => ids.contains n.tree.id).map (·.2))

/-- Reports a finished parse of `text` into `tree`, and moves the session to it; `none`
    when the parse from scratch it compares with never ends. -/
def finish (s : Session) (text : ByteArray) (result : SyntaxTree × Array LogLine × Nat)
    (against : Option SyntaxTree) (edited : Option SyntaxTree) (inputEdit : Option Edit) :
    Option (Session × StepOutcome) :=
  let (tree, log, next) := result
  let quiet := { s.parser with logging := false }
  (quiet.parse text none next).map fun fresh =>
    let (freshEq, next) := match fresh with
      | .ok (fresh, _, next) => (tree.root.structurallyEq fresh.root, next)
      | .error _ => (false, next)
    let report : StepReport :=
      { tree, log, shared := sharedNodes s.tree tree
        changed := against.map fun old => old.changedRanges tree
        edited, freshEq, inputEdit }
    ({ s with text, tree, nextId := next }, .parsed report)

/-- Finishes a step whose parse gave `result`. -/
def finishWith (s : Session) (text : ByteArray)
    (result : Option (Except ParseError (SyntaxTree × Array LogLine × Nat)))
    (against edited : Option SyntaxTree) (inputEdit : Option Edit) :
    Option (Except SessionError (Session × StepOutcome)) :=
  match result with
  | some (.ok result) => (s.finish text result against edited inputEdit).map .ok
  | some (.error err) => some (.error (.parse err))
  | none => none

/-- Runs one step; a failed step leaves the session unchanged, and a step whose parse
    never ends is `none`. -/
def step (s : Session) : SessionStep → Option (Except SessionError (Session × StepOutcome))
  | .replace start oldEnd replacement =>
    let e := Edit.replacing s.text start oldEnd replacement
    let text := Edit.applyReplacing s.text start oldEnd replacement
    let (edited, next) := s.tree.edit e s.nextId
    s.finishWith text (s.parser.parse text (some edited) next) (some edited) (some edited) (some e)
  | .reparse edits text =>
    match s.parser.reparse s.tree edits text s.nextId with
    | some (.ok (tree, log, next)) =>
      let (edited, next) := Parser.applyEdits s.tree edits next
      (s.finish text (tree, log, next) (some edited) (some edited) none).map .ok
    | some (.error err) => some (.error (.parse err))
    | none => none
  | .rawEdit e text =>
    let (edited, next) := s.tree.edit e s.nextId
    s.finishWith text (s.parser.parse text (some edited) next) (some edited) (some edited) none
  | .parse text => s.finishWith text (s.parser.parse text none s.nextId) none none none
  | .parseWithOld text =>
    s.finishWith text (s.parser.parse text (some s.tree) s.nextId) (some s.tree) none none
  | .setOptions update =>
    some (.ok ({ s with parser := { s.parser with options := update.apply s.parser.options } },
      .configured))
  | .setLanguage table =>
    match s.parser.setLanguage ⟨table, s.nextHandle⟩ with
    | .ok parser => some (.ok ({ s with parser, nextHandle := s.nextHandle + 1 }, .configured))
    | .error err => some (.error (.language err))

end Session

end IncrementalLR
