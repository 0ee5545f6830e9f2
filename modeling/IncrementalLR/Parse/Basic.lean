import IncrementalLR.Tree.Edit
import IncrementalLR.Text.Escape

/-!
# Parse options, errors and log lines

A parse never fails on bad text: syntax errors become error and missing nodes in the tree.
-/

namespace IncrementalLR

/-- Limits and choices of a parse. -/
structure ParseOptions where
  /-- How many tokens a repair must let the parser consume to be taken without looking
      further; also how many tokens may be assumed to complete a truncated text. -/
  recoveryWindow : Nat
  /-- The most stack entries, and the most reductions in a row without a shift. -/
  maxStackDepth : Nat
  /-- Whether subtrees of an old tree may be reused. -/
  reuseNodes : Bool
deriving DecidableEq, Repr

/-- A window of 3 tokens, 65536 stack entries, and reuse of old subtrees. -/
def ParseOptions.standard : ParseOptions := ⟨3, 65536, true⟩

/-- Why a list of edits does not fit the old tree and the new text. -/
inductive EditProblem where
  | outOfOrder
  | overlapping
  | inverted
  | outOfBounds
  | lengthMismatch (expected actual : Nat)
deriving DecidableEq, Repr

/-- The text of an edit problem. -/
def EditProblem.message : EditProblem → String
  | .outOfOrder => "edits must be sorted by ascending start byte"
  | .overlapping => "edit overlaps the previous edit"
  | .inverted => "start byte is after an end byte"
  | .outOfBounds => "edited range is outside the text"
  | .lengthMismatch expected actual =>
    s!"edited tree covers {expected} bytes but the new text has {actual}"

/-- Why a parse failed. -/
inductive ParseError where
  | noLanguage
  | invalidEdit (index : Nat) (problem : EditProblem)
  | resourceExhausted (limit : Nat)
deriving DecidableEq, Repr

/-- The text of a parse error. -/
def ParseError.message : ParseError → String
  | .noLanguage => "no language has been assigned to the parser"
  | .invalidEdit index problem => s!"invalid edit at index {index}: {problem.message}"
  | .resourceExhausted limit => s!"resource limit of {limit} exceeded"

/-- Whether a log line reports a parsing or a lexing decision. -/
inductive LogKind where
  | parse
  | lex
deriving DecidableEq, Repr

/-- One reported decision. -/
structure LogLine where
  kind : LogKind
  text : String
deriving DecidableEq, Repr

/-- A log line as `parse: …` or `lex: …`. -/
def LogLine.render (l : LogLine) : String :=
  (match l.kind with | .parse => "parse: " | .lex => "lex: ") ++ l.text

/-- Checks a list of edits against the old length and the new text's length: each edit
    must start before its ends, after the previous edit's start and its replacement,
    and inside the text as edited so far; the edits together must give the new length. -/
def validateEdits (oldLength : Nat) (edits : List Edit) (newLength : Nat) :
    Except ParseError Unit :=
  let rec go (index length : Nat) (previous : Option Edit) : List Edit → Except ParseError Unit
    | [] =>
      if length ≠ newLength then
        .error (.invalidEdit (edits.length - 1) (.lengthMismatch length newLength))
      else .ok ()
    | e :: rest =>
      let ordered : Except ParseError Unit :=
        if e.startByte > e.oldEndByte ∨ e.startByte > e.newEndByte then
          .error (.invalidEdit index .inverted)
        else
          match previous with
          | some p =>
            if e.startByte < p.startByte then .error (.invalidEdit index .outOfOrder)
            else if e.startByte < p.newEndByte then .error (.invalidEdit index .overlapping)
            else .ok ()
          | none => .ok ()
      match ordered with
      | .error err => .error err
      | .ok () =>
        if e.oldEndByte > length then .error (.invalidEdit index .outOfBounds)
        else go (index + 1) (length - (e.oldEndByte - e.startByte) + (e.newEndByte - e.startByte))
          (some e) rest
  go 0 oldLength none edits

end IncrementalLR
