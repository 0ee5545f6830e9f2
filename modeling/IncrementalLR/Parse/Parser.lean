import IncrementalLR.Parse.Run

/-!
# Parsers

A parser holds a language, its options and whether it logs, and nothing else between parses,
so one parser serves any number of texts.
-/

namespace IncrementalLR

/-- A language, options and logging, ready to parse. -/
structure Parser where
  language : Option Language
  options : ParseOptions
  logging : Bool

namespace Parser

/-- A parser without a language, with the standard options, not logging. -/
def new : Parser := ⟨none, ParseOptions.standard, false⟩

/-- Sets the language, once its table is checked. -/
def setLanguage (p : Parser) (language : Language) : Except TableError Parser :=
  match language.table.validate with
  | .ok () => .ok { p with language := some language }
  | .error e => .error e

/-- A parser for `language` with the standard options. -/
def ofLanguage (language : Language) : Except TableError Parser := new.setLanguage language

/-- The longest text a tree can describe: offsets are 32 bits wide. -/
def maxInputLength : Nat := 4294967295

/-- Refuses a text longer than `maxInputLength`. -/
def checkInputLength (length : Nat) : Except ParseError Unit :=
  if length > maxInputLength then .error (.resourceExhausted maxInputLength) else .ok ()

/-- Parses `input`, reusing subtrees of `old` when it is from the parser's language and
    reuse is on; `next` is the first unused node identity. The answer gives the tree,
    the log and the next unused identity. -/
def parse (p : Parser) (input : ByteArray) (old : Option SyntaxTree) (next : Nat) :
    Option (Except ParseError (SyntaxTree × Array LogLine × Nat)) :=
  match p.language, checkInputLength input.size with
  | none, _ => some (.error .noLanguage)
  | some _, .error e => some (.error e)
  | some language, .ok () =>
    let oldRoot := (old.filter fun t => t.language.handle == language.handle && p.options.reuseNodes).map
      (·.root)
    (parseText language.table p.options p.logging input oldRoot next).map fun
      | .ok (root, log, next) => .ok (⟨root, language⟩, log, next)
      | .error e => .error e

/-- Applies `edits` to a tree in order. -/
def applyEdits (t : SyntaxTree) (edits : List Edit) (next : Nat) : SyntaxTree × Nat :=
  edits.foldl (fun (t, next) e => t.edit e next) (t, next)

/-- Checks `edits` against `old` and `input`, applies them in order, and parses `input`
    incrementally. -/
def reparse (p : Parser) (old : SyntaxTree) (edits : List Edit) (input : ByteArray)
    (next : Nat) : Option (Except ParseError (SyntaxTree × Array LogLine × Nat)) :=
  match checkInputLength input.size, validateEdits old.sourceLength edits input.size with
  | .error e, _ | .ok (), .error e => some (.error e)
  | .ok (), .ok () =>
    let (edited, next) := applyEdits old edits next
    p.parse input (some edited) next

end Parser

end IncrementalLR
