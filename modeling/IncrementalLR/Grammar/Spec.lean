import IncrementalLR.Lex.Scanner

/-!
# Grammar descriptions

A grammar is written as data: named tokens with patterns, literal tokens, scanner tokens,
extras that may stand between any two tokens, and rules whose alternatives are strings of
items separated by white space.
-/

namespace IncrementalLR

/-- How a named token is recognised. -/
inductive TokenSource where
  | pattern (source : String)
  | scanner
deriving DecidableEq, Repr

/-- A named token of a grammar. -/
structure TokenDecl where
  name : String
  source : TokenSource
  extra : Bool
deriving DecidableEq, Repr

/-- A rule and its alternatives, each a string of items. -/
structure RuleDecl where
  name : String
  alternatives : List String
deriving DecidableEq, Repr

/-- A grammar as given: its parts in the order they were declared. -/
structure GrammarSpec where
  name : String
  tokens : List TokenDecl
  literals : List String
  extraNames : List String
  rules : List RuleDecl
  skip : Option String
  scanner : Option Scanner

/-- The skip pattern of a grammar that does not choose one: white space. -/
def defaultSkip : String := "\\s+"

namespace GrammarSpec

/-- A grammar with nothing in it yet, skipping white space between tokens. -/
def new (name : String) : GrammarSpec := ⟨name, [], [], [], [], some defaultSkip, none⟩

/-- Adds a named token matched by a pattern. -/
def token (g : GrammarSpec) (name pattern : String) : GrammarSpec :=
  { g with tokens := g.tokens ++ [⟨name, .pattern pattern, false⟩] }

/-- Adds a literal token; literals used in rules are added anyway, so this only fixes
    the order of their symbols. -/
def literal (g : GrammarSpec) (text : String) : GrammarSpec :=
  if text ∈ g.literals then g else { g with literals := g.literals ++ [text] }

/-- Adds a named token that may stand between any two tokens, like a comment. -/
def extra (g : GrammarSpec) (name pattern : String) : GrammarSpec :=
  { g with tokens := g.tokens ++ [⟨name, .pattern pattern, true⟩] }

/-- Adds a token that the grammar's scanner recognises; scanner tokens are numbered in
    the order they are declared. -/
def external (g : GrammarSpec) (name : String) : GrammarSpec :=
  { g with tokens := g.tokens ++ [⟨name, .scanner, false⟩] }

/-- Makes an already declared token an extra. -/
def extraToken (g : GrammarSpec) (name : String) : GrammarSpec :=
  { g with extraNames := g.extraNames ++ [name] }

/-- Adds a rule with its alternatives. -/
def rule (g : GrammarSpec) (name : String) (alternatives : List String) : GrammarSpec :=
  { g with rules := g.rules ++ [⟨name, alternatives⟩] }

/-- Sets the text skipped before every token; `none` skips nothing. -/
def withSkip (g : GrammarSpec) (pattern : Option String) : GrammarSpec :=
  { g with skip := pattern }

/-- Sets the grammar's scanner. -/
def withScanner (g : GrammarSpec) (scanner : Scanner) : GrammarSpec :=
  { g with scanner := some scanner }

end GrammarSpec

/-- Why a grammar cannot be turned into a table. -/
inductive GrammarError where
  | noRules
  | unknownSymbol (name : String)
  | duplicateSymbol (name : String)
  | emptyRule (name : String)
  | invalidItem (text : String)
  | invalidPattern (name : String)
  | emptyPattern (name : String)
  /-- More symbols or states than 16-bit numbers can hold. -/
  | tooLarge (what : String)
  /-- Two actions compete for one cell of the table. -/
  | conflict (state symbol : Nat) (symbolName detail : String)
deriving DecidableEq, Repr

/-- The text of a grammar error. -/
def GrammarError.message : GrammarError → String
  | .noRules => "grammar has no rules"
  | .unknownSymbol name => "unknown symbol " ++ quoteName name
  | .duplicateSymbol name => "symbol " ++ quoteName name ++ " is defined more than once"
  | .emptyRule name => "rule " ++ quoteName name ++ " has no alternatives"
  | .invalidItem text => "cannot parse rule item " ++ quoteName text
  | .invalidPattern name => "invalid pattern for " ++ quoteName name
  | .emptyPattern name => "pattern for " ++ quoteName name ++ " can match the empty string"
  | .tooLarge what => s!"grammar has too many {what} for a 16-bit table"
  | .conflict state _ name detail =>
    s!"conflict in state {state} on " ++ quoteName name ++ ": " ++ detail
where
  /-- A name between grave accents, as messages cite names. -/
  quoteName (name : String) : String := "\x60" ++ name ++ "\x60"

/-- What an item refers to. -/
inductive ItemRef where
  | name (name : String)
  | literal (text : String)
deriving DecidableEq, Repr

/-- One item of an alternative. -/
structure Item where
  field : Option String
  ref : ItemRef
  suffix : Option Char
deriving DecidableEq, Repr

namespace Item

/-- Whether a text is a name: letters, digits and underscores, at least one. -/
def isIdentifier (cs : List Char) : Bool :=
  !cs.isEmpty && cs.all fun c => Unicode.isNameAlphanumeric c || c = '_'

/-- The text inside matching single or double quotes, when it is not empty. -/
def literalText? (cs : List Char) : Option (List Char) :=
  match cs with
  | q :: rest =>
    if (q = '\'' ∨ q = '"') ∧ rest.getLast? = some q ∧ rest.length ≥ 2 then
      some rest.dropLast
    else none
  | [] => none

/-- Reads an item. A field prefix needs a name before the first colon, text after it,
    and an item that does not start with a quote; a suffix needs a name or a literal
    before it. -/
def parse (text : String) : Except GrammarError Item :=
  let cs := text.toList
  let (before, after) := cs.span (· ≠ ':')
  let (field, rest) :=
    match cs.head?, after with
    | some q, _ :: restText =>
      if q ≠ '\'' ∧ q ≠ '"' ∧ isIdentifier before ∧ !restText.isEmpty then
        (some (String.ofList before), restText)
      else (none, cs)
    | _, _ => (none, cs)
  let (body, suffix) :=
    match rest.getLast? with
    | some c =>
      if (c = '*' ∨ c = '+' ∨ c = '?') ∧ rest.length ≥ 2 then
        let body := rest.dropLast
        if isIdentifier body || (literalText? body).isSome then (body, some c)
        else (rest, none)
      else (rest, none)
    | none => (rest, none)
  match literalText? body with
  | some inner => .ok ⟨field, .literal (String.ofList inner), suffix⟩
  | none =>
    if isIdentifier body then .ok ⟨field, .name (String.ofList body), suffix⟩
    else .error (.invalidItem text)

end Item

/-- The pieces of a text between runs of white space. -/
def splitWhiteSpace (text : String) : List String :=
  ((text.toList.splitBy fun a b => Unicode.isWhiteSpace a == Unicode.isWhiteSpace b).filter
    fun piece => piece.any fun c => !Unicode.isWhiteSpace c).map String.ofList

end IncrementalLR
