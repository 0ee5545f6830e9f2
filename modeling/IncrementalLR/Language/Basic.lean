import IncrementalLR.Lex.Table
import IncrementalLR.Lex.Scanner

/-!
# Parse tables

A parse table is everything the parser asks of a grammar: the actions for a state and a
terminal lookahead, where a reduction leads, how to lex in each state, the names and
visibility of the symbols, and the field names of the children of each production.
-/

namespace IncrementalLR

/-- The symbol of the end of the input: terminal 0 of every table. -/
def endSymbol : Nat := 0

/-- The symbol of error leaves and nodes, one past every symbol a table may hold. -/
def errorSymbol : Nat := 65535

/-- The state every parse starts in. -/
def startState : Nat := 1

/-- The state of recovery; the parse table's row 0 is empty. -/
def errorState : Nat := 0

/-- The oldest table layout that parsers read. -/
def oldestVersion : Nat := 1

/-- The newest table layout that parsers read, and the one the grammar builder writes. -/
def newestVersion : Nat := 2

/-- One entry of a parse table cell. -/
inductive Action where
  /-- Push the lookahead and move to `state`; an extra keeps the current state. -/
  | shift (state : Nat) (extra : Bool)
  /-- Pop `childCount` children that are not extras and wrap them in a `symbol` node
      of production `production`. -/
  | reduce (symbol : Nat) (childCount : Nat) (production : Nat)
  | accept
  | recover
deriving DecidableEq, Repr, Inhabited

/-- Whether a node of a symbol is shown in trees, and whether it has a name (rather
    than being literal text). -/
structure SymbolInfo where
  visible : Bool
  named : Bool
deriving DecidableEq, Repr, Inhabited

/-- How to lex in a parse state: the lex table's state, and the scanner state (0 when
    no scanner token is valid). Equal lex modes give equal tokens from equal text. -/
structure LexMode where
  lexState : Nat
  scannerState : Nat
deriving DecidableEq, Repr, Inhabited

/-- A field of a production's child, counted among the children that are not extras. -/
structure FieldEntry where
  field : Nat
  child : Nat
deriving DecidableEq, Repr, Inhabited

/-- Why a parse table cannot be used. -/
inductive TableError where
  /-- The table layout is one parsers do not read. -/
  | version (v : Nat)
  /-- The counts of the table contradict each other. -/
  | invalid (reason : String)
deriving DecidableEq, Repr

/-- The text of a table error. -/
def TableError.message : TableError → String
  | .version v => s!"incompatible language version {v}"
  | .invalid reason => s!"invalid parse table: {reason}"

/-- A parse table with its lex table and scanner. Actions are stored densely by
    `state * tokenCount + terminal`, gotos by `state * nonterminals + (symbol -
    tokenCount)`. Field ids count from 1. -/
structure ParseTable where
  name : String
  version : Nat
  symbolNames : Array String
  symbolInfo : Array SymbolInfo
  tokenCount : Nat
  stateCount : Nat
  actions : Array (List Action)
  gotos : Array Nat
  lexModes : Array LexMode
  lexTable : LexTable
  fieldNames : Array String
  fieldMaps : Array (List FieldEntry)
  externals : Array Nat
  scanner : Option Scanner
deriving DecidableEq

namespace ParseTable

/-- The number of symbols, terminals and nonterminals. -/
def symbolCount (t : ParseTable) : Nat := t.symbolNames.size

/-- The number of nonterminals. -/
def nonterminalCount (t : ParseTable) : Nat := t.symbolNames.size - t.tokenCount

/-- Checks that parsers can use the table: a layout they read, a start state besides
    the error state, at least one terminal and no more terminals than symbols, and room
    for the error symbol. -/
def validate (t : ParseTable) : Except TableError Unit :=
  if t.version < oldestVersion ∨ t.version > newestVersion then .error (.version t.version)
  else if t.stateCount ≤ startState then
    .error (.invalid s!"expected at least {startState + 1} states, found {t.stateCount}")
  else if t.tokenCount = 0 ∨ t.tokenCount > t.symbolCount then
    .error (.invalid s!"{t.tokenCount} tokens do not fit in {t.symbolCount} symbols")
  else if t.symbolCount ≥ errorSymbol then
    .error (.invalid s!"{t.symbolCount} symbols overflow the symbol space")
  else .ok ()

/-- The name of a symbol; the error symbol is `ERROR`. -/
def kindName? (t : ParseTable) (symbol : Nat) : Option String :=
  if symbol = errorSymbol then some "ERROR" else t.symbolNames[symbol]?

/-- The first symbol with this name and namedness, or 0 when there is none; a named
    `ERROR` is the error symbol. -/
def kindId (t : ParseTable) (kind : String) (named : Bool) : Nat :=
  if kind = "ERROR" ∧ named then errorSymbol
  else
    ((List.range t.symbolCount).find? fun s =>
      t.symbolNames[s]? = some kind ∧ (t.symbolInfo[s]?.getD ⟨false, false⟩).named = named).getD 0

/-- Visibility and namedness of a symbol; the error symbol is both, and symbols
    without an entry are neither. -/
def info (t : ParseTable) (symbol : Nat) : SymbolInfo :=
  if symbol = errorSymbol then ⟨true, true⟩ else t.symbolInfo[symbol]?.getD ⟨false, false⟩

/-- The actions for a terminal lookahead; none for the error symbol or a nonterminal. -/
def actionsAt (t : ParseTable) (state symbol : Nat) : List Action :=
  if symbol = errorSymbol ∨ symbol ≥ t.tokenCount then []
  else (t.actions[state * t.tokenCount + symbol]?).getD []

/-- The first action for a lookahead, if any. -/
def action? (t : ParseTable) (state symbol : Nat) : Option Action :=
  (t.actionsAt state symbol).head?

/-- Where a reduction to `symbol` leads from `state`; 0 when nowhere. -/
def goto (t : ParseTable) (state symbol : Nat) : Nat :=
  if symbol = errorSymbol ∨ symbol < t.tokenCount then 0
  else (t.gotos[state * t.nonterminalCount + (symbol - t.tokenCount)]?).getD 0

/-- How to lex in `state`. -/
def lexMode (t : ParseTable) (state : Nat) : LexMode :=
  t.lexModes[state]?.getD ⟨0, 0⟩

/-- Whether all a state can do with `symbol` is to skip it as an extra. -/
def isExtraOnly (t : ParseTable) (state symbol : Nat) : Bool :=
  match t.actionsAt state symbol with
  | [.shift _ true] => true
  | _ => false

/-- Which scanner tokens `state` accepts; in the error state all of them. -/
def scannerValid (t : ParseTable) (state : Nat) : Array Bool :=
  if state = errorState then t.externals.map fun _ => true
  else t.externals.map fun s => !(t.actionsAt state s).isEmpty

/-- The name of a symbol for messages: `?` when it has none. -/
def symbolName (t : ParseTable) (symbol : Nat) : String :=
  (t.kindName? symbol).getD "?"

/-- The number of field names. -/
def fieldCount (t : ParseTable) : Nat := t.fieldNames.size

/-- The name of field `id`; id 0 means no field. -/
def fieldName? (t : ParseTable) (id : Nat) : Option String :=
  if id = 0 then none else t.fieldNames[id - 1]?

/-- The id of the first field with this name. Ids are 16 bits wide, so only the first
    `fieldCount` ids modulo 65536 are searched. -/
def fieldId? (t : ParseTable) (name : String) : Option Nat :=
  (List.range' 1 (t.fieldCount % 65536)).find? fun id => t.fieldName? id = some name

/-- The fields of the children of production `production`. -/
def fieldMap (t : ParseTable) (production : Nat) : List FieldEntry :=
  (t.fieldMaps[production]?).getD []

end ParseTable

/-- A parse table in use, with the number of the handle it was given by: two tables
    are the same for reuse only when their handles are. -/
structure Language where
  table : ParseTable
  handle : Nat

end IncrementalLR
