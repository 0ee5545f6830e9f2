import IncrementalLR.Regex.Basic
import IncrementalLR.Unicode.Property

/-!
# Reading patterns

`Regex.parse` reads the usual regular expression syntax of leftmost-first engines:
alternation, groups (capturing, named, non-capturing, with flags), flag directives,
bracketed classes with nesting, ASCII classes and the set operations `&&`, `--` and `~~`,
Perl classes, Unicode properties, assertions and repetitions, greedy or lazy.
-/

namespace IncrementalLR.Regex

/-- Why a pattern could not be read. -/
inductive SyntaxError where
  | unclosedGroup
  | unopenedGroup
  | unclosedClass
  | missingOperand
  | badCount
  | badEscape
  | badClassRange
  | badFlags
  | badGroupName
  | unknownProperty
  | unsupported
  | nestTooDeep
  | outOfFuel
deriving Repr, DecidableEq, Inhabited

/-- The flags in force while reading. -/
structure Flags where
  caseless : Bool := false
  multiLine : Bool := false
  dotAll : Bool := false
  swapGreed : Bool := false
  unicode : Bool := true
  verbose : Bool := false
  crlf : Bool := false
deriving Repr, Inhabited

/-- The reading position in a pattern, the capture names seen so far and the number of
    capture groups opened. -/
structure Scan where
  text : Array Char
  pos : Nat
  names : List String
  groups : Nat
deriving Inhabited

/-- Reading with failure. -/
abbrev Reader := StateT Scan (Except SyntaxError)

/-- The largest code point. -/
def maxChar : Nat := 0x10FFFF

/-- The top of the alphabet that classes range over. -/
def Flags.top (f : Flags) : Nat := if f.unicode then maxChar else 0xFF

/-- The character at the reading position plus `k`. -/
def peekAt (k : Nat) : Reader (Option Char) := do
  let s ← get
  pure s.text[s.pos + k]?

/-- The character at the reading position. -/
def peek : Reader (Option Char) := peekAt 0

/-- Moves one character on. -/
def bump : Reader Unit := modify fun s => { s with pos := s.pos + 1 }

/-- Whether the text at the reading position starts with `word`. -/
def looking (word : String) : Reader Bool := do
  let s ← get
  pure ((word.toList.zipIdx).all fun (c, i) => s.text[s.pos + i]? = some c)

/-- Moves past `word` if the text starts with it. -/
def bumpIf (word : String) : Reader Bool := do
  if ← looking word then
    modify fun s => { s with pos := s.pos + word.length }
    pure true
  else pure false

/-- Skips the rest of a comment line, up to and including its line feed. -/
def skipComment : Nat → Reader Unit
  | 0 => pure ()
  | fuel + 1 => do
    match ← peek with
    | none => pure ()
    | some c => bump; if c = '\n' then pure () else skipComment fuel

/-- In verbose mode, skips white space and comments. -/
def skipSpace (flags : Flags) : Nat → Reader Unit
  | 0 => pure ()
  | fuel + 1 => do
    if !flags.verbose then pure ()
    else
      match ← peek with
      | some c =>
        if Unicode.isWhiteSpace c then bump; skipSpace flags fuel
        else if c = '#' then bump; skipComment fuel; skipSpace flags fuel
        else pure ()
      | none => pure ()

/-- A bound on the steps any loop over the pattern takes. -/
def budget : Reader Nat := do pure ((← get).text.size + 2)

/-- Moves one character on, then skips space in verbose mode. -/
def bumpSpace (flags : Flags) : Reader Unit := do bump; skipSpace flags (← budget)

/-- Characters that always stand for themselves after a backslash. -/
def isMeta (c : Char) : Bool := "\\.+*?()|[]{}^$#&-~".toList.contains c

/-- Characters that may be escaped: the meta characters and ASCII punctuation other
    than the angle brackets, which mark word boundaries. -/
def isEscapable (c : Char) : Bool :=
  isMeta c || (c.toNat < 128 && !c.isAlphanum && c != '<' && c != '>')

/-- What an escape sequence stands for. -/
inductive Escape where
  | char (c : Char) (byteEscape : Bool)
  | perl (kind : Char) (negated : Bool)
  | property (query : Unicode.PropertyQuery) (negated : Bool)
  | look (name : String)
deriving Inhabited

/-- Reads hexadecimal digits in braces, the reading position on the opening brace. -/
def readHexBrace (flags : Flags) : Nat → String → Reader String
  | 0, _ => throw .outOfFuel
  | fuel + 1, acc => do
    bumpSpace flags
    match ← peek with
    | none => throw .badEscape
    | some '}' => bumpSpace flags; pure acc
    | some c =>
      if (Unicode.hexValue c).isSome then readHexBrace flags fuel (acc.push c)
      else throw .badEscape

/-- Reads exactly `count` hexadecimal digits; the first is at the reading position. -/
def readHexFixed (flags : Flags) : Nat → String → Reader String
  | 0, acc => do bumpSpace flags; pure acc
  | count + 1, acc => do
    if !acc.isEmpty then bumpSpace flags
    match ← peek with
    | some c =>
      if (Unicode.hexValue c).isSome then readHexFixed flags count (acc.push c)
      else throw .badEscape
    | none => throw .badEscape

/-- A code point written in hexadecimal, if it is a scalar value. -/
def hexChar (digits : String) : Reader Char := do
  if digits.isEmpty then throw .badEscape
  match Unicode.readHex digits with
  | some n =>
    if n < 0x110000 ∧ (n < 0xD800 ∨ 0xDFFF < n) then pure (Char.ofNat n) else throw .badEscape
  | none => throw .badEscape

/-- Reads `\x`, `\u` or `\U` escapes, the reading position on the letter. Only the
    two-digit form `\xHH` can stand for a byte; the braced form is a character. -/
def readHex (flags : Flags) (letter : Char) : Reader Escape := do
  bumpSpace flags
  match ← peek with
  | none => throw .badEscape
  | some '{' =>
    let digits ← readHexBrace flags (← budget) ""
    pure (.char (← hexChar digits) false)
  | some _ =>
    let count := if letter = 'x' then 2 else if letter = 'u' then 4 else 8
    let digits ← readHexFixed flags count ""
    let c ← hexChar digits
    pure (.char c (letter = 'x' ∧ c.toNat ≤ 0xFF))

/-- Collects characters up to a closing brace. -/
def readUntilBrace (flags : Flags) : Nat → String → Reader String
  | 0, _ => throw .outOfFuel
  | fuel + 1, acc => do
    bumpSpace flags
    match ← peek with
    | none => throw .badEscape
    | some '}' => bump; pure acc
    | some c => readUntilBrace flags fuel (acc.push c)

/-- The query of a braced property text: `name!=value` negates, and `name:value` and
    `name=value` ask for a value, in that order of precedence. -/
def braceQuery (text : String) (negated : Bool) : Unicode.PropertyQuery × Bool :=
  match text.splitOn "!=" with
  | name :: rest@(_ :: _) => (.byValue name ("!=".intercalate rest), !negated)
  | _ =>
    match text.splitOn ":" with
    | name :: rest@(_ :: _) => (.byValue name (":".intercalate rest), negated)
    | _ =>
      match text.splitOn "=" with
      | name :: rest@(_ :: _) => (.byValue name ("=".intercalate rest), negated)
      | _ => (.named text, negated)

/-- Reads a `\p` or `\P` property, the reading position on the letter. -/
def readProperty (flags : Flags) (negated : Bool) : Reader Escape := do
  bumpSpace flags
  match ← peek with
  | none => throw .badEscape
  | some '{' =>
    let text ← readUntilBrace flags (← budget) ""
    let (query, neg) := braceQuery text negated
    pure (.property query neg)
  | some c =>
    bumpSpace flags
    pure (.property (.named (String.singleton c)) negated)

/-- Collects the letters and dashes of a special word boundary name. -/
def readBoundaryName (flags : Flags) : Nat → String → Reader String
  | 0, _ => throw .outOfFuel
  | fuel + 1, acc => do
    match ← peek with
    | some c =>
      if c.isAlpha || c = '-' then bumpSpace flags; readBoundaryName flags fuel (acc.push c)
      else pure acc
    | none => pure acc

/-- After `\b`, reads `{start}`, `{end}`, `{start-half}` or `{end-half}` if present; other
    text after a brace is left for a counted repetition. -/
def readSpecialBoundary (flags : Flags) : Reader String := do
  if (← peek) ≠ some '{' then return "boundary"
  let saved ← get
  bumpSpace flags
  match ← peek with
  | none => throw .badEscape
  | some c =>
    if !(c.isAlpha || c = '-') then
      set saved
      return "boundary"
    let name ← readBoundaryName flags (← budget) ""
    if (← peek) ≠ some '}' then throw .badEscape
    bump
    if ["start", "end", "start-half", "end-half"].contains name then pure name
    else throw .badEscape

/-- Reads an escape sequence, the reading position on the backslash. -/
def readEscape (flags : Flags) : Reader Escape := do
  bump
  match ← peek with
  | none => throw .badEscape
  | some c =>
    if c.isDigit then throw .unsupported
    else if c = 'x' ∨ c = 'u' ∨ c = 'U' then readHex flags c
    else if c = 'p' ∨ c = 'P' then readProperty flags (c = 'P')
    else if "dswDSW".toList.contains c then
      bumpSpace flags
      pure (.perl c.toLower c.isUpper)
    else
      bump
      if isEscapable c then pure (.char c false)
      else
        match c with
        | 'a' => pure (.char (Char.ofNat 7) false)
        | 'f' => pure (.char (Char.ofNat 12) false)
        | 't' => pure (.char '\t' false)
        | 'n' => pure (.char '\n' false)
        | 'r' => pure (.char '\r' false)
        | 'v' => pure (.char (Char.ofNat 11) false)
        | 'A' => pure (.look "textStart")
        | 'z' => pure (.look "textEnd")
        | 'b' => pure (.look (← readSpecialBoundary flags))
        | 'B' => pure (.look "notBoundary")
        | '<' => pure (.look "start")
        | '>' => pure (.look "end")
        | _ => throw .badEscape

/-- The assertion an escape names, under the flags. -/
def lookOf (flags : Flags) (name : String) : Look :=
  let u := flags.unicode
  match name with
  | "textStart" => .textStart
  | "textEnd" => .textEnd
  | "notBoundary" => if u then .notWordUnicode else .notWordAscii
  | "start" => if u then .wordStartUnicode else .wordStartAscii
  | "end" => if u then .wordEndUnicode else .wordEndAscii
  | "start-half" => if u then .wordStartHalfUnicode else .wordStartHalfAscii
  | "end-half" => if u then .wordEndHalfUnicode else .wordEndHalfAscii
  | _ => if u then .wordUnicode else .wordAscii

/-- ASCII ranges of the named POSIX classes. -/
def asciiClass (name : String) : Option (List (Nat × Nat)) :=
  match name with
  | "alnum" => some [(0x30, 0x39), (0x41, 0x5A), (0x61, 0x7A)]
  | "alpha" => some [(0x41, 0x5A), (0x61, 0x7A)]
  | "ascii" => some [(0x00, 0x7F)]
  | "blank" => some [(0x09, 0x09), (0x20, 0x20)]
  | "cntrl" => some [(0x00, 0x1F), (0x7F, 0x7F)]
  | "digit" => some [(0x30, 0x39)]
  | "graph" => some [(0x21, 0x7E)]
  | "lower" => some [(0x61, 0x7A)]
  | "print" => some [(0x20, 0x7E)]
  | "punct" => some [(0x21, 0x2F), (0x3A, 0x40), (0x5B, 0x60), (0x7B, 0x7E)]
  | "space" => some [(0x09, 0x0D), (0x20, 0x20)]
  | "upper" => some [(0x41, 0x5A)]
  | "word" => some [(0x30, 0x39), (0x41, 0x5A), (0x5F, 0x5F), (0x61, 0x7A)]
  | "xdigit" => some [(0x30, 0x39), (0x41, 0x46), (0x61, 0x66)]
  | _ => none

/-- The ASCII form of a Perl class letter. -/
def perlAscii (kind : Char) : List (Nat × Nat) :=
  match kind with
  | 'd' => [(0x30, 0x39)]
  | 's' => [(0x09, 0x0D), (0x20, 0x20)]
  | _ => [(0x30, 0x39), (0x41, 0x5A), (0x5F, 0x5F), (0x61, 0x7A)]

/-- A Perl class under the flags; it is closed under case folding already. -/
def perlSet (flags : Flags) (kind : Char) (negated : Bool) : CodeSet :=
  let base :=
    if flags.unicode then
      match kind with
      | 'd' => Unicode.decimalDigit
      | 's' => Unicode.whiteSpace
      | _ => Unicode.word
    else CodeSet.ofRanges (perlAscii kind)
  if negated then base.complement flags.top else base

/-- Closes a set under case folding when the flags ask for it. -/
def foldIf (flags : Flags) (s : CodeSet) : CodeSet :=
  if !flags.caseless then s
  else if flags.unicode then Unicode.caseFold s
  else
    let letters := s.ranges.flatMap fun (a, b) =>
      ((List.range (b + 1 - a)).map (· + a)).filterMap fun c =>
        if 0x41 ≤ c ∧ c ≤ 0x5A then some (c + 32, c + 32)
        else if 0x61 ≤ c ∧ c ≤ 0x7A then some (c - 32, c - 32) else none
    CodeSet.ofRanges (s.ranges ++ letters)

/-- A property as a set under the flags: folded, then negated. Properties need Unicode
    mode. -/
def propertyUnder (flags : Flags) (query : Unicode.PropertyQuery) (negated : Bool) :
    Reader CodeSet := do
  if !flags.unicode then throw .unsupported
  match query.resolve with
  | .ok s =>
    let s := foldIf flags s
    pure (if negated then s.complement maxChar else s)
  | .error _ => throw .unknownProperty

/-- The code point or byte a literal stands for inside a class. -/
def classValue (flags : Flags) (c : Char) (byteEscape : Bool) : Reader Nat := do
  if flags.unicode || c.toNat < 0x80 || byteEscape then pure c.toNat
  else throw .unsupported

/-- One item of a bracketed class: a set, or a literal that may start a range. -/
inductive ClassItem where
  | literal (value : Nat)
  | set (s : CodeSet)

/-- Reads one class item that is not a bracket: an escape or a literal character. -/
def readClassAtom (flags : Flags) : Reader ClassItem := do
  match ← peek with
  | some '\\' =>
    match ← readEscape flags with
    | .char c byteEscape => pure (.literal (← classValue flags c byteEscape))
    | .perl k neg => pure (.set (perlSet flags k neg))
    | .property query neg => pure (.set (← propertyUnder flags query neg))
    | .look _ => throw .badEscape
  | some c =>
    bump
    pure (.literal (← classValue flags c false))
  | none => throw .unclosedClass

/-- The character after the reading position, skipping space in verbose mode. -/
def peekNext (flags : Flags) : Reader (Option Char) := do
  let saved ← get
  bump
  skipSpace flags (← budget)
  let c ← peek
  set saved
  pure c

/-- Reads a class item, or a range of two literals joined by a dash. -/
def readRange (flags : Flags) : Reader CodeSet := do
  let first ← readClassAtom flags
  skipSpace flags (← budget)
  let next ← peek
  if next = none then throw .unclosedClass
  let after ← peekNext flags
  if next ≠ some '-' ∨ after = some ']' ∨ after = some '-' then
    match first with
    | .literal v => pure (CodeSet.single v)
    | .set s => pure s
  else
    bumpSpace flags
    if (← peek) = none then throw .unclosedClass
    let second ← readClassAtom flags
    match first, second with
    | .literal a, .literal b => if a ≤ b then pure (CodeSet.range a b) else throw .badClassRange
    | _, _ => throw .badClassRange

/-- Tries to read a POSIX class such as `[:alpha:]` at an opening bracket; on failure the
    reading position is restored. -/
def readAsciiClass (flags : Flags) : Reader (Option CodeSet) := do
  let saved ← get
  let text := saved.text
  let rec nameEnd (i : Nat) : Nat → Nat
    | 0 => i
    | fuel + 1 => if text[i]? = some ':' ∨ i ≥ text.size then i else nameEnd (i + 1) fuel
  if text[saved.pos + 1]? ≠ some ':' then return none
  let negated := text[saved.pos + 2]? = some '^'
  let nameStart := saved.pos + (if negated then 3 else 2)
  let stop := nameEnd nameStart text.size
  if text[stop]? ≠ some ':' ∨ text[stop + 1]? ≠ some ']' then return none
  let name := String.ofList ((text.extract nameStart stop).toList)
  match asciiClass name with
  | none => return none
  | some ranges =>
    set { saved with pos := stop + 2 }
    let s := foldIf flags (CodeSet.ofRanges ranges)
    pure (some (if negated then s.complement flags.top else s))

/-- A pending set operation inside a class. -/
inductive ClassOp where
  | inter
  | diff
  | symm

/-- The items of a class union being read: their set, their number and the deepest
    nesting among them. -/
structure Members where
  set : CodeSet := CodeSet.empty
  count : Nat := 0
  height : Nat := 0

/-- Adds an item of nesting height `h`. -/
def Members.add (m : Members) (s : CodeSet) (h : Nat := 0) : Members :=
  ⟨m.set.union s, m.count + 1, Nat.max m.height h⟩

/-- The nesting height of the union: two or more items form one more level. -/
def Members.unionHeight (m : Members) : Nat := if m.count ≥ 2 then m.height + 1 else m.height

/-- Applies a pending operation to the union read after it; operands are folded first.
    The result comes with its nesting height: an operation is one more level. -/
def applyOp (flags : Flags) : Option (ClassOp × CodeSet × Nat) → Members → CodeSet × Nat
  | none, rhs => (rhs.set, rhs.unionHeight)
  | some (op, lhs, lh), rhs =>
    let l := foldIf flags lhs
    let r := foldIf flags rhs.set
    let h := Nat.max lh rhs.unionHeight + 1
    match op with
    | .inter => (CodeSet.inter flags.top l r, h)
    | .diff => (CodeSet.diff flags.top l r, h)
    | .symm => (CodeSet.symmDiff flags.top l r, h)

mutual

/-- Reads a bracketed class, the reading position on the opening bracket, with its
    nesting height. -/
def readBracket (flags : Flags) : Nat → Reader (CodeSet × Nat)
  | 0 => throw .outOfFuel
  | fuel + 1 => do
    bumpSpace flags
    if (← peek) = none then throw .unclosedClass
    let negated ← if (← peek) = some '^' then
        bumpSpace flags
        if (← peek) = none then throw .unclosedClass
        pure true
      else pure false
    let lead ← readLeadingDashes flags (← budget) {}
    let lead ← if lead.count = 0 ∧ (← peek) = some ']' then
        bumpSpace flags
        pure (lead.add (CodeSet.single 0x5D))
      else pure lead
    let (body, h) ← readClassBody flags fuel (← budget) none lead
    let body := foldIf flags body
    pure (if negated then body.complement flags.top else body, h + 1)

/-- Reads items and operators up to the closing bracket. -/
def readClassBody (flags : Flags) (depth : Nat) :
    Nat → Option (ClassOp × CodeSet × Nat) → Members → Reader (CodeSet × Nat)
  | 0, _, _ => throw .outOfFuel
  | fuel + 1, pending, items => do
    skipSpace flags (← budget)
    match ← peek with
    | none => throw .unclosedClass
    | some ']' =>
      bump
      pure (applyOp flags pending items)
    | some '[' =>
      match ← readAsciiClass flags with
      | some s => readClassBody flags depth fuel pending (items.add s)
      | none =>
        let (inner, h) ← readBracket flags depth
        readClassBody flags depth fuel pending (items.add inner h)
    | some c =>
      let next ← peekAt 1
      let op := if c = '&' ∧ next = some '&' then some ClassOp.inter
        else if c = '-' ∧ next = some '-' then some .diff
        else if c = '~' ∧ next = some '~' then some .symm
        else none
      match op with
      | some op =>
        bump; bump
        let (lhs, h) := applyOp flags pending items
        readClassBody flags depth fuel (some (op, lhs, h)) {}
      | none =>
        let s ← readRange flags
        readClassBody flags depth fuel pending (items.add s)

/-- Dashes right after the opening bracket stand for themselves. -/
def readLeadingDashes (flags : Flags) : Nat → Members → Reader Members
  | 0, acc => pure acc
  | fuel + 1, acc => do
    if (← peek) = some '-' then
      bumpSpace flags
      if (← peek) = none then throw .unclosedClass
      readLeadingDashes flags fuel (acc.add (CodeSet.single 0x2D))
    else pure acc

end

/-- The expression of a class under the flags. -/
def classRegex (flags : Flags) (s : CodeSet) : Regex :=
  if flags.unicode then Regex.unicodeClass s else Regex.byteClass s

/-- The expression of a literal character under the flags. -/
def charRegex (flags : Flags) (c : Char) (byteEscape : Bool) : Regex :=
  if !flags.unicode ∧ byteEscape ∧ c.toNat ≥ 0x80 then .literal [c.toNat.toUInt8]
  else if flags.caseless then
    if flags.unicode then
      Regex.unicodeClass (Unicode.caseFold (CodeSet.single c.toNat))
    else if c.isAlpha then Regex.byteClass (foldIf flags (CodeSet.single c.toNat))
    else .literal (String.utf8EncodeChar c)
  else .literal (String.utf8EncodeChar c)

/-- The class that `.` stands for under the flags. -/
def dotRegex (flags : Flags) : Regex :=
  let top := flags.top
  if flags.dotAll then classRegex flags (CodeSet.range 0 top)
  else if flags.crlf then classRegex flags (CodeSet.ofRanges [(0, 9), (11, 12), (14, top)])
  else classRegex flags (CodeSet.ofRanges [(0, 9), (11, top)])

/-- A piece of a sequence being read: an expression with its nesting height, or a flag
    directive, which a repetition may not follow. -/
inductive Piece where
  | expr (r : Regex) (height : Nat)
  | directive

/-- The nesting height of a piece. -/
def Piece.height : Piece → Nat
  | .expr _ h => h
  | .directive => 0

/-- The nesting height of a sequence or an alternation of parts: two or more parts form
    one more level, and a single part is that part. -/
def listHeight (heights : List Nat) : Nat :=
  match heights with
  | [h] => h
  | hs => if hs.isEmpty then 0 else hs.foldl Nat.max 0 + 1

/-- The expression of the pieces, which are kept in reverse order, with its nesting
    height. -/
def Piece.sequence (pieces : List Piece) : Regex × Nat :=
  (Regex.seq (pieces.reverse.filterMap fun p => match p with | .expr r _ => some r | .directive => none),
   listHeight (pieces.map Piece.height))

/-- Applies a flag letter. -/
def setFlag (flags : Flags) (c : Char) (on : Bool) : Option Flags :=
  match c with
  | 'i' => some { flags with caseless := on }
  | 'm' => some { flags with multiLine := on }
  | 's' => some { flags with dotAll := on }
  | 'U' => some { flags with swapGreed := on }
  | 'u' => some { flags with unicode := on }
  | 'x' => some { flags with verbose := on }
  | 'R' => some { flags with crlf := on }
  | _ => none

/-- Reads flag letters up to `:` or `)`; repeated letters and dangling negations are
    errors. -/
def readFlags : Nat → Flags → Bool → List Char → Bool → Reader Flags
  | 0, _, _, _, _ => throw .outOfFuel
  | fuel + 1, flags, negating, seen, lastNegation => do
    match ← peek with
    | none => throw .unclosedGroup
    | some ':' | some ')' =>
      if lastNegation then throw .badFlags else pure flags
    | some '-' =>
      if negating then throw .badFlags
      bump
      readFlags fuel flags true seen true
    | some c =>
      if seen.contains c then throw .badFlags
      match setFlag flags c (!negating) with
      | none => throw .badFlags
      | some f =>
        bump
        readFlags fuel f negating (c :: seen) false

/-- Whether a character may appear in a capture name: a name starts with an underscore
    or a letter, and goes on with letters, numbers, underscores, dots and brackets. -/
def isNameChar (c : Char) (first : Bool) : Bool :=
  if first then c = '_' || Unicode.isNameAlphabetic c
  else c = '_' || c = '.' || c = '[' || c = ']' || Unicode.isNameAlphanumeric c

/-- Reads a capture name up to `>`. -/
def readName : Nat → String → Reader String
  | 0, _ => throw .outOfFuel
  | fuel + 1, acc => do
    match ← peek with
    | none => throw .unclosedGroup
    | some '>' =>
      bump
      if acc.isEmpty then throw .badGroupName
      if (← get).names.contains acc then throw .badGroupName
      modify fun s => { s with names := acc :: s.names }
      pure acc
    | some c =>
      if isNameChar c acc.isEmpty then bump; readName fuel (acc.push c)
      else throw .badGroupName

/-- Numbers a capture group being opened; groups count from one in the order of their
    opening parentheses. -/
def openGroup : Reader Nat :=
  modifyGet fun s => (s.groups + 1, { s with groups := s.groups + 1 })

/-- Skips white space, one character at a time. -/
def skipBlank : Nat → Reader Unit
  | 0 => pure ()
  | fuel + 1 => do
    match ← peek with
    | some c => if Unicode.isWhiteSpace c then bump; skipBlank fuel else pure ()
    | none => pure ()

/-- Skips white space, and in verbose mode the space and comments after each skipped
    character. -/
def skipBlankSpace (flags : Flags) : Nat → Reader Unit
  | 0 => pure ()
  | fuel + 1 => do
    match ← peek with
    | some c => if Unicode.isWhiteSpace c then bumpSpace flags; skipBlankSpace flags fuel else pure ()
    | none => pure ()

/-- Collects decimal digits; in verbose mode space and comments may stand between them. -/
def readDigits (flags : Flags) : Nat → String → Reader String
  | 0, acc => pure acc
  | fuel + 1, acc => do
    match ← peek with
    | some c => if c.isDigit then bumpSpace flags; readDigits flags fuel (acc.push c) else pure acc
    | none => pure acc

/-- Reads a decimal count with white space around it; a count must fit in 32 bits. -/
def readDecimal (flags : Flags) : Reader Nat := do
  skipBlank (← budget)
  let digits ← readDigits flags (← budget) ""
  skipBlankSpace flags (← budget)
  if digits.isEmpty then throw .badCount
  let value := digits.foldl (fun n c => n * 10 + (c.toNat - 48)) 0
  if value ≥ 4294967296 then throw .badCount
  pure value

/-- Replaces the last piece by its repetition. -/
def repeatLast (flags : Flags) (pieces : List Piece) (min : Nat) (max : Option Nat)
    (lazy : Bool) : Reader (List Piece) :=
  match pieces with
  | .expr r h :: rest =>
    let greedy := if flags.swapGreed then lazy else !lazy
    pure (.expr (Regex.repeated r min max greedy) (h + 1) :: rest)
  | _ => throw .missingOperand

/-- Reads a counted repetition `{n}`, `{n,}` or `{n,m}`, the reading position on the
    brace. -/
def readCounted (flags : Flags) (pieces : List Piece) : Reader (List Piece) := do
  match pieces with
  | .expr _ _ :: _ => pure ()
  | _ => throw .missingOperand
  bumpSpace flags
  if (← peek) = none then throw .badCount
  let low ← readDecimal flags
  if (← peek) = none then throw .badCount
  let high ← if (← peek) = some ',' then
      bumpSpace flags
      if (← peek) = none then throw .badCount
      if (← peek) = some '}' then pure none else pure (some (← readDecimal flags))
    else pure (some low)
  if (← peek) ≠ some '}' then throw .badCount
  bumpSpace flags
  let lazy ← if (← peek) = some '?' then bump; pure true else pure false
  match high with
  | some h => if low > h then throw .badCount
  | none => pure ()
  repeatLast flags pieces low high lazy

/-- The expression of an escape outside classes. -/
def escapeRegex (flags : Flags) : Escape → Reader Regex
  | .char c byteEscape => pure (charRegex flags c byteEscape)
  | .perl k neg => pure (classRegex flags (perlSet flags k neg))
  | .property query neg => do pure (classRegex flags (← propertyUnder flags query neg))
  | .look name => pure (.look (lookOf flags name))

/-- Reads the alternation of a group body up to its closing parenthesis or the end of
    the pattern, which it does not consume, with its nesting height. Flag directives
    hold until the group ends, later branches included. -/
def readAlternation : Nat → Flags → List (Regex × Nat) → List Piece → Reader (Regex × Nat)
  | 0, _, _, _ => throw .outOfFuel
  | fuel + 1, flags, branches, pieces => do
    skipSpace flags (← budget)
    let finish :=
      let all := (Piece.sequence pieces :: branches).reverse
      (Regex.choice (all.map (·.1)), listHeight (all.map (·.2)))
    match ← peek with
    | none => pure finish
    | some ')' => pure finish
    | some '|' =>
      bump
      readAlternation fuel flags (Piece.sequence pieces :: branches) []
    | some '(' =>
      bumpSpace flags
      if (← looking "?=") || (← looking "?!") || (← looking "?<=") || (← looking "?<!") then
        throw .unsupported
      if (← bumpIf "?P<") || (← bumpIf "?<") then
        let index ← openGroup
        let _ ← readName (← budget) ""
        let (body, h) ← readAlternation fuel flags [] []
        if (← peek) ≠ some ')' then throw .unclosedGroup
        bump
        readAlternation fuel flags branches (.expr (.capture index body) (h + 1) :: pieces)
      else if ← bumpIf "?" then
        if (← peek) = none then throw .unclosedGroup
        let groupFlags ← readFlags (← budget) flags false [] false
        let stop ← peek
        bump
        if stop = some ')' then
          if (← get).text[(← get).pos - 2]? = some '?' then throw .missingOperand
          readAlternation fuel groupFlags branches (.directive :: pieces)
        else
          let (body, h) ← readAlternation fuel groupFlags [] []
          if (← peek) ≠ some ')' then throw .unclosedGroup
          bump
          readAlternation fuel flags branches (.expr body (h + 1) :: pieces)
      else
        let index ← openGroup
        let (body, h) ← readAlternation fuel flags [] []
        if (← peek) ≠ some ')' then throw .unclosedGroup
        bump
        readAlternation fuel flags branches (.expr (.capture index body) (h + 1) :: pieces)
    | some '[' =>
      let (s, h) ← readBracket flags (← budget)
      readAlternation fuel flags branches (.expr (classRegex flags s) h :: pieces)
    | some '?' =>
      bump
      let lazy ← if (← peek) = some '?' then bump; pure true else pure false
      readAlternation fuel flags branches (← repeatLast flags pieces 0 (some 1) lazy)
    | some '*' =>
      bump
      let lazy ← if (← peek) = some '?' then bump; pure true else pure false
      readAlternation fuel flags branches (← repeatLast flags pieces 0 none lazy)
    | some '+' =>
      bump
      let lazy ← if (← peek) = some '?' then bump; pure true else pure false
      readAlternation fuel flags branches (← repeatLast flags pieces 1 none lazy)
    | some '{' =>
      readAlternation fuel flags branches (← readCounted flags pieces)
    | some '.' =>
      bump
      readAlternation fuel flags branches (.expr (dotRegex flags) 0 :: pieces)
    | some '^' =>
      bump
      let l := if flags.multiLine then (if flags.crlf then Look.crlfStart else .lineStart)
        else .textStart
      readAlternation fuel flags branches (.expr (.look l) 0 :: pieces)
    | some '$' =>
      bump
      let l := if flags.multiLine then (if flags.crlf then Look.crlfEnd else .lineEnd)
        else .textEnd
      readAlternation fuel flags branches (.expr (.look l) 0 :: pieces)
    | some '\\' =>
      let r ← escapeRegex flags (← readEscape flags)
      readAlternation fuel flags branches (.expr r 0 :: pieces)
    | some c =>
      bump
      readAlternation fuel flags branches (.expr (charRegex flags c false) 0 :: pieces)

/-- The deepest nesting of groups, classes, repetitions, sequences and alternations
    that a pattern may have. -/
def nestLimit : Nat := 250

/-- Reads a whole pattern. A closing parenthesis without an opening one is an error, and
    so is nesting deeper than `nestLimit`. -/
def parse (pattern : String) : Except SyntaxError Regex := do
  let text := pattern.toList.toArray
  let ((r, h), s) ← (readAlternation (text.size + 2) {} [] []).run ⟨text, 0, [], 0⟩
  if s.pos < text.size then throw .unopenedGroup
  if h > nestLimit then throw .nestTooDeep
  pure r

end IncrementalLR.Regex
