import IncrementalLR.Unicode.CodeSet
import IncrementalLR.Unicode.CategoryData
import IncrementalLR.Unicode.PropertyData
import IncrementalLR.Unicode.DerivedPropertyData
import IncrementalLR.Unicode.CaseFoldData
import IncrementalLR.Unicode.NameCharData

/-!
# Unicode classes

The character classes that the grammar syntax, the scanners and patterns rely on, decoded
from the data modules: general categories, White_Space, Alphabetic, the word characters of
Unicode regular expressions (UTS #18: Alphabetic, marks, decimal digits, connector
punctuation and Join_Control), and simple case folding orbits.
-/

namespace IncrementalLR.Unicode

/-- The value of a hexadecimal digit. -/
def hexValue (c : Char) : Option Nat :=
  if '0' ≤ c ∧ c ≤ '9' then some (c.toNat - '0'.toNat)
  else if 'a' ≤ c ∧ c ≤ 'f' then some (c.toNat - 'a'.toNat + 10)
  else if 'A' ≤ c ∧ c ≤ 'F' then some (c.toNat - 'A'.toNat + 10)
  else none

/-- Reads a hexadecimal number; `none` for an empty or malformed word. -/
def readHex (s : String) : Option Nat :=
  if s.isEmpty then none
  else s.toList.foldl (fun acc c => acc.bind fun n => (hexValue c).map (n * 16 + ·)) (some 0)

/-- The space-separated words of a data text. The text is split as a list of characters,
    so that the kernel can read the tables too. -/
def words (s : String) : List String :=
  ((s.toList.splitOn ' ').map String.ofList).filter (!·.isEmpty)

/-- Reads a range word: `start-end`, or a single code point. -/
def readRange (w : String) : Option (Nat × Nat) :=
  match (w.toList.splitOn '-').map String.ofList with
  | [a] => (readHex a).map fun n => (n, n)
  | [a, b] => do pure (← readHex a, ← readHex b)
  | _ => none

/-- Reads range words. -/
def readRanges (s : String) : List (Nat × Nat) := (words s).filterMap readRange

/-- Reads alternating `start category` words. -/
def readBreaks : List String → List (Nat × String)
  | a :: b :: rest =>
    match readHex a with
    | some n => (n, b) :: readBreaks rest
    | none => readBreaks rest
  | _ => []

/-- The category breakpoints in ascending order. -/
def categoryBreaks : List (Nat × String) := readBreaks (words categoryText)

/-- The ranges between consecutive breakpoints whose category satisfies `p`. -/
def rangesWhere (p : String → Bool) : List (Nat × String) → List (Nat × Nat)
  | (a, cat) :: (b, next) :: rest =>
    let tail := rangesWhere p ((b, next) :: rest)
    if p cat ∧ a < b then (a, b - 1) :: tail else tail
  | _ => []

/-- The code points whose general category is one of `cats`. -/
def categories (cats : List String) : CodeSet :=
  CodeSet.ofRanges (rangesWhere (fun c => cats.contains c) categoryBreaks)

/-- The two-letter names of the general categories, by group letter. -/
def categoryGroups : List (String × List String) :=
  [("L", ["Lu", "Ll", "Lt", "Lm", "Lo"]), ("M", ["Mn", "Mc", "Me"]),
   ("N", ["Nd", "Nl", "No"]), ("P", ["Pc", "Pd", "Ps", "Pe", "Pi", "Pf", "Po"]),
   ("S", ["Sm", "Sc", "Sk", "So"]), ("Z", ["Zs", "Zl", "Zp"]),
   ("C", ["Cc", "Cf", "Cs", "Co", "Cn"])]

/-- The code points with the White_Space property. -/
def whiteSpace : CodeSet := CodeSet.ofRanges (readRanges whiteSpaceText)

/-- The code points with the Alphabetic property. -/
def alphabetic : CodeSet := CodeSet.ofRanges (readRanges alphabeticText)

/-- The code points with the Join_Control property. -/
def joinControl : CodeSet := CodeSet.ofRanges (readRanges joinControlText)

/-- Letters: general category L. -/
def letter : CodeSet := categories ["Lu", "Ll", "Lt", "Lm", "Lo"]

/-- Numbers: general category N. -/
def numeric : CodeSet := categories ["Nd", "Nl", "No"]

/-- Decimal digits: general category Nd. -/
def decimalDigit : CodeSet := categories ["Nd"]

/-- Word characters of Unicode regular expressions. -/
def word : CodeSet :=
  alphabetic.union ((categories ["Mn", "Mc", "Me", "Nd", "Pc"]).union joinControl)

/-- Fast membership table for White_Space. -/
def whiteSpaceTable : CodeTable := CodeTable.ofSet whiteSpace

/-- Fast membership table for the letters of names. -/
def nameAlphabeticTable : CodeTable := CodeTable.ofSet (CodeSet.ofRanges (readRanges nameAlphabeticText))

/-- Fast membership table for the letters and numbers of names. -/
def nameAlphanumericTable : CodeTable :=
  CodeTable.ofSet (CodeSet.ofRanges (readRanges nameAlphabeticText ++ readRanges nameNumericText))

/-- Fast membership table for word characters. -/
def wordTable : CodeTable := CodeTable.ofSet word

/-- Whether a character has the White_Space property. ASCII is answered without the
    table: the space and the controls from tab to carriage return. -/
def isWhiteSpace (c : Char) : Bool :=
  if c.toNat < 128 then c = ' ' || (9 ≤ c.toNat && c.toNat ≤ 13)
  else whiteSpaceTable.contains c.toNat

/-- Whether an ASCII character is a letter. -/
def isAsciiLetter (c : Char) : Bool := ('a' ≤ c && c ≤ 'z') || ('A' ≤ c && c ≤ 'Z')

/-- Whether a character may stand in a name as a letter. ASCII is answered without the
    table. -/
def isNameAlphabetic (c : Char) : Bool :=
  if c.toNat < 128 then isAsciiLetter c else nameAlphabeticTable.contains c.toNat

/-- Whether a character may stand in a name as a letter or a number. ASCII is answered
    without the table: letters and digits. -/
def isNameAlphanumeric (c : Char) : Bool :=
  if c.toNat < 128 then isAsciiLetter c || ('0' ≤ c && c ≤ '9')
  else nameAlphanumericTable.contains c.toNat

/-- Whether a character is a word character. -/
def isWordChar (c : Char) : Bool := wordTable.contains c.toNat

/-- The folding pairs `(c, f)`: `c` folds to `f`. -/
def foldPairs : List (Nat × Nat) :=
  (words caseFoldText).filterMap fun w =>
    match w.splitOn ":" with
    | [a, b] => do pure (← readHex a, ← readHex b)
    | _ => none

/-- Groups folding pairs sorted by target into orbits: each orbit is a target and all
    code points that fold to it. -/
def orbitsOf (pairs : List (Nat × Nat)) : List (List Nat) :=
  (pairs.splitBy fun x y => x.2 == y.2).filterMap fun g =>
    g.head?.map fun first => first.2 :: g.map (·.1)

/-- The simple case folding orbits: sets of code points that fold to one another. -/
def foldOrbits : List (List Nat) :=
  orbitsOf (foldPairs.mergeSort fun x y => x.2 ≤ y.2)

/-- A set closed under simple case folding: every orbit that meets `s` is added. -/
def caseFold (s : CodeSet) : CodeSet :=
  let extra := foldOrbits.filter fun o => o.any s.contains
  CodeSet.ofRanges (s.ranges ++ extra.flatten.map fun c => (c, c))

end IncrementalLR.Unicode
