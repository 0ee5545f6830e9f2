import IncrementalLR.Unicode.CodeSet
import IncrementalLR.Text.Utf8

/-!
# Regular expressions over bytes

`Regex` is a regular expression after its flags have been applied: literals are byte
strings, classes are sets of scalar values (matched as their UTF-8 encodings) or sets of
bytes, and assertions look at the text around a position.
-/

namespace IncrementalLR

/-- Assertions about the text around a position. Line assertions come in two kinds:
    by line feed alone, and by line feed or carriage return pairs. Word assertions come
    in an ASCII and a Unicode kind. -/
inductive Look where
  | textStart
  | textEnd
  | lineStart
  | lineEnd
  | crlfStart
  | crlfEnd
  | wordAscii
  | notWordAscii
  | wordUnicode
  | notWordUnicode
  | wordStartAscii
  | wordEndAscii
  | wordStartUnicode
  | wordEndUnicode
  | wordStartHalfAscii
  | wordEndHalfAscii
  | wordStartHalfUnicode
  | wordEndHalfUnicode
deriving Repr, DecidableEq, BEq, Inhabited

namespace Look

/-- Whether the assertion depends on Unicode word characters. -/
def isUnicodeWord : Look → Bool
  | .wordUnicode | .notWordUnicode | .wordStartUnicode | .wordEndUnicode
  | .wordStartHalfUnicode | .wordEndHalfUnicode => true
  | _ => false

/-- Whether the assertion is about word characters of either kind. -/
def isWord : Look → Bool
  | .textStart | .textEnd | .lineStart | .lineEnd | .crlfStart | .crlfEnd => false
  | _ => true

/-- Whether the assertion is about lines. -/
def isLine : Look → Bool
  | .lineStart | .lineEnd | .crlfStart | .crlfEnd => true
  | _ => false

/-- Whether the assertion is about carriage return line ends. -/
def isCrlf : Look → Bool
  | .crlfStart | .crlfEnd => true
  | _ => false

/-- The bit of an assertion in a set of assertions. -/
def bit : Look → Nat
  | .textStart => 1 | .textEnd => 2 | .lineStart => 4 | .lineEnd => 8
  | .crlfStart => 16 | .crlfEnd => 32 | .wordAscii => 64 | .notWordAscii => 128
  | .wordUnicode => 256 | .notWordUnicode => 512 | .wordStartAscii => 1024
  | .wordEndAscii => 2048 | .wordStartUnicode => 4096 | .wordEndUnicode => 8192
  | .wordStartHalfAscii => 16384 | .wordEndHalfAscii => 32768
  | .wordStartHalfUnicode => 65536 | .wordEndHalfUnicode => 131072

end Look

/-- The set of all assertions, as bits. -/
def allLooks : Nat := 262143

/-- A regular expression over bytes with its flags applied. -/
inductive Regex where
  | empty
  | literal (bytes : List UInt8)
  | chars (set : CodeSet)
  | bytes (set : CodeSet)
  | look (l : Look)
  | repetition (r : Regex) (min : Nat) (max : Option Nat) (greedy : Bool)
  | capture (index : Nat) (r : Regex)
  | concat (rs : List Regex)
  | alt (rs : List Regex)
deriving Repr, Inhabited, BEq

namespace Regex

/-- The number of UTF-8 bytes of a code point. -/
def utf8Width (c : Nat) : Nat :=
  if c < 0x80 then 1 else if c < 0x800 then 2 else if c < 0x10000 then 3 else 4

/-- Adds two optional lengths; `none` absorbs. -/
def addLength : Option Nat → Option Nat → Option Nat
  | some a, some b => some (a + b)
  | _, _ => none

mutual

/-- The fewest bytes a match can take; `none` if nothing matches. -/
def minLength : Regex → Option Nat
  | .empty => some 0
  | .literal bs => some bs.length
  | .chars s => s.least.map utf8Width
  | .bytes s => if s.isEmpty then none else some 1
  | .look _ => some 0
  | .repetition r min _ _ => (minLength r).map (· * min)
  | .capture _ r => minLength r
  | .concat rs => minLengthSeq rs
  | .alt rs => minLengthAlt rs

/-- The fewest bytes of a sequence: the sum of its parts. -/
def minLengthSeq : List Regex → Option Nat
  | [] => some 0
  | r :: rs => addLength (minLength r) (minLengthSeq rs)

/-- The fewest bytes of an alternation: `none` as soon as one branch never matches. -/
def minLengthAlt : List Regex → Option Nat
  | [] => none
  | [r] => minLength r
  | r :: rs =>
    match minLength r, minLengthAlt rs with
    | some a, some b => some (Nat.min a b)
    | _, _ => none

end

mutual

/-- The most bytes a match can take; `none` if unbounded or never matching. -/
def maxLength : Regex → Option Nat
  | .empty => some 0
  | .literal bs => some bs.length
  | .chars s => s.greatest.map utf8Width
  | .bytes s => if s.isEmpty then none else some 1
  | .look _ => some 0
  | .repetition r _ max _ => max.bind fun m => (maxLength r).map (· * m)
  | .capture _ r => maxLength r
  | .concat rs => maxLengthSeq rs
  | .alt rs => maxLengthAlt rs

/-- The most bytes of a sequence: the sum of its parts. -/
def maxLengthSeq : List Regex → Option Nat
  | [] => some 0
  | r :: rs => addLength (maxLength r) (maxLengthSeq rs)

/-- The most bytes of an alternation: `none` as soon as one branch has no bound. -/
def maxLengthAlt : List Regex → Option Nat
  | [] => none
  | [r] => maxLength r
  | r :: rs =>
    match maxLength r, maxLengthAlt rs with
    | some a, some b => some (Nat.max a b)
    | _, _ => none

end

/-- Whether an expression can take part in a match of more than zero bytes, or never
    matches: the sequences that stop the search for leading or trailing assertions. -/
def mayRead (r : Regex) : Bool := (maxLength r).all (· > 0)

mutual

/-- The assertions that hold at the start of every match, as bits: those of the leading
    parts of a sequence up to the first that may read, and those common to all branches
    of an alternation. -/
def leadingLooks : Regex → Nat
  | .look l => l.bit
  | .repetition r min _ _ => if min > 0 then leadingLooks r else 0
  | .capture _ r => leadingLooks r
  | .concat rs => leadingLooksSeq rs
  | .alt rs => leadingLooksAlt rs
  | _ => 0

/-- The leading assertions of a sequence. -/
def leadingLooksSeq : List Regex → Nat
  | [] => 0
  | r :: rs => if mayRead r then leadingLooks r else leadingLooks r ||| leadingLooksSeq rs

/-- The leading assertions common to the branches. -/
def leadingLooksAlt : List Regex → Nat
  | [] => 0
  | [r] => leadingLooks r
  | r :: rs => leadingLooks r &&& leadingLooksAlt rs

end

mutual

/-- The assertions that hold at the end of every match, as bits. -/
def trailingLooks : Regex → Nat
  | .look l => l.bit
  | .repetition r min _ _ => if min > 0 then trailingLooks r else 0
  | .capture _ r => trailingLooks r
  | .concat rs => (trailingLooksSeq rs).1
  | .alt rs => trailingLooksAlt rs
  | _ => 0

/-- The trailing assertions of a sequence: those of its parts from the end up to the
    last that may read, and whether no part may read. -/
def trailingLooksSeq : List Regex → Nat × Bool
  | [] => (0, true)
  | r :: rs =>
    match trailingLooksSeq rs with
    | (set, true) => (set ||| trailingLooks r, !mayRead r)
    | (set, false) => (set, false)

/-- The trailing assertions common to the branches. -/
def trailingLooksAlt : List Regex → Nat
  | [] => 0
  | [r] => trailingLooks r
  | r :: rs => trailingLooks r &&& trailingLooksAlt rs

end

mutual

/-- Whether some assertion in the expression satisfies `p`. -/
def hasLook (p : Look → Bool) : Regex → Bool
  | .look l => p l
  | .repetition r _ _ _ => hasLook p r
  | .capture _ r => hasLook p r
  | .concat rs => hasLookSeq p rs
  | .alt rs => hasLookSeq p rs
  | _ => false

/-- Whether some assertion in a list of expressions satisfies `p`. -/
def hasLookSeq (p : Look → Bool) : List Regex → Bool
  | [] => false
  | r :: rs => hasLook p r || hasLookSeq p rs

end

/-- Whether every match must start at the beginning of the text. -/
def startsAtTextStart (r : Regex) : Bool := leadingLooks r &&& Look.textStart.bit != 0

/-- The expression that never matches: the empty class of bytes. -/
def fail : Regex := .bytes CodeSet.empty

/-- The scalar values of a set of code points. -/
def scalarsOf (s : CodeSet) : CodeSet :=
  CodeSet.inter 0x10FFFF s ⟨[(0, 0xD7FF), (0xE000, 0x10FFFF)]⟩

/-- A class of scalar values: nothing for an empty class, a literal for one character. -/
def unicodeClass (s : CodeSet) : Regex :=
  let s := scalarsOf s
  match s.ranges with
  | [] => fail
  | [(a, b)] => if a = b then .literal (Utf8.encodeChar (Char.ofNat a)) else .chars s
  | _ => .chars s

/-- A class of bytes: nothing for an empty class, a literal for one byte. -/
def byteClass (s : CodeSet) : Regex :=
  match s.ranges with
  | [] => fail
  | [(a, b)] => if a = b then .literal [a.toUInt8] else .bytes s
  | _ => .bytes s

/-- Joins adjacent literals of a sequence. -/
def joinLiterals : List Regex → List Regex
  | .literal a :: .literal b :: rest => joinLiterals (.literal (a ++ b) :: rest)
  | r :: rest => r :: joinLiterals rest
  | [] => []
termination_by rs => rs.length

/-- A sequence, flattened, with empty parts dropped, adjacent literals joined and a
    single part unwrapped. -/
def seq (rs : List Regex) : Regex :=
  let parts := rs.flatMap fun r =>
    match r with
    | .concat inner => inner
    | .empty => []
    | r => [r]
  match joinLiterals parts with
  | [] => .empty
  | [r] => r
  | parts => .concat parts

/-- The code point of a literal that encodes exactly one character. -/
def singleChar (bs : List UInt8) : Option Nat :=
  let d := Utf8.decode bs
  match d.char with
  | some c => if d.size = bs.length then some c.toNat else none
  | none => none

/-- The characters of branches that are all one-character literals. -/
def singletonChars : List Regex → Option (List Nat)
  | [] => some []
  | .literal bs :: rest => do pure ((← singleChar bs) :: (← singletonChars rest))
  | _ => none

/-- The bytes of branches that are all one-byte literals. -/
def singletonBytes : List Regex → Option (List Nat)
  | [] => some []
  | .literal [b] :: rest => (singletonBytes rest).map (b.toNat :: ·)
  | _ => none

/-- The union of branches that are all classes, as a class of scalar values; a class
    of bytes takes part only when it is ASCII. -/
def classChars : List Regex → Option CodeSet
  | [] => some CodeSet.empty
  | .chars s :: rest => (classChars rest).map s.union
  | .bytes s :: rest => if s.isAscii then (classChars rest).map s.union else none
  | _ => none

/-- The union of branches that are all classes, as a class of bytes; a class of scalar
    values takes part only when it is ASCII. -/
def classBytes : List Regex → Option CodeSet
  | [] => some CodeSet.empty
  | .bytes s :: rest => (classBytes rest).map s.union
  | .chars s :: rest => if s.isAscii then (classBytes rest).map s.union else none
  | _ => none

/-- The parts of a branch that is a sequence. -/
def sequenceParts : Regex → Option (List Regex)
  | .concat rs => some rs
  | _ => none

/-- The longest common leading part of two lists. -/
def sharedLead : List Regex → List Regex → List Regex
  | a :: as, b :: bs => if a == b then a :: sharedLead as bs else []
  | _, _ => []

/-- An alternation, flattened; single characters or classes become one class, a part
    shared by the start of every branch is taken out, and a single branch is
    unwrapped. `fuel` bounds the nested alternations built for the remainders. -/
def choiceWith : Nat → List Regex → Regex
  | 0, rs => .alt rs
  | fuel + 1, rs =>
    let flat := rs.flatMap fun r =>
      match r with
      | .alt inner => inner
      | r => [r]
    match flat with
    | [] => fail
    | [r] => r
    | first :: rest =>
      match singletonChars flat with
      | some cs => unicodeClass (CodeSet.ofRanges (cs.map fun c => (c, c)))
      | none =>
      match singletonBytes flat with
      | some bs => byteClass (CodeSet.ofRanges (bs.map fun b => (b, b)))
      | none =>
      match classChars flat with
      | some s => unicodeClass s
      | none =>
      match classBytes flat with
      | some s => byteClass s
      | none =>
      match (flat.mapM sequenceParts), sequenceParts first with
      | some seqs, some firstParts =>
        let shared := rest.foldl (fun p r => sharedLead p ((sequenceParts r).getD [])) firstParts
        if shared.isEmpty then .alt flat
        else
          let tails := seqs.map fun parts => seq (parts.drop shared.length)
          seq (shared ++ [choiceWith fuel tails])
      | _, _ => .alt flat

/-- The number of parts of a branch that is a sequence, zero otherwise. -/
def partCount (r : Regex) : Nat := ((sequenceParts r).map List.length).getD 0

/-- An alternation of the branches, simplified. -/
def choice (rs : List Regex) : Regex :=
  choiceWith (rs.foldl (fun n r => Nat.max n (partCount r)) 0 + 1) rs

/-- A repetition. An expression that only matches the empty text gains nothing from a
    second round, so its counts are capped at one. Then zero times is the empty
    expression and exactly once the expression. -/
def repeated (r : Regex) (min : Nat) (max : Option Nat) (greedy : Bool) : Regex :=
  let (min, max) :=
    if maxLength r = some 0 then (Nat.min min 1, some ((max.getD 1).min 1)) else (min, max)
  if min = 0 ∧ max = some 0 then .empty
  else if min = 1 ∧ max = some 1 then r
  else .repetition r min max greedy

end Regex

end IncrementalLR
