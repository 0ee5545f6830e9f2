import IncrementalLR.Regex.Automaton
import IncrementalLR.Unicode.Classes

/-!
# Leftmost-first search

The search runs all threads of a byte automaton side by side, kept in order of preference.
-/

namespace IncrementalLR.Regex

/-- A text to search from a given offset on; positions are counted from the offset and
    assertions do not see the bytes before it. -/
structure Haystack where
  text : ByteArray
  base : Nat

namespace Haystack

/-- The number of bytes from the offset to the end. -/
def length (h : Haystack) : Nat := h.text.size - h.base

/-- The byte at position `i`. -/
def byte? (h : Haystack) (i : Nat) : Option UInt8 :=
  if i < h.length then h.text[h.base + i]? else none

/-- Whether a byte is an ASCII word character. -/
def isWordByte (b : Nat) : Bool :=
  (0x30 ≤ b && b ≤ 0x39) || (0x41 ≤ b && b ≤ 0x5A) || b = 0x5F || (0x61 ≤ b && b ≤ 0x7A)

/-- Whether the byte at position `i` exists and is an ASCII word character. -/
def wordByteAt (h : Haystack) (i : Nat) : Bool :=
  match h.byte? i with
  | some b => isWordByte b.toNat
  | none => false

/-- Whether a well-formed word character starts at position `i`. -/
def wordCharAfter (h : Haystack) (i : Nat) : Bool :=
  if i < h.length then
    match (Utf8.decodeAt h.text (h.base + i)).char with
    | some c => Unicode.isWordChar c
    | none => false
  else false

/-- Whether a well-formed word character ends at position `i`: the decoding starts at
    the nearest byte before `i`, at most four back, that is not a continuation byte. -/
def wordCharBefore (h : Haystack) (i : Nat) : Bool :=
  if i = 0 then false
  else
    let limit := i - Nat.min i 4
    let rec back (j : Nat) : Nat → Nat
      | 0 => j
      | fuel + 1 =>
        if j > limit then
          match h.byte? j with
          | some b => if b &&& 0xC0 = 0x80 then back (j - 1) fuel else j
          | none => j
        else j
    let start := back (i - 1) 4
    match (Utf8.decode (h.text.extract (h.base + start) (h.base + i)).toList).char with
    | some c => Unicode.isWordChar c
    | none => false

end Haystack

end IncrementalLR.Regex

namespace IncrementalLR

/-- Whether an assertion holds at position `i`. -/
def Look.holds (l : Look) (h : Regex.Haystack) (i : Nat) : Bool :=
  let prev := if i = 0 then none else h.byte? (i - 1)
  let next := h.byte? i
  let atEnd := i ≥ h.length
  let before := i > 0 && h.wordByteAt (i - 1)
  let after := h.wordByteAt i
  match l with
  | .textStart => i = 0
  | .textEnd => atEnd
  | .lineStart => i = 0 || prev = some 10
  | .lineEnd => atEnd || next = some 10
  | .crlfStart => i = 0 || prev = some 10 || (prev = some 13 && next ≠ some 10)
  | .crlfEnd => atEnd || next = some 13 || (next = some 10 && prev ≠ some 13)
  | .wordAscii => before != after
  | .notWordAscii => before == after
  | .wordStartAscii => !before && after
  | .wordEndAscii => before && !after
  | .wordStartHalfAscii => !before
  | .wordEndHalfAscii => !after
  | .wordUnicode => h.wordCharBefore i != h.wordCharAfter i
  | .notWordUnicode => h.wordCharBefore i == h.wordCharAfter i
  | .wordStartUnicode => !h.wordCharBefore i && h.wordCharAfter i
  | .wordEndUnicode => h.wordCharBefore i && !h.wordCharAfter i
  | .wordStartHalfUnicode => !h.wordCharBefore i
  | .wordEndHalfUnicode => !h.wordCharAfter i

end IncrementalLR

namespace IncrementalLR.Regex

/-- The reading and accepting nodes reached from `stack` without reading, in order of
    preference, skipping those already seen. -/
def closure (nodes : Array Node) (holds : Look → Bool) :
    Nat → List Nat → List Nat → Array Nat → Array Nat
  | 0, _, _, out => out
  | _, [], _, out => out
  | fuel + 1, s :: rest, seen, out =>
    if seen.contains s then closure nodes holds fuel rest seen out
    else
      let seen := s :: seen
      match nodes[s]? with
      | some (.split targets) => closure nodes holds fuel (targets ++ rest) seen out
      | some (.look l next) =>
        if holds l then closure nodes holds fuel (next :: rest) seen out
        else closure nodes holds fuel rest seen out
      | some (.bytes _) | some .accept => closure nodes holds fuel rest seen (out.push s)
      | _ => closure nodes holds fuel rest seen out

/-- The threads of `a` at position `i`, started from `roots`. -/
def Automaton.threadsAt (a : Automaton) (h : Haystack) (i : Nat) (roots : List Nat) : List Nat :=
  (closure a.nodes (fun l => l.holds h i) (a.edgeBound + roots.length) roots [] #[]).toList

/-- The target of a byte in a list of transitions. -/
def transTarget (b : Nat) (moves : List (Nat × Nat × Nat)) : Option Nat :=
  (moves.find? fun (lo, hi, _) => lo ≤ b && b ≤ hi).map fun (_, _, t) => t

/-- Steps the threads over one byte (none at the end of the text): whether a thread
    accepted before any thread after it was stepped, and the targets of the earlier
    threads that read the byte, in order. -/
def stepThreads (nodes : Array Node) (byte : Option UInt8) : List Nat → Bool × List Nat
  | [] => (false, [])
  | t :: ts =>
    match nodes[t]? with
    | some .accept => (true, [])
    | some (.bytes moves) =>
      let (accepted, rest) := stepThreads nodes byte ts
      let here := match byte with
        | some b => (transTarget b.toNat moves).toList
        | none => []
      (accepted, here ++ rest)
    | _ => stepThreads nodes byte ts

/-- The end of the leftmost-first match of `a` in `h`, if there is one. An anchored
    search only tries the start of `h`; otherwise a match may start anywhere, and a
    thread for a later start is added with the lowest preference until some thread has
    matched. -/
def Automaton.matchEnd (a : Automaton) (h : Haystack) (anchored : Bool := true) : Option Nat :=
  let roots (targets : List Nat) (last : Option Nat) : List Nat :=
    if anchored || last.isSome then targets else targets ++ [a.start]
  let rec go (i : Nat) (threads : List Nat) (last : Option Nat) : Nat → Option Nat
    | 0 => last
    | fuel + 1 =>
      let (accepted, targets) := stepThreads a.nodes (h.byte? i) threads
      let last := if accepted then some i else last
      if i ≥ h.length || (targets.isEmpty && (anchored || last.isSome)) then last
      else go (i + 1) (a.threadsAt h (i + 1) (roots targets last)) last fuel
  go 0 (a.threadsAt h 0 [a.start]) none (h.length + 1)

/-- One past the first byte after which no match of `a` can be found or extended; one
    past the end of the text if the search never stops early. -/
def Automaton.deadEnd (a : Automaton) (h : Haystack) : Nat :=
  let rec go (i : Nat) (threads : List Nat) : Nat → Nat
    | 0 => h.length + 1
    | fuel + 1 =>
      match h.byte? i with
      | none => h.length + 1
      | some b =>
        let (accepted, targets) := stepThreads a.nodes (some b) threads
        if targets.isEmpty && !accepted then i + 1
        else go (i + 1) (a.threadsAt h (i + 1) targets) fuel
  go 0 (a.threadsAt h 0 [a.start]) (h.length + 1)

end IncrementalLR.Regex
