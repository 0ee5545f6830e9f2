import IncrementalLR.Unicode.Classes
import IncrementalLR.Unicode.AliasData
import IncrementalLR.Unicode.EmojiData
import IncrementalLR.Unicode.ScriptData
import IncrementalLR.Unicode.AgeData
import IncrementalLR.Unicode.BreakData

/-!
# Unicode property queries

A pattern names a set of characters by a property: `\pL`, `\p{Greek}`, `\p{Alphabetic}`,
`\p{sc=Greek}`, `\p{age=3.0}`.
-/

namespace IncrementalLR.Unicode

/-- The loose form of a property or value name. A leading `is`, in any case, is
    dropped, then spaces, underscores, dashes and non-ASCII characters, and ASCII
    letters are lowercased. The prefix rule spares `isc`, the short name of ISO_Comment,
    which would otherwise become the category `c`. -/
def looseName (s : String) : String :=
  let cs := s.toList
  let (prefixed, rest) :=
    match cs with
    | a :: b :: r => if (a = 'i' ∨ a = 'I') ∧ (b = 's' ∨ b = 'S') then (true, r) else (false, cs)
    | _ => (false, cs)
  let kept := (rest.filter fun c => c ≠ ' ' ∧ c ≠ '_' ∧ c ≠ '-' ∧ c.toNat < 0x80).map Char.toLower
  if prefixed ∧ kept = ['c'] then "isc" else String.ofList kept

/-- The groups of an alias text: the comma-separated names of each group, key first. -/
def aliasGroups (text : String) : List (List String) := (words text).map (·.splitOn ",")

/-- The key of the group with a name whose loose form is `loose`. -/
def lookupAlias (text : String) (loose : String) : Option String :=
  ((aliasGroups text).find? fun g => g.any fun a => looseName a == loose).bind List.head?

/-- The Unicode scalar values: all code points but the surrogates. -/
def scalarValues : CodeSet := ⟨[(0, 0xD7FF), (0xE000, 0x10FFFF)]⟩

/-- The scalar values of a set. -/
def scalarPart (s : CodeSet) : CodeSet := CodeSet.inter 0x10FFFF s scalarValues

/-- The two-letter categories that a category key covers: a group letter covers its
    group, `LC` the cased letters, and a two-letter key itself. -/
def categoryMembers (key : String) : List String :=
  if key = "LC" then ["Lu", "Ll", "Lt"]
  else if key.length = 1 then (categoryGroups.lookup key).getD []
  else [key]

/-- The set a loose general category name stands for, with the special names `any`,
    `assigned` and `ascii`. -/
def categorySet (loose : String) : Option CodeSet :=
  match loose with
  | "any" => some scalarValues
  | "assigned" => some (CodeSet.diff 0x10FFFF scalarValues (categories ["Cn"]))
  | "ascii" => some (CodeSet.range 0 0x7F)
  | _ => (lookupAlias categoryAliasText loose).map fun key =>
    scalarPart (categories (categoryMembers key))

/-- The script breakpoints in ascending order. -/
def scriptBreaks : List (Nat × String) := readBreaks (words scriptText)

/-- Reads the script extension entries: a range and its script codes. -/
def readExtensions : List String → List ((Nat × Nat) × List String)
  | r :: codes :: rest =>
    match readRange r with
    | some range => (range, codes.splitOn ",") :: readExtensions rest
    | none => readExtensions rest
  | _ => []

/-- The script extension entries in ascending order. -/
def scriptExtensions : List ((Nat × Nat) × List String) :=
  readExtensions (words scriptExtensionText)

/-- The code points whose script has the code `code`. -/
def scriptSet (code : String) : CodeSet :=
  CodeSet.ofRanges (rangesWhere (· == code) scriptBreaks)

/-- The code points whose script extensions include `code`: those of the script that
    have no extension entry, and those whose entry lists it. -/
def scriptExtensionSet (code : String) : CodeSet :=
  let listed := CodeSet.ofRanges (scriptExtensions.map (·.1))
  let own := CodeSet.diff 0x10FFFF (scriptSet code) listed
  own.union (CodeSet.ofRanges ((scriptExtensions.filter fun e => e.2.contains code).map (·.1)))

/-- A version `major.minor` as a pair of numbers. -/
def versionOf (v : String) : Option (Nat × Nat) :=
  match v.splitOn "." with
  | [a, b] => do pure (← a.toNat?, ← b.toNat?)
  | _ => none

/-- Whether version `v` is at most version `w`. -/
def versionAtMost (v w : Nat × Nat) : Bool := v.1 < w.1 || (v.1 == w.1 && v.2 ≤ w.2)

/-- The code points assigned in version `v` or before. -/
def ageSet (v : String) : CodeSet :=
  match versionOf v with
  | none => CodeSet.empty
  | some w =>
    CodeSet.ofRanges (rangesWhere (fun a => (versionOf a).any (versionAtMost · w))
      (readBreaks (words ageText)))

/-- The code points where a step function of `text` has the value `value`. -/
def stepSet (text value : String) : CodeSet :=
  CodeSet.ofRanges (rangesWhere (· == value) (readBreaks (words text)))

/-- The range text of a binary property, by its canonical name. -/
def binaryPropertyText (name : String) : Option String :=
  (listedPropertyText name).orElse fun _ =>
    (derivedPropertyText name).orElse fun _ => emojiPropertyText name

/-- A property query as a pattern writes it. -/
inductive PropertyQuery where
  /-- `\pL` or `\p{Name}`: a binary property, a general category or a script. -/
  | named (name : String)
  /-- `\p{property=value}`: a value of an enumerated property. -/
  | byValue (property value : String)
deriving Repr, DecidableEq

/-- Why a property query names no set. -/
inductive PropertyError where
  | propertyNotFound
  | valueNotFound
deriving Repr, DecidableEq

namespace PropertyQuery

/-- A value's set, refused when no character holds the value. -/
def heldBy : Option CodeSet → Except PropertyError CodeSet
  | some s => if s.isEmpty then .error .valueNotFound else .ok s
  | none => .error .valueNotFound

/-- The canonical name of a property, from its loose name. -/
def propertyName (loose : String) : Option String :=
  (lookupAlias binaryPropertyAliasText loose).orElse fun _ =>
    lookupAlias valuePropertyAliasText loose

/-- The set of a value of the property with canonical name `property`. -/
def valueSet (property loose : String) : Except PropertyError CodeSet :=
  match property with
  | "General_Category" => heldBy (categorySet loose)
  | "Script" => heldBy ((lookupAlias scriptAliasText loose).map scriptSet)
  | "Script_Extensions" => heldBy ((lookupAlias scriptAliasText loose).map scriptExtensionSet)
  | "Age" => heldBy ((lookupAlias ageAliasText loose).map ageSet)
  | "Grapheme_Cluster_Break" =>
    heldBy ((lookupAlias graphemeBreakAliasText loose).map (stepSet graphemeBreakText))
  | "Word_Break" => heldBy ((lookupAlias wordBreakAliasText loose).map (stepSet wordBreakText))
  | "Sentence_Break" =>
    heldBy ((lookupAlias sentenceBreakAliasText loose).map (stepSet sentenceBreakText))
  | _ => .error .propertyNotFound

/-- The set of Unicode scalar values that a query names. -/
def resolve : PropertyQuery → Except PropertyError CodeSet
  | .named name =>
    let loose := looseName name
    let property := if ["cf", "sc", "lc"].contains loose then none else propertyName loose
    match property with
    | some canonical =>
      match binaryPropertyText canonical with
      | some text => .ok (CodeSet.ofRanges (readRanges text))
      | none => .error .propertyNotFound
    | none =>
      match categorySet loose with
      | some s => heldBy (some s)
      | none =>
        match lookupAlias scriptAliasText loose with
        | some code => heldBy (some (scriptSet code))
        | none => .error .propertyNotFound
  | .byValue property value =>
    match propertyName (looseName property) with
    | some canonical => valueSet canonical (looseName value)
    | none => .error .propertyNotFound

end PropertyQuery

end IncrementalLR.Unicode
