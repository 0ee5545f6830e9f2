/-!
# Escaped text

Names in messages, labels and S-expressions are shown with control characters, quotes and
backslashes escaped and everything outside printable ASCII written as its code, so that each
shown text is one printable line.
-/

namespace IncrementalLR

/-- The hexadecimal digits of a number, lowercase. -/
def hexDigits (n : Nat) : String := String.ofList (Nat.toDigits 16 n)

/-- A character as messages show it: tab, return and line feed, backslash and quotes
    escaped with a backslash, other printable ASCII as it is, anything else as
    `\u` with its hexadecimal code in braces. -/
def escapeChar (c : Char) : String :=
  match c with
  | '\t' => "\\t"
  | '\r' => "\\r"
  | '\n' => "\\n"
  | '\\' => "\\\\"
  | '\'' => "\\'"
  | '"' => "\\\""
  | c =>
    if 0x20 ≤ c.toNat ∧ c.toNat ≤ 0x7E then c.toString
    else "\\u\x7b" ++ hexDigits c.toNat ++ "\x7d"

/-- A text with every character escaped as `escapeChar` shows it. -/
def escapeText (s : String) : String := String.join (s.toList.map escapeChar)

end IncrementalLR
