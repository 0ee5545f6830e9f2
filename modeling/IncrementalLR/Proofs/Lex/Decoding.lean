import Mathlib
import IncrementalLR.Proofs.Lex.Positions

/-!
# Reading UTF-8

`Utf8.decode` reads one character off the front of a byte string, and it is a UTF-8 decoder:
it reads a character exactly when the bytes begin with that character's encoding
(`decode_eq_some_iff`).
-/

namespace IncrementalLR

namespace Utf8

/-! ### Bytes by range -/

/-- The tag of a continuation byte, `10xxxxxx`, as a range. -/
theorem isContinuation_iff :
    ∀ b : UInt8, b &&& 0xC0 = 0x80 ↔ 0x80 ≤ b.toNat ∧ b.toNat < 0xC0 := by
  decide +kernel

/-- The lead bytes by range, each with the bits above its tag. -/
theorem leadByte_eq : ∀ b : UInt8, leadByte b =
    if 0xC2 ≤ b.toNat ∧ b.toNat ≤ 0xDF then some (2, b.toNat - 0xC0)
    else if 0xE0 ≤ b.toNat ∧ b.toNat ≤ 0xEF then some (3, b.toNat - 0xE0)
    else if 0xF0 ≤ b.toNat ∧ b.toNat ≤ 0xF4 then some (4, b.toNat - 0xF0)
    else none := by
  decide +kernel

theorem toNat_and_low (b : UInt8) : (b &&& 0x3F).toNat = b.toNat % 64 := by
  rw [UInt8.toNat_and]
  exact Nat.and_two_pow_sub_one_eq_mod b.toNat 6

theorem toNat_ofNat_of_lt {n : Nat} (h : n < 256) : (UInt8.ofNat n).toNat = n := by
  rw [UInt8.toNat_ofNat']
  exact Nat.mod_eq_of_lt h

theorem eq_ofNat_of_toNat_eq {b : UInt8} {n : Nat} (h : b.toNat = n) : UInt8.ofNat n = b := by
  rw [← h, UInt8.ofNat_toNat]

/-- The value of a character is a scalar value. -/
theorem toNat_isValidChar (c : Char) : c.toNat < 0xD800 ∨ (0xDFFF < c.toNat ∧ c.toNat < 0x110000) :=
  c.valid

theorem toNat_ofNat_char {n : Nat} (h : n < 0xD800 ∨ (0xDFFF < n ∧ n < 0x110000)) :
    (Char.ofNat n).toNat = n := by
  simp [Char.ofNat, h, Char.ofNatAux, Char.toNat]

/-! ### Reading continuation bytes -/

@[simp] theorem continuation_zero (acc : Nat) (bs : List UInt8) : continuation acc bs 0 = some acc := by
  cases bs <;> rfl

@[simp] theorem continuation_nil_succ (acc n : Nat) : continuation acc [] (n + 1) = none := rfl

theorem continuation_cons (acc : Nat) (b : UInt8) (bs : List UInt8) (n : Nat) :
    continuation acc (b :: bs) (n + 1) =
      if 0x80 ≤ b.toNat ∧ b.toNat < 0xC0 then continuation (acc * 64 + b.toNat % 64) bs n
      else none := by
  rw [continuation, ← toNat_and_low]
  simp only [isContinuation_iff]

/-- The range a code point read from three bytes must lie in. -/
theorem fitsWidth_three {cp : Nat} :
    fitsWidth 3 cp = true ↔ 0x800 ≤ cp ∧ (cp < 0xD800 ∨ (0xDFFF < cp ∧ cp < 0x110000)) := by
  simp [fitsWidth]

/-- The range a code point read from four bytes must lie in. -/
theorem fitsWidth_four {cp : Nat} :
    fitsWidth 4 cp = true ↔ 0x10000 ≤ cp ∧ cp ≤ 0x10FFFF := by
  simp only [fitsWidth]
  simp
  omega

/-- Continuation bytes are read from the front: a prefix that holds all of them reads
    the same, and a shorter one reads nothing. -/
theorem continuation_take (acc count m : Nat) (bs : List UInt8) :
    continuation acc (bs.take m) count = if count ≤ m then continuation acc bs count else none := by
  induction count generalizing acc bs m with
  | zero => simp
  | succ count ih =>
    cases bs with
    | nil => simp
    | cons b bs =>
      cases m with
      | zero => simp
      | succ m =>
        rw [List.take_succ_cons, continuation_cons, continuation_cons, ih]
        by_cases hcount : count ≤ m
        · simp [hcount]
        · simp [hcount]

/-! ### One reading step -/

@[simp] theorem decode_ascii {b : UInt8} (rest : List UInt8) (hb : b.toNat < 0x80) :
    decode (b :: rest) = ⟨some (Char.ofNat b.toNat), 1⟩ := by
  have hlt : b < 0x80 := by simpa [UInt8.lt_iff_toNat_lt] using hb
  simp [decode, hlt]

theorem decode_of_leadByte_none {b : UInt8} (rest : List UInt8) (hb : 0x80 ≤ b.toNat)
    (hlead : leadByte b = none) : decode (b :: rest) = stray := by
  have hge : ¬ b < 0x80 := by simpa [UInt8.lt_iff_toNat_lt] using hb
  rw [decode, if_neg hge, hlead]

/-- A lead byte reads its continuation bytes and keeps the code point if it fits. -/
theorem decode_lead {b : UInt8} {width bits : Nat} (hb : leadByte b = some (width, bits))
    (rest : List UInt8) :
    decode (b :: rest) = (continuation bits rest (width - 1)).elim stray
      (fun cp => if fitsWidth width cp then ⟨some (Char.ofNat cp), width⟩ else stray) := by
  have hge : ¬ b < 0x80 := by
    rw [leadByte_eq] at hb
    rw [UInt8.lt_iff_toNat_lt]
    split_ifs at hb <;> simp_all <;> omega
  rw [decode, if_neg hge, hb]
  dsimp only
  cases continuation bits rest (width - 1) <;> rfl

/-- Reading gives a character, or else a stray byte, or nothing from nothing. -/
theorem decode_char_eq_none {s : List UInt8} (h : (decode s).char = none) :
    decode s = ⟨none, 0⟩ ∧ s = [] ∨ decode s = stray := by
  cases s with
  | nil => exact .inl ⟨rfl, rfl⟩
  | cons b rest =>
    refine .inr ?_
    by_cases hb : b.toNat < 0x80
    · rw [decode_ascii rest hb] at h
      cases h
    · cases hlead : leadByte b with
      | none => exact decode_of_leadByte_none rest (by omega) hlead
      | some lead =>
        rw [decode_lead hlead] at h ⊢
        cases hcp : continuation lead.2 rest (lead.1 - 1) with
        | none => rfl
        | some cp =>
          rw [hcp] at h
          dsimp only [Option.elim] at h ⊢
          by_cases hfit : fitsWidth lead.1 cp = true
          · rw [if_pos hfit] at h
            cases h
          · rw [if_neg hfit]

/-- Reading a prefix that holds the whole step reads the same. -/
theorem decode_take {s : List UInt8} {m : Nat} (hm : max (decode s).size 1 ≤ m) :
    decode (s.take m) = decode s := by
  cases s with
  | nil => simp
  | cons b rest =>
    obtain ⟨m, rfl⟩ : ∃ m', m = m' + 1 := ⟨m - 1, by omega⟩
    rw [List.take_succ_cons]
    by_cases hb : b.toNat < 0x80
    · rw [decode_ascii _ hb, decode_ascii _ hb]
    · cases hlead : leadByte b with
      | none => rw [decode_of_leadByte_none _ (by omega) hlead, decode_of_leadByte_none _ (by omega) hlead]
      | some lead =>
        obtain ⟨width, bits⟩ := lead
        rw [decode_lead hlead] at hm
        rw [decode_lead hlead (rest.take m), decode_lead hlead rest, continuation_take]
        by_cases hroom : width - 1 ≤ m
        · rw [if_pos hroom]
        · -- the step is shorter than the character: it was a stray byte all along
          rw [if_neg hroom]
          cases hcp : continuation bits rest (width - 1) with
          | none => rfl
          | some cp =>
            rw [hcp] at hm
            dsimp only [Option.elim] at hm ⊢
            split_ifs with hfit
            · rw [if_pos hfit] at hm
              have hw := (leadByte_width hlead).1
              simp only at hm
              omega
            · rfl

/-! ### Encodings read back -/

/-- Reading the encoding of a character gives that character and its width. -/
theorem decode_encodeChar_append (c : Char) (rest : List UInt8) :
    decode (String.utf8EncodeChar c ++ rest) = ⟨some c, c.utf8Size⟩ := by
  have hv := toNat_isValidChar c
  rw [← String.length_utf8EncodeChar]
  unfold String.utf8EncodeChar
  simp only [Char.toNat_val]
  split_ifs with h₁ h₂ h₃
  · -- one byte below 0x80
    rw [List.singleton_append, decode_ascii _ (by rw [toNat_ofNat_of_lt (by omega)]; omega),
      toNat_ofNat_of_lt (by omega), Char.ofNat_toNat]
    rfl
  · -- a lead byte from 0xC2 and one continuation byte
    have hlead : leadByte (UInt8.ofNat (c.toNat / 64 % 32 + 0xC0)) =
        some (2, c.toNat / 64 % 32 + 0xC0 - 0xC0) := by
      rw [leadByte_eq, toNat_ofNat_of_lt (by omega), if_pos (by omega)]
    have hcp : (c.toNat / 64 % 32 + 0xC0 - 0xC0) * 64 + (c.toNat % 64 + 0x80) % 64 = c.toNat := by
      omega
    rw [List.cons_append, decode_lead hlead, List.cons_append, continuation_cons,
      toNat_ofNat_of_lt (by omega), if_pos (by omega), continuation_zero, Option.elim_some, hcp,
      if_pos (by simp [fitsWidth]; omega), Char.ofNat_toNat]
    rfl
  · -- a lead byte from 0xE0 and two continuation bytes
    have hlead : leadByte (UInt8.ofNat (c.toNat / 4096 % 16 + 0xE0)) =
        some (3, c.toNat / 4096 % 16 + 0xE0 - 0xE0) := by
      rw [leadByte_eq, toNat_ofNat_of_lt (by omega), if_neg (by omega), if_pos (by omega)]
    have hcp : ((c.toNat / 4096 % 16 + 0xE0 - 0xE0) * 64 + (c.toNat / 64 % 64 + 0x80) % 64) * 64 +
        (c.toNat % 64 + 0x80) % 64 = c.toNat := by
      omega
    rw [List.cons_append, decode_lead hlead, List.cons_append, continuation_cons,
      toNat_ofNat_of_lt (by omega), if_pos (by omega), List.cons_append, continuation_cons,
      toNat_ofNat_of_lt (by omega), if_pos (by omega), continuation_zero, Option.elim_some, hcp,
      if_pos (by simp [fitsWidth]; omega), Char.ofNat_toNat]
    rfl
  · -- a lead byte from 0xF0 and three continuation bytes
    have hlead : leadByte (UInt8.ofNat (c.toNat / 262144 % 8 + 0xF0)) =
        some (4, c.toNat / 262144 % 8 + 0xF0 - 0xF0) := by
      rw [leadByte_eq, toNat_ofNat_of_lt (by omega), if_neg (by omega), if_neg (by omega),
        if_pos (by omega)]
    have hcp : (((c.toNat / 262144 % 8 + 0xF0 - 0xF0) * 64 + (c.toNat / 4096 % 64 + 0x80) % 64) * 64 +
        (c.toNat / 64 % 64 + 0x80) % 64) * 64 + (c.toNat % 64 + 0x80) % 64 = c.toNat := by
      omega
    rw [List.cons_append, decode_lead hlead, List.cons_append, continuation_cons,
      toNat_ofNat_of_lt (by omega), if_pos (by omega), List.cons_append, continuation_cons,
      toNat_ofNat_of_lt (by omega), if_pos (by omega), List.cons_append, continuation_cons,
      toNat_ofNat_of_lt (by omega), if_pos (by omega), continuation_zero, Option.elim_some, hcp,
      if_pos (by simp [fitsWidth]; omega), Char.ofNat_toNat]
    rfl

/-- What a successful read of continuation bytes took: `count` bytes tagged `10`, whose
    payloads follow `acc` in base 64. -/
theorem continuation_eq_some {acc count cp : Nat} {bs : List UInt8}
    (h : continuation acc bs count = some cp) :
    ∃ ds rest, bs = ds ++ rest ∧ ds.length = count ∧
      (∀ x ∈ ds, 0x80 ≤ x.toNat ∧ x.toNat < 0xC0) ∧
      cp = ds.foldl (fun a x => a * 64 + x.toNat % 64) acc := by
  induction count generalizing acc bs with
  | zero =>
    rw [continuation_zero, Option.some.injEq] at h
    exact ⟨[], bs, rfl, rfl, by simp, h.symm⟩
  | succ count ih =>
    cases bs with
    | nil => cases h
    | cons b bs =>
      rw [continuation_cons] at h
      by_cases hb : 0x80 ≤ b.toNat ∧ b.toNat < 0xC0
      · rw [if_pos hb] at h
        obtain ⟨ds, rest, rfl, hlen, hds, hcp⟩ := ih h
        refine ⟨b :: ds, rest, rfl, by simp [hlen], ?_, by simpa using hcp⟩
        intro x hx
        rcases List.mem_cons.1 hx with rfl | hx
        · exact hb
        · exact hds x hx
      · rw [if_neg hb] at h
        cases h

/-- The encoding of a code point below 0x80 is the byte itself. -/
theorem encodeChar_ascii {b : UInt8} (hb : b.toNat < 0x80) :
    String.utf8EncodeChar (Char.ofNat b.toNat) = [b] := by
  have hcp := toNat_ofNat_char (n := b.toNat) (Or.inl (by omega))
  unfold String.utf8EncodeChar
  simp only [Char.toNat_val]
  rw [hcp, if_pos (by omega), UInt8.ofNat_toNat]

/-- The encoding of what a lead byte from 0xC2 and one continuation byte spell. -/
theorem encodeChar_two {b₀ b₁ : UInt8} (h₀ : 0xC2 ≤ b₀.toNat ∧ b₀.toNat ≤ 0xDF)
    (h₁ : 0x80 ≤ b₁.toNat ∧ b₁.toNat < 0xC0) :
    String.utf8EncodeChar (Char.ofNat ((b₀.toNat - 0xC0) * 64 + b₁.toNat % 64)) = [b₀, b₁] := by
  have hcp := toNat_ofNat_char (n := (b₀.toNat - 0xC0) * 64 + b₁.toNat % 64) (Or.inl (by omega))
  unfold String.utf8EncodeChar
  simp only [Char.toNat_val]
  rw [hcp]
  rw [if_neg (by omega), if_pos (by omega), List.cons.injEq, List.cons.injEq]
  exact ⟨eq_ofNat_of_toNat_eq (by omega), eq_ofNat_of_toNat_eq (by omega), rfl⟩

/-- The encoding of what a lead byte from 0xE0 and two continuation bytes spell, when it
    fits three bytes. -/
theorem encodeChar_three {b₀ b₁ b₂ : UInt8} (h₀ : 0xE0 ≤ b₀.toNat ∧ b₀.toNat ≤ 0xEF)
    (h₁ : 0x80 ≤ b₁.toNat ∧ b₁.toNat < 0xC0) (h₂ : 0x80 ≤ b₂.toNat ∧ b₂.toNat < 0xC0)
    (hfit : fitsWidth 3 (((b₀.toNat - 0xE0) * 64 + b₁.toNat % 64) * 64 + b₂.toNat % 64) = true) :
    String.utf8EncodeChar (Char.ofNat (((b₀.toNat - 0xE0) * 64 + b₁.toNat % 64) * 64 + b₂.toNat % 64)) =
      [b₀, b₁, b₂] := by
  rw [fitsWidth_three] at hfit
  have hcp := toNat_ofNat_char (n := ((b₀.toNat - 0xE0) * 64 + b₁.toNat % 64) * 64 + b₂.toNat % 64)
    (by omega)
  unfold String.utf8EncodeChar
  simp only [Char.toNat_val]
  rw [hcp]
  rw [if_neg (by omega), if_neg (by omega), if_pos (by omega), List.cons.injEq, List.cons.injEq,
    List.cons.injEq]
  exact ⟨eq_ofNat_of_toNat_eq (by omega), eq_ofNat_of_toNat_eq (by omega),
    eq_ofNat_of_toNat_eq (by omega), rfl⟩

/-- The encoding of what a lead byte from 0xF0 and three continuation bytes spell, when
    it fits four bytes. -/
theorem encodeChar_four {b₀ b₁ b₂ b₃ : UInt8} (h₀ : 0xF0 ≤ b₀.toNat ∧ b₀.toNat ≤ 0xF4)
    (h₁ : 0x80 ≤ b₁.toNat ∧ b₁.toNat < 0xC0) (h₂ : 0x80 ≤ b₂.toNat ∧ b₂.toNat < 0xC0)
    (h₃ : 0x80 ≤ b₃.toNat ∧ b₃.toNat < 0xC0)
    (hfit : fitsWidth 4 ((((b₀.toNat - 0xF0) * 64 + b₁.toNat % 64) * 64 + b₂.toNat % 64) * 64 +
      b₃.toNat % 64) = true) :
    String.utf8EncodeChar (Char.ofNat ((((b₀.toNat - 0xF0) * 64 + b₁.toNat % 64) * 64 +
      b₂.toNat % 64) * 64 + b₃.toNat % 64)) = [b₀, b₁, b₂, b₃] := by
  rw [fitsWidth_four] at hfit
  have hcp := toNat_ofNat_char (n := (((b₀.toNat - 0xF0) * 64 + b₁.toNat % 64) * 64 +
    b₂.toNat % 64) * 64 + b₃.toNat % 64) (by omega)
  unfold String.utf8EncodeChar
  simp only [Char.toNat_val]
  rw [hcp]
  rw [if_neg (by omega), if_neg (by omega), if_neg (by omega), List.cons.injEq, List.cons.injEq,
    List.cons.injEq, List.cons.injEq]
  exact ⟨eq_ofNat_of_toNat_eq (by omega), eq_ofNat_of_toNat_eq (by omega),
    eq_ofNat_of_toNat_eq (by omega), eq_ofNat_of_toNat_eq (by omega), rfl⟩

/-- A character read off the front is the one whose encoding the bytes begin with. -/
theorem take_eq_encodeChar_of_decode {s : List UInt8} {c : Char} {n : Nat}
    (h : decode s = ⟨some c, n⟩) : s.take n = String.utf8EncodeChar c := by
  cases s with
  | nil => cases h
  | cons b rest =>
    by_cases hb : b.toNat < 0x80
    · rw [decode_ascii rest hb, Decoded.mk.injEq, Option.some.injEq] at h
      obtain ⟨rfl, rfl⟩ := h
      rw [encodeChar_ascii hb]
      rfl
    · cases hlead : leadByte b with
      | none =>
        rw [decode_of_leadByte_none rest (by omega) hlead] at h
        cases h
      | some lead =>
        obtain ⟨width, bits⟩ := lead
        rw [decode_lead hlead] at h
        cases hcont : continuation bits rest (width - 1) with
        | none =>
          rw [hcont] at h
          cases h
        | some cp =>
          rw [hcont] at h
          dsimp only [Option.elim] at h
          by_cases hfit : fitsWidth width cp = true
          · rw [if_pos hfit, Decoded.mk.injEq, Option.some.injEq] at h
            obtain ⟨rfl, rfl⟩ := h
            obtain ⟨ds, rest, rfl, hlen, hds, rfl⟩ := continuation_eq_some hcont
            rw [leadByte_eq] at hlead
            -- the lead byte fixes the width, and with it how many bytes were read
            split_ifs at hlead with h₂ h₃ h₄
            · cases hlead
              obtain ⟨b₁, rfl⟩ := List.length_eq_one_iff.1 hlen
              simp only [List.cons_append, List.nil_append, List.take_succ_cons, List.take_zero,
                List.foldl_cons, List.foldl_nil]
              rw [encodeChar_two h₂ (hds b₁ (by simp))]
            · cases hlead
              obtain ⟨b₁, b₂, rfl⟩ := List.length_eq_two.1 hlen
              simp only [List.cons_append, List.nil_append, List.take_succ_cons, List.take_zero,
                List.foldl_cons, List.foldl_nil] at hfit ⊢
              rw [encodeChar_three h₃ (hds b₁ (by simp)) (hds b₂ (by simp)) hfit]
            · cases hlead
              obtain ⟨b₁, b₂, b₃, rfl⟩ := List.length_eq_three.1 hlen
              simp only [List.cons_append, List.nil_append, List.take_succ_cons, List.take_zero,
                List.foldl_cons, List.foldl_nil] at hfit ⊢
              rw [encodeChar_four h₄ (hds b₁ (by simp)) (hds b₂ (by simp)) (hds b₃ (by simp)) hfit]
          · rw [if_neg hfit] at h
            cases h

/-- A step never moves past the end of what it reads. -/
theorem size_le_length {s : List UInt8} (h : s ≠ []) : max (decode s).size 1 ≤ s.length := by
  obtain ⟨b, rest, rfl⟩ := List.exists_cons_of_ne_nil h
  exact (decode_bytes b rest).1

/-- Reading gives a character exactly when the bytes begin with its encoding, and then
    moves over that encoding. -/
theorem decode_eq_some_iff {s : List UInt8} {c : Char} {n : Nat} :
    decode s = ⟨some c, n⟩ ↔ n = c.utf8Size ∧ s.take n = String.utf8EncodeChar c := by
  constructor
  · intro h
    have htake := take_eq_encodeChar_of_decode h
    have hroom : n ≤ s.length := by
      have hne : s ≠ [] := by
        rintro rfl
        cases h
      have := size_le_length hne
      rw [h] at this
      exact Nat.le_trans (Nat.le_max_left n 1) this
    have hlen := congrArg List.length htake
    rw [List.length_take, String.length_utf8EncodeChar, Nat.min_eq_left hroom] at hlen
    exact ⟨hlen, htake⟩
  · rintro ⟨rfl, htake⟩
    rw [← List.take_append_drop c.utf8Size s, htake, decode_encodeChar_append]

/-- A step that reads a character moves over its encoding. -/
theorem decode_of_char_eq_some {s : List UInt8} {c : Char} (hc : (decode s).char = some c) :
    (decode s).size = c.utf8Size ∧ s.take (decode s).size = String.utf8EncodeChar c :=
  decode_eq_some_iff.1 (by rw [← hc])

/-- Reading gives a stray byte exactly when the bytes begin with no encoding. -/
theorem decode_eq_stray_iff {s : List UInt8} :
    decode s = stray ↔ s ≠ [] ∧ ∀ c : Char, ¬ String.utf8EncodeChar c <+: s := by
  constructor
  · intro h
    constructor
    · rintro rfl
      cases h
    · rintro c ⟨rest, rfl⟩
      rw [decode_encodeChar_append] at h
      cases h
  · rintro ⟨hne, hnone⟩
    cases hc : (decode s).char with
    | none =>
      rcases decode_char_eq_none hc with ⟨-, hnil⟩ | hstray
      · exact absurd hnil hne
      · exact hstray
    | some c =>
      have htake := (decode_of_char_eq_some hc).2
      exact absurd ⟨s.drop (decode s).size, by rw [← htake, List.take_append_drop]⟩ (hnone c)

/-- Only the empty string reads as nothing. -/
theorem decode_eq_empty_iff {s : List UInt8} : decode s = ⟨none, 0⟩ ↔ s = [] := by
  constructor
  · intro h
    cases s with
    | nil => rfl
    | cons b rest =>
      have := size_le_length (s := b :: rest) (by simp)
      rcases decode_char_eq_none (s := b :: rest) (by rw [h]) with ⟨-, hnil⟩ | hstray
      · cases hnil
      · rw [h] at hstray
        cases hstray
  · rintro rfl
    rfl

/-- No step reads more than four bytes. -/
theorem size_le_four (s : List UInt8) : (decode s).size ≤ 4 := by
  cases hc : (decode s).char with
  | none =>
    rcases decode_char_eq_none hc with ⟨h, -⟩ | h <;> rw [h] <;> decide
  | some c =>
    rw [(decode_of_char_eq_some hc).1]
    exact Char.utf8Size_le_four c

/-- A step over a non-empty string reads at least one byte. -/
theorem size_pos {s : List UInt8} (hne : s ≠ []) : 0 < (decode s).size := by
  cases hc : (decode s).char with
  | none =>
    rcases decode_char_eq_none hc with ⟨-, hnil⟩ | h
    · exact absurd hnil hne
    · rw [h]
      decide
  | some c =>
    rw [(decode_of_char_eq_some hc).1]
    exact Char.utf8Size_pos c

/-- Reading at an offset of a byte array reads the bytes from there on. -/
theorem decodeAt_eq_decode (bytes : ByteArray) (offset : Nat) :
    decodeAt bytes offset = decode (bytes.data.toList.drop offset) := by
  rw [decodeAt_eq, decode_take]
  have := size_le_four (bytes.data.toList.drop offset)
  omega

/-- A byte string is the encoding of a character exactly when, as a whole, it is the
    well-formed UTF-8 of the string of that one character. -/
theorem fromUTF8_eq_singleton_iff (bs : List UInt8) (c : Char) :
    String.fromUTF8? bs.toByteArray = some (String.singleton c) ↔ bs = String.utf8EncodeChar c := by
  have hbytes : (String.singleton c).toByteArray = (String.utf8EncodeChar c).toByteArray := by
    rw [String.toByteArray_singleton, List.utf8Encode_singleton]
  unfold String.fromUTF8?
  constructor
  · intro h
    split at h
    · have hstring := congrArg String.toByteArray (Option.some.inj h)
      rw [hbytes] at hstring
      exact List.toByteArray_inj.1 hstring
    · cases h
  · rintro rfl
    rw [dif_pos (hbytes ▸ (String.singleton c).isValidUTF8)]
    exact congrArg some (String.toByteArray_inj.1 hbytes.symm)

/-- Reading gives a character exactly when the bytes it moves over are, on their own,
    the well-formed UTF-8 of the string of that one character. -/
theorem decode_eq_some_iff_fromUTF8 {s : List UInt8} {c : Char} {n : Nat} :
    decode s = ⟨some c, n⟩ ↔
      n ≤ s.length ∧ String.fromUTF8? (s.take n).toByteArray = some (String.singleton c) := by
  rw [decode_eq_some_iff, fromUTF8_eq_singleton_iff]
  constructor
  · rintro ⟨rfl, htake⟩
    have hlen := congrArg List.length htake
    rw [List.length_take, String.length_utf8EncodeChar] at hlen
    exact ⟨by omega, htake⟩
  · rintro ⟨hroom, htake⟩
    have hlen := congrArg List.length htake
    rw [List.length_take, String.length_utf8EncodeChar, Nat.min_eq_left hroom] at hlen
    exact ⟨hlen, htake⟩

/-! ### Reading a whole text -/

/-- How far one reading step moves: over the character read, or one byte past a stray
    byte. -/
def stepWidth (s : List UInt8) : Nat := max (decode s).size 1

theorem stepWidth_pos (s : List UInt8) : 0 < stepWidth s :=
  Nat.lt_of_lt_of_le Nat.one_pos (Nat.le_max_right _ _)

/-- The bytes of each step of reading a text from the front. -/
def pieces (s : List UInt8) : List (List UInt8) :=
  if _h : s = [] then [] else s.take (stepWidth s) :: pieces (s.drop (stepWidth s))
termination_by s.length
decreasing_by
  have hpos := stepWidth_pos s
  have hlen : 0 < s.length := List.length_pos_iff.2 ‹¬s = []›
  rw [List.length_drop]
  omega

@[simp] theorem pieces_nil : pieces [] = [] := by
  rw [pieces, dif_pos rfl]

theorem pieces_of_ne_nil {s : List UInt8} (h : s ≠ []) :
    pieces s = s.take (stepWidth s) :: pieces (s.drop (stepWidth s)) := by
  rw [pieces, dif_neg h]

theorem pieces_eq_nil_iff {s : List UInt8} : pieces s = [] ↔ s = [] := by
  constructor
  · intro h
    by_contra hne
    rw [pieces_of_ne_nil hne] at h
    cases h
  · rintro rfl
    exact pieces_nil

/-- The character a step reads is the one its bytes encode. -/
theorem char_decode_eq_some_iff {s : List UInt8} (hne : s ≠ []) {c : Char} :
    (decode s).char = some c ↔ s.take (stepWidth s) = String.utf8EncodeChar c := by
  constructor
  · intro hc
    obtain ⟨hsize, htake⟩ := decode_of_char_eq_some hc
    rw [stepWidth, hsize, Nat.max_eq_left (Char.utf8Size_pos c), ← hsize, htake]
  · intro htake
    have hroom := size_le_length hne
    have hlen := congrArg List.length htake
    rw [List.length_take, String.length_utf8EncodeChar, stepWidth, Nat.min_eq_left hroom] at hlen
    have hsize : (decode s).size = c.utf8Size := by
      have := size_pos hne
      omega
    have hdecode : decode s = ⟨some c, c.utf8Size⟩ :=
      decode_eq_some_iff.2 ⟨rfl, by rw [← hlen, ← stepWidth]; exact htake⟩
    rw [hdecode]

theorem encodeChar_newline : String.utf8EncodeChar '\n' = [10] := rfl

/-- A text cut into characters and stray bytes from the front: the encoding of a
    character where the text goes on with one, and otherwise a single byte. -/
inductive Cut : List UInt8 → List (List UInt8) → Prop
  | nil : Cut [] []
  | char (c : Char) {rest : List UInt8} {ps : List (List UInt8)} :
      Cut rest ps → Cut (String.utf8EncodeChar c ++ rest) (String.utf8EncodeChar c :: ps)
  | stray {b : UInt8} {rest : List UInt8} {ps : List (List UInt8)} :
      (∀ c : Char, ¬ String.utf8EncodeChar c <+: b :: rest) → Cut rest ps →
        Cut (b :: rest) ([b] :: ps)

/-- The pieces of a cut make up the text. -/
theorem Cut.flatten_eq {s : List UInt8} {ps : List (List UInt8)} (h : Cut s ps) : ps.flatten = s := by
  induction h with
  | nil => rfl
  | char c _ ih => rw [List.flatten_cons, ih]
  | stray _ _ ih => rw [List.flatten_cons, ih, List.singleton_append]

/-- The steps of reading cut the text into characters and stray bytes. -/
theorem cut_pieces (s : List UInt8) : Cut s (pieces s) := by
  fun_induction pieces s with
  | case1 => exact .nil
  | case2 s hne ih =>
    cases hc : (decode s).char with
    | none =>
      -- a stray byte: one byte on, and no encoding starts here
      have hstray : decode s = stray := by
        rcases decode_char_eq_none hc with ⟨-, hnil⟩ | hstray
        · exact absurd hnil hne
        · exact hstray
      have hwidth : stepWidth s = 1 := by
        rw [stepWidth, hstray]
        rfl
      obtain ⟨b, rest, rfl⟩ := List.exists_cons_of_ne_nil hne
      rw [hwidth] at ih ⊢
      exact .stray (decode_eq_stray_iff.1 hstray).2 ih
    | some c =>
      -- a character: the step moves over its encoding
      obtain ⟨hsize, htake⟩ := decode_of_char_eq_some hc
      have hwidth : stepWidth s = c.utf8Size := by
        rw [stepWidth, hsize]
        exact Nat.max_eq_left (Char.utf8Size_pos c)
      rw [hwidth] at ih ⊢
      rw [hsize] at htake
      have hcut := Cut.char c ih
      rwa [← htake, List.take_append_drop] at hcut

/-- Reading follows every cut: a text has only the one. -/
theorem Cut.eq_pieces {s : List UInt8} {ps : List (List UInt8)} (h : Cut s ps) : ps = pieces s := by
  induction h with
  | nil => exact pieces_nil.symm
  | @char c rest _ _ ih =>
    have hwidth : stepWidth (String.utf8EncodeChar c ++ rest) = c.utf8Size := by
      rw [stepWidth, decode_encodeChar_append]
      exact Nat.max_eq_left (Char.utf8Size_pos c)
    rw [pieces_of_ne_nil (by simp [String.utf8EncodeChar_ne_nil]), hwidth, ← String.length_utf8EncodeChar,
      List.take_left, List.drop_left, ih]
  | @stray b rest _ hnone _ ih =>
    have hwidth : stepWidth (b :: rest) = 1 := by
      rw [stepWidth, decode_eq_stray_iff.2 ⟨by simp, hnone⟩]
      rfl
    rw [pieces_of_ne_nil (by simp), hwidth, ih]
    rfl

theorem cut_iff {s : List UInt8} {ps : List (List UInt8)} : Cut s ps ↔ ps = pieces s :=
  ⟨Cut.eq_pieces, fun h => h ▸ cut_pieces s⟩

/-- What follows some pieces of a cut is cut into the rest. -/
theorem Cut.drop {s : List UInt8} {ps : List (List UInt8)} (h : Cut s ps) (k : Nat) :
    Cut (ps.drop k).flatten (ps.drop k) := by
  induction k generalizing s ps with
  | zero => rwa [List.drop_zero, h.flatten_eq]
  | succ k ih =>
    cases h with
    | nil => simpa using Cut.nil
    | char c hrest => exact ih hrest
    | stray _ hrest => exact ih hrest

/-- The text some first pieces of a cut make up is cut into those pieces: a byte that
    starts no encoding within the whole text starts none within a prefix of it. -/
theorem Cut.take {s : List UInt8} {ps : List (List UInt8)} (h : Cut s ps) (k : Nat) :
    Cut (ps.take k).flatten (ps.take k) := by
  induction h generalizing k with
  | nil => simpa using Cut.nil
  | char c hrest ih =>
    cases k with
    | zero => exact .nil
    | succ k => exact Cut.char c (ih k)
  | @stray b rest ps hnone hrest ih =>
    cases k with
    | zero => exact .nil
    | succ k =>
      refine Cut.stray (fun c hpre => hnone c (hpre.trans ?_)) (ih k)
      have hsplit : (ps.take k).flatten ++ (ps.drop k).flatten = rest := by
        rw [← List.flatten_append, List.take_append_drop, hrest.flatten_eq]
      exact ⟨(ps.drop k).flatten, by simpa using hsplit⟩

/-- Reading the text that the first `k` steps passed over takes the same steps. -/
theorem pieces_flatten_take (s : List UInt8) (k : Nat) :
    pieces ((pieces s).take k).flatten = (pieces s).take k :=
  (((cut_pieces s).take k).eq_pieces).symm

/-- Reading what the first `k` steps left takes the steps that remain. -/
theorem pieces_flatten_drop (s : List UInt8) (k : Nat) :
    pieces ((pieces s).drop k).flatten = (pieces s).drop k :=
  (((cut_pieces s).drop k).eq_pieces).symm

/-- One reading step is UTF-8 decoding. Nothing is read only from nothing; a character is
    read exactly when the bytes begin with its encoding, that is when the bytes the step
    moves over are the well-formed UTF-8 of that one character; any other byte string
    reads as one stray byte. So the steps of reading a text cut it into characters and
    stray bytes, and their widths add up to its length. -/
theorem decode_is_utf8 (s : List UInt8) :
    (decode s = ⟨none, 0⟩ ↔ s = []) ∧
    (∀ (c : Char) (n : Nat), decode s = ⟨some c, n⟩ ↔
      n = c.utf8Size ∧ s.take n = String.utf8EncodeChar c) ∧
    (∀ (c : Char) (n : Nat), decode s = ⟨some c, n⟩ ↔
      n ≤ s.length ∧ String.fromUTF8? (s.take n).toByteArray = some (String.singleton c)) ∧
    (decode s = ⟨none, 1⟩ ↔ s ≠ [] ∧ ∀ c : Char, ¬ String.utf8EncodeChar c <+: s) ∧
    Cut s (pieces s) ∧ ((pieces s).map List.length).sum = s.length := by
  refine ⟨decode_eq_empty_iff, fun _ _ => decode_eq_some_iff, fun _ _ => decode_eq_some_iff_fromUTF8,
    decode_eq_stray_iff, cut_pieces s, ?_⟩
  rw [← List.length_flatten, (cut_pieces s).flatten_eq]

end Utf8

end IncrementalLR
