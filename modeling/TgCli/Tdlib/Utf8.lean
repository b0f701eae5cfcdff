/-
  TgCli.Tdlib.Utf8 — UTF-8 TEXTS AND THE NAMES OF FILES

  What `common::valid_utf8` accepts, and the three rules for the name of an
  attachment: `valid_basename` of request_fingerprint.cpp and of file_spool.cpp scan
  the bytes for control characters, `valid_safe_basename` of account_audit.cpp decodes.

  Main results:
    * `validUtf8_iff` — the accepted texts are the encodings of lists of characters;
    * `basename_rules_agree` — the three rules accept the same names.
-/
import TgCli.Tdlib.Types

namespace TgCli.Tdlib

open List String

/-! ## §1. Encodings. -/

/-- The bytes of a number, by the table of RFC 3629. -/
inductive Encoded (v : Nat) : Bytes → Prop where
  | one {b : UInt8} : v = b.toNat → v < 0x80 → Encoded v [b]
  | two {b b1 : UInt8} : v = b.toNat % 32 * 64 + b1.toNat % 64 → 0xC2 ≤ b.toNat → b.toNat ≤ 0xDF →
    b1.toNat / 64 = 2 → Encoded v [b, b1]
  | three {b b1 b2 : UInt8} : v = b.toNat % 16 * 4096 + b1.toNat % 64 * 64 + b2.toNat % 64 →
    0xE0 ≤ b.toNat → b.toNat ≤ 0xEF → b1.toNat / 64 = 2 → b2.toNat / 64 = 2 → 0x800 ≤ v →
    Encoded v [b, b1, b2]
  | four {b b1 b2 b3 : UInt8} :
    v = b.toNat % 8 * 262144 + b1.toNat % 64 * 4096 + b2.toNat % 64 * 64 + b3.toNat % 64 →
    0xF0 ≤ b.toNat → b.toNat ≤ 0xF4 → b1.toNat / 64 = 2 → b2.toNat / 64 = 2 → b3.toNat / 64 = 2 →
    0x10000 ≤ v → Encoded v [b, b1, b2, b3]

variable {v : Nat} {xs value : Bytes}

theorem encoded_char (c : Char) : Encoded c.val.toNat (utf8EncodeChar c) := by
  have hc : c.val.toNat < 0xD800 ∨ (0xDFFF < c.val.toNat ∧ c.val.toNat < 0x110000) := c.valid
  unfold utf8EncodeChar
  generalize c.val.toNat = v at hc
  dsimp only
  split
  · constructor <;> simp -failIfUnchanged only [UInt8.toNat_ofNat'] <;> omega
  split
  · constructor <;> simp -failIfUnchanged only [UInt8.toNat_ofNat'] <;> omega
  split <;> constructor <;> simp -failIfUnchanged only [UInt8.toNat_ofNat'] <;> omega

/-- A number has one encoding. -/
theorem Encoded.eq_char (h : Encoded v xs) (hv : v.isValidChar) :
    xs = utf8EncodeChar (Char.ofNatAux v hv) := by
  have hc : Encoded v (utf8EncodeChar (Char.ofNatAux v hv)) := encoded_char (Char.ofNatAux v hv)
  generalize utf8EncodeChar (Char.ofNatAux v hv) = ys at hc ⊢
  cases h <;> cases hc <;> first | omega | (simp [← UInt8.toNat_inj]; omega)

set_option maxRecDepth 2048 in
theorem continuationByte_iff (b : UInt8) : continuationByte b ↔ b.toNat / 64 = 2 := by
  have h : ∀ n < 256, continuationByte (UInt8.ofNat n) ↔ n / 64 = 2 := by decide
  simpa using h b.toNat b.toNat_lt

/-- An encoding is read as a whole. -/
theorem Encoded.validUtf8 (h : Encoded v xs) (hv : v.isValidChar) (rest : Bytes) :
    validUtf8 (xs ++ rest) = validUtf8 rest := by
  replace hv : v < 0xD800 ∨ (0xDFFF < v ∧ v < 0x110000) := hv
  rw [Tdlib.validUtf8.eq_def]
  cases h <;> grind [UInt8.le_iff_toNat_le, continuationByte_iff]

/-- What the reader accepts is made of encodings, by induction over the reader. -/
theorem exists_chars (h : validUtf8 value) :
    ∃ chars : List Char, value = chars.flatMap utf8EncodeChar := by
  have hcons {v xs rest} (hrest : ∃ chars : List Char, rest = chars.flatMap utf8EncodeChar)
      (h : Encoded v xs) (hv : v.isValidChar) :
        ∃ chars : List Char, xs ++ rest = chars.flatMap utf8EncodeChar := by
    obtain ⟨chars, rfl⟩ := hrest
    exact ⟨Char.ofNatAux v hv :: chars, by rw [flatMap_cons, ← h.eq_char hv]⟩
  fun_induction validUtf8 value with
  | case1 => exact ⟨[], rfl⟩
  | case2 b rest hb ih =>
    have hb : b.toNat < 128 := Nat.lt_succ_of_le hb
    exact hcons (ih h) (.one rfl hb) (.inl (by omega))
  | case3 b _ hb b1 rest ih =>
    simp only [continuationByte_iff, Bool.and_eq_true] at h
    exact hcons (ih h.2) (.two rfl hb.1 hb.2 h.1) (.inl (by omega))
  | case5 b _ _ hb b1 b2 rest v ih =>
    simp only [continuationByte_iff, Bool.and_eq_true] at h
    obtain ⟨⟨⟨h1, h2⟩, hscalar⟩, h⟩ := h
    have hscalar : 0x800 ≤ v ∧ (v < 0xD800 ∨ 0xDFFF < v) := by simpa using hscalar
    have hlt : v < 0x110000 := by simp only [v]; omega
    exact hcons (ih h) (.three rfl hb.1 hb.2 h1 h2 hscalar.1) (hscalar.2.imp_right fun h => ⟨h, hlt⟩)
  | case7 b _ _ _ hb b1 b2 b3 rest v ih =>
    simp only [continuationByte_iff, Bool.and_eq_true] at h
    obtain ⟨⟨⟨⟨h1, h2⟩, h3⟩, hscalar⟩, h⟩ := h
    have hscalar : 0x10000 ≤ v ∧ v ≤ 0x10FFFF := by simpa using hscalar
    exact hcons (ih h) (.four rfl hb.1 hb.2 h1 h2 h3 hscalar.1) (.inr ⟨by omega, by omega⟩)
  | _ => cases h

/-- **The accepted texts are the encodings of lists of characters.** -/
theorem validUtf8_iff (value : Bytes) :
    validUtf8 value ↔ ∃ chars : List Char, value = chars.flatMap utf8EncodeChar := by
  refine ⟨exists_chars, ?_⟩
  rintro ⟨chars, rfl⟩
  induction chars with
  | nil => rfl
  | cons c chars ih => exact ((encoded_char c).validUtf8 c.valid _).trans ih

/-! ## §2. The names of files. -/

/-- `has_forbidden_basename_control`, and the loop of the fingerprint's rule. -/
def hasForbiddenBasenameControl : Bytes → Bool
  | [] => false
  | byte :: rest =>
    byte ≤ 0x1f || byte == 0x7f
      || (byte == 0xc2 && rest.head?.any fun c => 0x80 ≤ c && c ≤ 0x9f)
      || hasForbiddenBasenameControl rest

/-- `valid_basename` of the fingerprint. -/
def fingerprintValidBasename (value : Bytes) : Bool :=
  if value.isEmpty || 255 < value.length || value == ascii "." || value == ascii ".."
      || value.contains 47 || !validUtf8 value then false
  else !hasForbiddenBasenameControl value

/-- `valid_basename` of the spool. -/
def spoolValidBasename (value : Bytes) : Bool :=
  !value.isEmpty && value.length ≤ 255 && value != ascii "." && value != ascii ".."
    && !value.contains 47 && !value.contains 0 && validUtf8 value
    && !hasForbiddenBasenameControl value

/-- The scalar and the width a lead byte starts; its top bits are 110, 1110 or 11110. -/
def leadScalar (lead : UInt8) : Nat × Nat :=
  if lead.toNat / 32 = 6 then (lead.toNat % 32, 2)
  else if lead.toNat / 16 = 14 then (lead.toNat % 16, 3)
  else if lead.toNat / 8 = 30 then (lead.toNat % 8, 4)
  else (lead.toNat, 1)

def controlScalar (scalar : Nat) : Bool := scalar ≤ 0x1f || (0x7f ≤ scalar && scalar ≤ 0x9f)

/-- The loop of `valid_safe_basename`. -/
def safeScalars : Bytes → Bool
  | [] => true
  | lead :: rest =>
    let (scalar, width) := leadScalar lead
    let scalar := (rest.take (width - 1)).foldl (fun s byte => s * 64 + byte.toNat % 64) scalar
    if controlScalar scalar then false else safeScalars (rest.drop (width - 1))
termination_by name => name.length

/-- `valid_safe_basename`, on the bytes of a JSON string. -/
def validSafeBasename (name : Bytes) : Bool :=
  if !(name.length ≤ 255 && validUtf8 name) then false
  else if name.isEmpty || name == ascii "." || name == ascii ".." || name.contains 47 then false
  else safeScalars name

/-- The decoder takes an encoding as a whole. -/
theorem Encoded.safeScalars (h : Encoded v xs) (rest : Bytes) :
    safeScalars (xs ++ rest) = (!controlScalar v && safeScalars rest) := by
  rw [Tdlib.safeScalars.eq_def]
  cases h with
  | @one b hv =>
    have hlead : leadScalar b = (b.toNat, 1) := by grind [leadScalar]
    simp [hlead, hv]
  | @two b b1 hv =>
    have hlead : leadScalar b = (b.toNat % 32, 2) := by grind [leadScalar]
    simp [hlead, hv]
  | @three b b1 b2 hv =>
    have hlead : leadScalar b = (b.toNat % 16, 3) := by grind [leadScalar]
    simp [hlead, hv, Nat.add_mul, Nat.mul_assoc]
  | @four b b1 b2 b3 hv =>
    have hlead : leadScalar b = (b.toNat % 8, 4) := by grind [leadScalar]
    simp [hlead, hv, Nat.add_mul, Nat.mul_assoc]

theorem hasForbidden_cons (b : UInt8) (rest : Bytes) : hasForbiddenBasenameControl (b :: rest) ↔
    b.toNat ≤ 31 ∨ b.toNat = 127
      ∨ (b.toNat = 194 ∧ ∃ c ∈ rest.head?, 128 ≤ c.toNat ∧ c.toNat ≤ 159)
      ∨ hasForbiddenBasenameControl rest := by
  have h (k : UInt8) : b = k ↔ b.toNat = k.toNat := UInt8.toNat_inj.symm
  simp [hasForbiddenBasenameControl, UInt8.le_iff_toNat_le, h, or_assoc, Option.any_eq_true]

/-- The scan finds nothing inside an encoding but a control character. -/
theorem Encoded.hasForbidden (h : Encoded v xs) (rest : Bytes) :
    hasForbiddenBasenameControl (xs ++ rest)
      = (controlScalar v || hasForbiddenBasenameControl rest) := by
  have hskip {b : UInt8} {rest : Bytes} (hb : 128 ≤ b.toNat) (hne : b.toNat ≠ 194) :
      hasForbiddenBasenameControl (b :: rest) = hasForbiddenBasenameControl rest := by
    grind [hasForbidden_cons]
  cases h with
  | one | two => grind [hasForbidden_cons, controlScalar]
  | three | four =>
    simp (disch := omega) only [cons_append, nil_append, hskip]
    grind [controlScalar]

/-- Over a valid text the scan of the bytes and the decoder find the same. -/
theorem safeScalars_of_valid (h : validUtf8 value) :
    safeScalars value = !hasForbiddenBasenameControl value := by
  obtain ⟨chars, rfl⟩ := exists_chars h
  clear h
  induction chars with
  | nil => simp [Tdlib.safeScalars, hasForbiddenBasenameControl]
  | cons c chars ih =>
    have hc := encoded_char c
    rw [flatMap_cons, hc.safeScalars, hc.hasForbidden, ih, Bool.not_or]

theorem zero_not_mem (h : hasForbiddenBasenameControl value = false) : 0 ∉ value := by
  induction value with
  | nil => exact not_mem_nil
  | cons b rest ih =>
    simp only [hasForbiddenBasenameControl, Bool.or_eq_false_iff] at h
    rintro (_ | ⟨_, hmem⟩)
    · exact absurd h.1.1.1 (by decide)
    · exact ih h.2 hmem

/-- **The three rules accept the same names.** -/
theorem basename_rules_agree (value : Bytes) :
    fingerprintValidBasename value = spoolValidBasename value
      ∧ validSafeBasename value = spoolValidBasename value := by
  unfold fingerprintValidBasename validSafeBasename spoolValidBasename
  cases hutf : validUtf8 value with
  | false => simp
  | true =>
    rw [safeScalars_of_valid hutf]
    cases h : hasForbiddenBasenameControl value with
    | true => simp
    | false => grind [zero_not_mem h]

end TgCli.Tdlib
