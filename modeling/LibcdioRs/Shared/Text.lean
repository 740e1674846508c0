import LibcdioRs.Shared.Bytes

/-!
# Text of foreign strings

`String::from_utf8_lossy`, which puts U+FFFD in place of what is not UTF-8, and
`str::trim`. Neither changes a string that is valid and has no white space at its
ends.
-/

namespace Rust

set_option autoImplicit false

def replacement : Char := .ofNat 0xFFFD

abbrev IsContinuation (b : UInt8) : Prop := 0x80 ≤ b.toNat ∧ b.toNat < 0xC0

/-- The number of bytes of the characters that start with `b`, or 0 if none does. -/
def utf8Width (b : UInt8) : Nat :=
  if 0xC2 ≤ b.toNat ∧ b.toNat < 0xE0 then 2
  else if 0xE0 ≤ b.toNat ∧ b.toNat < 0xF0 then 3
  else if 0xF0 ≤ b.toNat ∧ b.toNat < 0xF5 then 4
  else 0

/-- The second byte of a character; the narrower ranges rule out overlong forms, surrogates and
what is above U+10FFFF. -/
abbrev IsSecond (b0 b1 : UInt8) : Prop :=
  (if b0.toNat = 0xE0 then 0xA0 else if b0.toNat = 0xF0 then 0x90 else 0x80) ≤ b1.toNat ∧
    b1.toNat < (if b0.toNat = 0xED then 0xA0 else if b0.toNat = 0xF4 then 0x90 else 0xC0)

/-- `String::from_utf8_lossy`: every maximal prefix of a character that does not go on becomes
one U+FFFD. -/
def lossyChars : Bytes → List Char
  | [] => []
  | b0 :: rest =>
    if b0.toNat < 0x80 then .ofNat b0.toNat :: lossyChars rest
    else match rest with
      | [] => [replacement]
      | b1 :: rest1 =>
        if utf8Width b0 = 0 ∨ ¬ IsSecond b0 b1 then replacement :: lossyChars (b1 :: rest1)
        else if utf8Width b0 = 2 then
          .ofNat (b0.toNat % 32 * 64 + b1.toNat % 64) :: lossyChars rest1
        else match rest1 with
          | [] => [replacement]
          | b2 :: rest2 =>
            if ¬ IsContinuation b2 then replacement :: lossyChars (b2 :: rest2)
            else if utf8Width b0 = 3 then
              .ofNat (b0.toNat % 16 * 4096 + b1.toNat % 64 * 64 + b2.toNat % 64) ::
                lossyChars rest2
            else match rest2 with
              | [] => [replacement]
              | b3 :: rest3 =>
                if ¬ IsContinuation b3 then replacement :: lossyChars (b3 :: rest3)
                else
                  .ofNat (b0.toNat % 8 * 262144 + b1.toNat % 64 * 4096 + b2.toNat % 64 * 64 +
                    b3.toNat % 64) :: lossyChars rest3

def fromUtf8Lossy (bs : Bytes) : String := .ofList (lossyChars bs)

/-- `char::is_whitespace`, the Unicode property `White_Space`. -/
def isWhitespace (c : Char) : Bool :=
  let n := c.toNat
  (0x9 ≤ n && n ≤ 0xD) || n == 0x20 || n == 0x85 || n == 0xA0 || n == 0x1680 ||
    (0x2000 ≤ n && n ≤ 0x200A) || n == 0x2028 || n == 0x2029 || n == 0x202F || n == 0x205F ||
    n == 0x3000

def trimEndChars (cs : List Char) : List Char := (cs.reverse.dropWhile isWhitespace).reverse

def trimEnd (s : String) : String := .ofList (trimEndChars s.toList)

def trim (s : String) : String := .ofList (trimEndChars (s.toList.dropWhile isWhitespace))

theorem lossyChars_ascii {b : UInt8} (hb : b.toNat < 128) (rest : Bytes) :
    lossyChars (b :: rest) = Char.ofNat b.toNat :: lossyChars rest := by
  rw [lossyChars.eq_def]
  simp only [if_pos hb]

theorem lossyChars_two {b0 b1 : UInt8} (hlo : 0xC2 ≤ b0.toNat) (hhi : b0.toNat < 0xE0)
    (h1 : IsContinuation b1) (rest : Bytes) : lossyChars (b0 :: b1 :: rest) =
      .ofNat (b0.toNat % 32 * 64 + b1.toNat % 64) :: lossyChars rest := by
  have hlead : ¬ b0.toNat < 0x80 := by omega
  have hwidth : utf8Width b0 = 2 := if_pos ⟨hlo, hhi⟩
  have hsecond : IsSecond b0 b1 := by
    rw [IsSecond, if_neg (by omega), if_neg (by omega), if_neg (by omega), if_neg (by omega)]
    exact h1
  have hgood : ¬ (utf8Width b0 = 0 ∨ ¬ IsSecond b0 b1) := by
    rw [hwidth]
    exact not_or.mpr ⟨by decide, not_not.mpr hsecond⟩
  rw [lossyChars.eq_def]
  simp only [if_neg hlead, if_neg hgood, if_pos hwidth]

theorem lossyChars_three {b0 b1 b2 : UInt8} (hlo : 0xE0 ≤ b0.toNat) (hhi : b0.toNat < 0xF0)
    (h1 : IsSecond b0 b1) (h2 : IsContinuation b2) (rest : Bytes) :
    lossyChars (b0 :: b1 :: b2 :: rest) =
      .ofNat (b0.toNat % 16 * 4096 + b1.toNat % 64 * 64 + b2.toNat % 64) :: lossyChars rest := by
  have hlead : ¬ b0.toNat < 0x80 := by omega
  have hwidth : utf8Width b0 = 3 := by
    rw [utf8Width, if_neg (by omega), if_pos ⟨hlo, hhi⟩]
  have hgood : ¬ (utf8Width b0 = 0 ∨ ¬ IsSecond b0 b1) := by
    rw [hwidth]
    exact not_or.mpr ⟨by decide, not_not.mpr h1⟩
  have htwo : ¬ utf8Width b0 = 2 := by rw [hwidth]; decide
  rw [lossyChars.eq_def]
  simp only [if_neg hlead, if_neg hgood, if_neg htwo, if_pos hwidth, if_neg (not_not.mpr h2)]

theorem lossyChars_four {b0 b1 b2 b3 : UInt8} (hlo : 0xF0 ≤ b0.toNat) (hhi : b0.toNat < 0xF5)
    (h1 : IsSecond b0 b1) (h2 : IsContinuation b2) (h3 : IsContinuation b3) (rest : Bytes) :
    lossyChars (b0 :: b1 :: b2 :: b3 :: rest) =
      .ofNat (b0.toNat % 8 * 262144 + b1.toNat % 64 * 4096 + b2.toNat % 64 * 64 +
        b3.toNat % 64) :: lossyChars rest := by
  have hlead : ¬ b0.toNat < 0x80 := by omega
  have hwidth : utf8Width b0 = 4 := by
    rw [utf8Width, if_neg (by omega), if_neg (by omega), if_pos ⟨hlo, hhi⟩]
  have hgood : ¬ (utf8Width b0 = 0 ∨ ¬ IsSecond b0 b1) := by
    rw [hwidth]
    exact not_or.mpr ⟨by decide, not_not.mpr h1⟩
  have htwo : ¬ utf8Width b0 = 2 := by rw [hwidth]; decide
  have hthree : ¬ utf8Width b0 = 3 := by rw [hwidth]; decide
  rw [lossyChars.eq_def]
  simp only [if_neg hlead, if_neg hgood, if_neg htwo, if_neg hthree, if_neg (not_not.mpr h2),
    if_neg (not_not.mpr h3)]

theorem toNat_ofNat_of_lt {n : Nat} (h : n < 256) : (UInt8.ofNat n).toNat = n :=
  Nat.mod_eq_of_lt h

/-- Decoding undoes the encoding of each character, whatever follows. -/
theorem lossyChars_encode (c : Char) (rest : Bytes) :
    lossyChars (String.utf8EncodeChar c ++ rest) = c :: lossyChars rest := by
  have hvalid := c.valid
  have hc : ∀ n, n = c.val.toNat → Char.ofNat n = c := by
    rintro n rfl
    exact Char.ofNat_toNat c
  rw [String.utf8EncodeChar]
  generalize hv : c.val.toNat = v at hc
  have hrange : v < 0xD800 ∨ 0xDFFF < v ∧ v < 0x110000 := hv ▸ hvalid
  by_cases h1 : v ≤ 0x7F
  · rw [if_pos h1, List.singleton_append, lossyChars_ascii, hc]
    · exact toNat_ofNat_of_lt (by omega)
    · rw [toNat_ofNat_of_lt] <;> omega
  rw [if_neg h1]
  have e0 : (UInt8.ofNat (v % 64 + 128)).toNat = v % 64 + 128 := toNat_ofNat_of_lt (by omega)
  by_cases h2 : v ≤ 0x7FF
  · have e1 : (UInt8.ofNat (v / 64 % 32 + 192)).toNat = v / 64 % 32 + 192 :=
      toNat_ofNat_of_lt (by omega)
    rw [if_pos h2]
    change lossyChars (_ :: _ :: rest) = _
    rw [lossyChars_two (by omega) (by omega) ⟨by omega, by omega⟩, hc]
    omega
  rw [if_neg h2]
  have e1 : (UInt8.ofNat (v / 64 % 64 + 128)).toNat = v / 64 % 64 + 128 :=
    toNat_ofNat_of_lt (by omega)
  by_cases h3 : v ≤ 0xFFFF
  · have e2 : (UInt8.ofNat (v / 4096 % 16 + 224)).toNat = v / 4096 % 16 + 224 :=
      toNat_ofNat_of_lt (by omega)
    rw [if_pos h3]
    change lossyChars (_ :: _ :: _ :: rest) = _
    rw [lossyChars_three (by omega) (by omega) ?_ ⟨by omega, by omega⟩, hc]
    · omega
    · rw [IsSecond, e1, e2]
      constructor <;> split_ifs <;> omega
  rw [if_neg h3]
  have e2 : (UInt8.ofNat (v / 4096 % 64 + 128)).toNat = v / 4096 % 64 + 128 :=
    toNat_ofNat_of_lt (by omega)
  have e3 : (UInt8.ofNat (v / 262144 % 8 + 240)).toNat = v / 262144 % 8 + 240 :=
    toNat_ofNat_of_lt (by omega)
  change lossyChars (_ :: _ :: _ :: _ :: rest) = _
  rw [lossyChars_four (by omega) (by omega) ?_ ⟨by omega, by omega⟩ ⟨by omega, by omega⟩, hc]
  · omega
  · rw [IsSecond, e2, e3]
    constructor <;> split_ifs <;> omega

theorem toUtf8_eq_flatMap (s : String) : toUtf8 s = s.toList.flatMap String.utf8EncodeChar := by
  conv_lhs => rw [← String.ofList_toList (s := s)]
  rw [toUtf8, String.toByteArray_ofList, List.utf8Encode]
  simp

/-- What is valid UTF-8 is decoded exactly, whatever follows. -/
theorem lossyChars_toUtf8_append (s : String) (rest : Bytes) :
    lossyChars (toUtf8 s ++ rest) = s.toList ++ lossyChars rest := by
  have hchars : ∀ cs : List Char,
      lossyChars (cs.flatMap String.utf8EncodeChar ++ rest) = cs ++ lossyChars rest := by
    intro cs
    induction cs with
    | nil => rfl
    | cons c cs ih =>
      rw [List.flatMap_cons, List.append_assoc, lossyChars_encode, ih, List.cons_append]
  rw [toUtf8_eq_flatMap, hchars]

theorem lossyChars_spaces (n : Nat) :
    lossyChars (List.replicate n 0x20) = List.replicate n ' ' := by
  induction n with
  | zero => rfl
  | succ n ih =>
    rw [List.replicate_succ, lossyChars_ascii (by decide), ih]
    rfl

section Trim
variable {cs : List Char}

/-- Neither end is white space. -/
def Trimmed (cs : List Char) : Prop :=
  (∀ c ∈ cs.head?, isWhitespace c = false) ∧ ∀ c ∈ cs.getLast?, isWhitespace c = false

instance (cs : List Char) : Decidable (Trimmed cs) :=
  @instDecidableAnd _ _ (Option.decidableForallMem _) (Option.decidableForallMem _)

theorem dropWhile_replicate_append {p : Char → Bool} {c : Char} (hc : p c = true) (n : Nat)
    (cs : List Char) : (List.replicate n c ++ cs).dropWhile p = cs.dropWhile p := by
  induction n with
  | zero => rfl
  | succ n ih => rw [List.replicate_succ, List.cons_append, List.dropWhile_cons_of_pos hc, ih]

theorem dropWhile_of_head {p : Char → Bool} (h : ∀ c ∈ cs.head?, p c = false) :
    cs.dropWhile p = cs := by
  cases cs with
  | nil => rfl
  | cons c cs =>
    have hc := h c rfl
    exact List.dropWhile_cons_of_neg (by rw [hc]; decide)

/-- White space at the end goes, nothing else does. -/
theorem trimEndChars_padded (h : ∀ c ∈ cs.getLast?, isWhitespace c = false) {w : Char}
    (hw : isWhitespace w = true) (n : Nat) : trimEndChars (cs ++ List.replicate n w) = cs := by
  have hhead : ∀ c ∈ cs.reverse.head?, isWhitespace c = false := by
    rw [List.head?_reverse]
    exact h
  rw [trimEndChars, List.reverse_append, List.reverse_replicate, dropWhile_replicate_append hw,
    dropWhile_of_head hhead, List.reverse_reverse]

theorem trim_padded {s : String} (h : Trimmed s.toList) {w : Char} (hw : isWhitespace w = true)
    (n : Nat) : trim (.ofList (s.toList ++ List.replicate n w)) = s := by
  have hmid :
      trimEndChars ((s.toList ++ List.replicate n w).dropWhile isWhitespace) = s.toList := by
    cases hs : s.toList with
    | nil =>
      have hempty := dropWhile_replicate_append hw n []
      rw [List.append_nil] at hempty
      rw [List.nil_append, hempty]
      rfl
    | cons c cs =>
      rw [hs] at h
      have hhead : ∀ d ∈ (c :: cs ++ List.replicate n w).head?, isWhitespace d = false := h.1
      rw [dropWhile_of_head hhead]
      exact trimEndChars_padded h.2 hw n
  rw [trim, String.toList_ofList, hmid, String.ofList_toList]

end Trim

end Rust
