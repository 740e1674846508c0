import LibcdioRs.Shared.Exec

/-!
# Integers that depend on the target

The width of `usize` and of the C type `off_t`, and whether the build checks
arithmetic for overflow. A `usize` is a natural number below its bound; only
the operations that can leave the bound are given here.
-/

namespace Rust

set_option autoImplicit false

inductive Width where
  | w32
  | w64
  deriving DecidableEq

def Width.bits : Width → Nat
  | .w32 => 32
  | .w64 => 64

/-- What the compiled code depends on. `overflowChecks` is on in cargo's dev profile. -/
structure Target where
  usizeWidth : Width
  offTWidth : Width
  overflowChecks : Bool
  deriving DecidableEq

namespace Target
variable (T : Target)

def usizeBits : Nat := T.usizeWidth.bits

/-- `n as usize` for an unsigned `n` -/
def asUsize (n : Nat) : Nat := n % 2 ^ T.usizeBits

/-- `d as isize` for a signed `d` -/
def asIsize (d : Int) : Int := d.bmod (2 ^ T.usizeBits)

def usize (n : Nat) : Exec Nat :=
  if n < 2 ^ T.usizeBits then .ret n
  else if T.overflowChecks then .panic .overflow
  else .ret (n % 2 ^ T.usizeBits)

/-- `a - b` on `usize` -/
def subUsize (a b : Nat) : Exec Nat :=
  if b ≤ a then .ret (a - b)
  else if T.overflowChecks then .panic .overflow
  else .ret (a + 2 ^ T.usizeBits - b)

/-- `a + b` on `i32` -/
def addI32 (a b : Int32) : Exec Int32 :=
  if (a + b).toInt = a.toInt + b.toInt then .ret (a + b)
  else if T.overflowChecks then .panic .overflow
  else .ret (a + b)

/-- `a + b` on `u16` -/
def addU16 (a b : UInt16) : Exec UInt16 :=
  if a.toNat + b.toNat < 2 ^ 16 then .ret (a + b)
  else if T.overflowChecks then .panic .overflow
  else .ret (a + b)

/-- `a << k` on `u8` -/
def shlU8 (a k : UInt8) : Exec UInt8 :=
  if k < 8 then .ret (a <<< k)
  else if T.overflowChecks then .panic .overflow
  else .ret (a <<< k)

/-- `off_t::try_from(n)` -/
def tryOffT (n : Nat) : Option Int :=
  if n < 2 ^ (T.offTWidth.bits - 1) then some n else none

variable {T} in
theorem usizeBits_w64 (h : T.usizeWidth = .w64) : T.usizeBits = 64 := by
  rw [usizeBits, h, Width.bits]

variable {T} in
theorem usizeBits_w32 (h : T.usizeWidth = .w32) : T.usizeBits = 32 := by
  rw [usizeBits, h, Width.bits]

variable {T} in
theorem asUsize_u64 (h : T.usizeWidth = .w64) (n : UInt64) : T.asUsize n.toNat = n.toNat := by
  rw [asUsize, usizeBits_w64 h]
  exact Nat.mod_eq_of_lt n.toNat_lt

theorem asUsize_le (n : Nat) : T.asUsize n ≤ n := Nat.mod_le n _

theorem bits_le_usizeBits : 32 ≤ T.usizeBits := by
  unfold usizeBits Width.bits
  cases T.usizeWidth <;> decide

theorem u32_lt_usize (n : UInt32) : n.toNat < 2 ^ T.usizeBits :=
  Nat.lt_of_lt_of_le n.toNat_lt (Nat.pow_le_pow_right (by decide) T.bits_le_usizeBits)

theorem asUsize_u32 (n : UInt32) : T.asUsize n.toNat = n.toNat :=
  Nat.mod_eq_of_lt (T.u32_lt_usize n)

theorem usize_eq {n : Nat} (h : n < 2 ^ T.usizeBits) : T.usize n = .ret n := if_pos h

theorem usize_panic {n : Nat} (hc : T.overflowChecks = true) (h : 2 ^ T.usizeBits ≤ n) :
    T.usize n = .panic .overflow := by
  rw [usize, if_neg (Nat.not_lt_of_le h), if_pos hc]

theorem usize_wrap (hc : T.overflowChecks = false) (n : Nat) :
    T.usize n = .ret (n % 2 ^ T.usizeBits) := by
  by_cases h : n < 2 ^ T.usizeBits
  · rw [T.usize_eq h, Nat.mod_eq_of_lt h]
  · rw [usize, if_neg h, hc]
    rfl

theorem subUsize_eq {a b : Nat} (h : b ≤ a) : T.subUsize a b = .ret (a - b) := if_pos h

theorem addU16_eq {a b : UInt16} (h : a.toNat + b.toNat < 2 ^ 16) : T.addU16 a b = .ret (a + b) :=
  if_pos h

theorem shlU8_eq (a : UInt8) {k : UInt8} (h : k < 8) : T.shlU8 a k = .ret (a <<< k) := if_pos h

theorem tryOffT_eq {n : Nat} (h : n < 2 ^ (T.offTWidth.bits - 1)) : T.tryOffT n = some (n : Int) :=
  if_pos h

theorem addI32_eq {a b : Int32} (h : T.overflowChecks = true → (a + b).toInt = a.toInt + b.toInt) :
    T.addI32 a b = .ret (a + b) := by
  unfold addI32
  split
  · rfl
  · rename_i hne
    rw [if_neg (fun hc => hne (h hc))]

theorem addI32_cases (a b : Int32) :
    T.addI32 a b = .ret (a + b) ∨ T.addI32 a b = .panic .overflow := by
  unfold addI32
  split
  · exact .inl rfl
  · split
    · exact .inr rfl
    · exact .inl rfl

theorem addI32_panic {a b : Int32} (hc : T.overflowChecks = true)
    (h : (a + b).toInt ≠ a.toInt + b.toInt) : T.addI32 a b = .panic .overflow := by
  rw [addI32, if_neg h, if_pos hc]

end Target

/-- `u8::try_from(n)` -/
def tryU8 (n : Int32) : Option UInt8 :=
  if 0 ≤ n.toInt ∧ n.toInt < 2 ^ 8 then some (.ofNat n.toInt.toNat) else none

/-- `u16::try_from(n)` -/
def tryU16 (n : Int32) : Option UInt16 :=
  if 0 ≤ n.toInt ∧ n.toInt < 2 ^ 16 then some (.ofNat n.toInt.toNat) else none

theorem tryU8_eq {n : Int32} (h0 : 0 ≤ n.toInt) (h1 : n.toInt < 2 ^ 8) :
    ∃ b : UInt8, tryU8 n = some b ∧ (b.toNat : Int) = n.toInt := by
  refine ⟨_, if_pos ⟨h0, h1⟩, ?_⟩
  rw [UInt8.toNat_ofNat']
  omega

theorem tryU16_eq {n : Int32} (h0 : 0 ≤ n.toInt) (h1 : n.toInt < 2 ^ 16) :
    ∃ b : UInt16, tryU16 n = some b ∧ (b.toNat : Int) = n.toInt := by
  refine ⟨_, if_pos ⟨h0, h1⟩, ?_⟩
  rw [UInt16.toNat_ofNat']
  omega

/-- `a.saturating_add_signed(d)` on an unsigned type of `bits` bits -/
def saturatingAddSigned (bits a : Nat) (d : Int) : Nat := min (a + d).toNat (2 ^ bits - 1)

theorem saturatingAddSigned_eq {bits a : Nat} {d : Int} (h0 : 0 ≤ a + d) (h1 : a + d < 2 ^ bits) :
    saturatingAddSigned bits a d = (a + d).toNat := by
  have h : (a + d).toNat < 2 ^ bits := by
    zify
    rwa [Int.toNat_of_nonneg h0]
  unfold saturatingAddSigned
  omega

end Rust
