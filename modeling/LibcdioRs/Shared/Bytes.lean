import Mathlib.Data.Nat.Bitwise
import LibcdioRs.Shared.Exec

/-!
# Byte buffers

Slices with Rust's range checks, big-endian numbers, single bits, and the text
that a run of bytes spells. A slice or an array is the list of its elements.
-/

namespace Rust

set_option autoImplicit false

abbrev Bytes := List UInt8

section Slices
variable {α : Type}

/-- `&xs[a..b]` -/
def slice (xs : List α) (a b : Nat) : Exec (List α) :=
  if a ≤ b ∧ b ≤ xs.length then .ret ((xs.drop a).take (b - a)) else .panic .slice

/-- `&xs[a..]` -/
def sliceFrom (xs : List α) (a : Nat) : Exec (List α) :=
  if a ≤ xs.length then .ret (xs.drop a) else .panic .slice

/-- `xs[i]` -/
def index (xs : List α) (i : Nat) : Exec α :=
  match xs[i]? with
  | some x => .ret x
  | none => .panic .index

/-- `xs[a..b].copy_from_slice(src)`; the value is `xs` afterwards. -/
def copyFromSlice (xs : List α) (a b : Nat) (src : List α) : Exec (List α) :=
  if a ≤ b ∧ b ≤ xs.length then
    if src.length = b - a then .ret (xs.take a ++ src ++ xs.drop b) else .panic .copyLength
  else .panic .slice

/-- `xs` with `src` stored at its start; what does not fit is dropped. -/
def overwrite (xs src : List α) : List α := src.take xs.length ++ xs.drop src.length

/-- `xs` after `xs.drain(0..n)` -/
def drain (xs : List α) (n : Nat) : Exec (List α) :=
  if n ≤ xs.length then .ret (xs.drop n) else .panic .slice

/-- `xs` after `xs.resize(n, x)` -/
def resize (xs : List α) (n : Nat) (x : α) : List α :=
  xs.take n ++ List.replicate (n - xs.length) x

theorem slice_eq {xs : List α} {a b : Nat} (hab : a ≤ b) (hb : b ≤ xs.length) :
    slice xs a b = .ret ((xs.drop a).take (b - a)) := if_pos ⟨hab, hb⟩

theorem slice_panic {xs : List α} {a b : Nat} (h : b < a ∨ xs.length < b) :
    slice xs a b = .panic .slice := if_neg (by omega)

theorem slice_append {pre mid post : List α} {a b : Nat} (ha : a = pre.length)
    (hb : b = pre.length + mid.length) : slice (pre ++ mid ++ post) a b = .ret mid := by
  subst ha hb
  rw [slice_eq (by omega) (by simp)]
  simp

theorem index_eq {xs : List α} {i : Nat} (h : i < xs.length) : index xs i = .ret xs[i] := by
  simp [index, h]

theorem index_panic {xs : List α} {i : Nat} (h : xs.length ≤ i) :
    index xs i = .panic .index := by
  simp [index, List.getElem?_eq_none h]

theorem index_returnsIff (xs : List α) (i : Nat) : (index xs i).ReturnsIff (i < xs.length) := by
  by_cases h : i < xs.length
  · rw [index_eq h]
    exact Exec.returnsIff_ret _ h
  · rw [index_panic (Nat.le_of_not_lt h)]
    exact Exec.returnsIff_panic _ h

theorem sliceFrom_eq {xs : List α} {a : Nat} (h : a ≤ xs.length) :
    sliceFrom xs a = .ret (xs.drop a) := if_pos h

theorem sliceFrom_returnsIff (xs : List α) (a : Nat) :
    (sliceFrom xs a).ReturnsIff (a ≤ xs.length) := by
  by_cases h : a ≤ xs.length
  · rw [sliceFrom_eq h]
    exact Exec.returnsIff_ret _ h
  · rw [sliceFrom, if_neg h]
    exact Exec.returnsIff_panic _ h

@[simp] theorem index_cons_zero (x : α) (xs : List α) : index (x :: xs) 0 = .ret x := rfl

@[simp] theorem index_cons_succ (x : α) (xs : List α) (i : Nat) :
    index (x :: xs) (i + 1) = index xs i := by simp [index]

theorem index_append_right (pre xs : List α) (i : Nat) :
    index (pre ++ xs) (pre.length + i) = index xs i := by
  simp [index, List.getElem?_append_right]

theorem copyFromSlice_eq {xs src : List α} {a b : Nat} (hab : a ≤ b) (hb : b ≤ xs.length)
    (hs : src.length = b - a) :
    copyFromSlice xs a b src = .ret (xs.take a ++ src ++ xs.drop b) := by
  rw [copyFromSlice, if_pos ⟨hab, hb⟩, if_pos hs]

@[simp] theorem length_overwrite (xs src : List α) :
    (overwrite xs src).length = xs.length := by
  simp [overwrite]
  omega

@[simp] theorem length_resize (xs : List α) (n : Nat) (x : α) : (resize xs n x).length = n := by
  simp only [resize, List.length_append, List.length_take, List.length_replicate]
  omega

theorem drain_eq {xs : List α} {n : Nat} (h : n ≤ xs.length) : drain xs n = .ret (xs.drop n) :=
  if_pos h

theorem overwrite_of_le {xs src : List α} (h : src.length ≤ xs.length) :
    overwrite xs src = src ++ xs.drop src.length := by
  rw [overwrite, List.take_of_length_le h]

theorem toList_eq_ofFn [Inhabited α] {n : Nat} (xs : Vector α n) :
    xs.toList = List.ofFn fun i : Fin n => xs[i.val]! := by
  apply List.ext_getElem
  · simp
  · intro i h h'
    simp

theorem take_drop_eq_ofFn [Inhabited α] {xs : List α} {k n : Nat} (h : k + n ≤ xs.length) :
    (xs.drop k).take n = List.ofFn fun i : Fin n => xs[k + i.val]! := by
  apply List.ext_getElem
  · simp only [List.length_take, List.length_drop, List.length_ofFn]
    omega
  · intro i hi _
    simp only [List.length_take, List.length_drop] at hi
    rw [List.getElem_take, List.getElem_drop, List.getElem_ofFn, getElem!_pos xs (k + i) (by omega)]

/-- The first `n` bytes of `R`, with zeros after its end. -/
def padded (R : Bytes) (n : Nat) : Bytes := R.take n ++ List.replicate (n - R.length) 0

@[simp] theorem length_padded (R : Bytes) (n : Nat) : (padded R n).length = n := by
  simp only [padded, List.length_append, List.length_take, List.length_replicate]
  omega

theorem padded_of_le {R : Bytes} {n : Nat} (h : R.length ≤ n) :
    padded R n = R ++ List.replicate (n - R.length) 0 := by
  rw [padded, List.take_of_length_le h]

theorem take_padded {R : Bytes} {n : Nat} (h : R.length ≤ n) : (padded R n).take R.length = R := by
  rw [padded_of_le h, List.take_left]

theorem overwrite_zeros (R : Bytes) (n : Nat) :
    overwrite (List.replicate n 0) (R.take n) = padded R n := by
  have hle : (R.take n).length ≤ (List.replicate n (0 : UInt8)).length := by
    rw [List.length_take, List.length_replicate]
    exact Nat.min_le_left _ _
  rw [overwrite_of_le hle, List.drop_replicate, List.length_take, padded]
  congr 2
  omega

theorem overwrite_resize_padded (R : Bytes) {n k : Nat} (h : n ≤ k) :
    overwrite (resize (padded R n) k 0) (R.take k) = padded R k := by
  have hsize : resize (padded R n) k 0 =
      R.take n ++ List.replicate (n - R.length + (k - n)) 0 := by
    rw [resize, List.take_of_length_le (by rw [length_padded]; exact h), length_padded, padded,
      List.append_assoc, List.replicate_append_replicate]
  have hle : (R.take k).length ≤ (resize (padded R n) k 0).length := by
    rw [hsize]
    simp only [List.length_append, List.length_take, List.length_replicate]
    omega
  rw [overwrite_of_le hle, hsize, padded, List.drop_append, List.drop_replicate,
    List.drop_eq_nil_of_le (by simp only [List.length_take]; omega), List.nil_append]
  congr 2
  simp only [List.length_take]
  omega

end Slices

section BigEndian

/-- `u16::from_be_bytes` -/
def be16 (b0 b1 : UInt8) : UInt16 := .ofNat (b0.toNat * 256 + b1.toNat)

/-- `u32::from_be_bytes` -/
def be32 (b0 b1 b2 b3 : UInt8) : UInt32 :=
  .ofNat (((b0.toNat * 256 + b1.toNat) * 256 + b2.toNat) * 256 + b3.toNat)

/-- `u16::to_be_bytes` -/
def toBe16 (n : UInt16) : Bytes := [.ofNat (n.toNat / 256), .ofNat n.toNat]

/-- `u32::to_be_bytes` -/
def toBe32 (n : UInt32) : Bytes :=
  [.ofNat (n.toNat / 256 ^ 3), .ofNat (n.toNat / 256 ^ 2), .ofNat (n.toNat / 256), .ofNat n.toNat]

theorem be16_toNat (b0 b1 : UInt8) : (be16 b0 b1).toNat = b0.toNat * 256 + b1.toNat := by
  have h0 := b0.toNat_lt
  have h1 := b1.toNat_lt
  simp only [be16, UInt16.toNat_ofNat']
  omega

theorem be32_toNat (b0 b1 b2 b3 : UInt8) :
    (be32 b0 b1 b2 b3).toNat =
      ((b0.toNat * 256 + b1.toNat) * 256 + b2.toNat) * 256 + b3.toNat := by
  have h0 := b0.toNat_lt
  have h1 := b1.toNat_lt
  have h2 := b2.toNat_lt
  have h3 := b3.toNat_lt
  simp only [be32, UInt32.toNat_ofNat']
  omega

@[simp] theorem be16_toBe16 (n : UInt16) : be16 (.ofNat (n.toNat / 256)) (.ofNat n.toNat) = n := by
  have h := n.toNat_lt
  apply UInt16.toNat.inj
  simp only [be16_toNat, UInt8.toNat_ofNat']
  omega

theorem toBe16_be16 (b0 b1 : UInt8) :
    UInt8.ofNat ((be16 b0 b1).toNat / 256) = b0 ∧ UInt8.ofNat (be16 b0 b1).toNat = b1 := by
  have h0 := b0.toNat_lt
  have h1 := b1.toNat_lt
  constructor <;> apply UInt8.toNat.inj <;> rw [UInt8.toNat_ofNat', be16_toNat] <;> omega

@[simp] theorem be32_toBe32 (n : UInt32) :
    be32 (.ofNat (n.toNat / 256 ^ 3)) (.ofNat (n.toNat / 256 ^ 2)) (.ofNat (n.toNat / 256))
      (.ofNat n.toNat) = n := by
  have h := n.toNat_lt
  apply UInt32.toNat.inj
  simp only [be32_toNat, UInt8.toNat_ofNat']
  omega

end BigEndian

section Bits

/-- Bit `k` of a byte, 0 being the lowest. -/
def bit (b : UInt8) (k : Nat) : Bool := b.toNat.testBit k

/-- `b | 1 << k` -/
def setBit (b k : UInt8) : UInt8 := b ||| 1 <<< k

/-- `b & 1 << k != 0` -/
def masked (b k : UInt8) : Bool := b &&& 1 <<< k != 0

theorem masked_eq (b : UInt8) {k : UInt8} (hk : k < 8) : masked b k = bit b k.toNat := by
  have hk' : k.toNat < 8 := hk
  have hpow : 2 ^ k.toNat < 2 ^ 8 := Nat.pow_lt_pow_right (by decide) hk'
  have hone : ((1 : UInt8) <<< k).toNat = 2 ^ k.toNat := by
    rw [UInt8.toNat_shiftLeft, Nat.mod_eq_of_lt hk', Nat.shiftLeft_eq]
    simpa using Nat.mod_eq_of_lt hpow
  rw [masked, Bool.eq_iff_iff, bne_iff_ne, ne_eq, ← UInt8.toNat_inj, UInt8.toNat_and, hone,
    Nat.and_two_pow, bit]
  cases b.toNat.testBit k.toNat <;> simp

end Bits

section Text

/-- `String::from_utf8`; the strings of both languages are the valid UTF-8 byte strings. -/
def fromUtf8 (bs : Bytes) : Option String := String.fromUTF8? bs.toByteArray

def toUtf8 (s : String) : Bytes := s.toByteArray.data.toList

def Ascii (bs : Bytes) : Prop := ∀ b ∈ bs, b.toNat < 128

instance (bs : Bytes) : Decidable (Ascii bs) :=
  decidable_of_iff (bs.all fun b => decide (b.toNat < 128)) (by simp [Ascii])

def asciiText (bs : Bytes) : String := .ofList (bs.map fun b => Char.ofNat b.toNat)

theorem fromUtf8_eq_some {bs : Bytes} {s : String} (h : s.toByteArray = bs.toByteArray) :
    fromUtf8 bs = some s := by
  have hv : bs.toByteArray.IsValidUTF8 := h ▸ s.isValidUTF8
  rw [fromUtf8, String.fromUTF8?, dif_pos hv, Option.some_inj]
  exact String.toByteArray_inj.mp h.symm

@[simp] theorem fromUtf8_toUtf8 (s : String) : fromUtf8 (toUtf8 s) = some s := by
  apply fromUtf8_eq_some
  apply ByteArray.ext
  simp [toUtf8]

theorem utf8EncodeChar_ascii {b : UInt8} (hb : b.toNat < 128) :
    String.utf8EncodeChar (Char.ofNat b.toNat) = [b] := by
  have hv : b.toNat.isValidChar := Or.inl (by omega)
  have hval : (Char.ofNat b.toNat).val.toNat = b.toNat := by
    rw [Char.ofNat, dif_pos hv]
    rfl
  have hle : b.toNat ≤ 127 := by omega
  simp [String.utf8EncodeChar, hval, hle]

theorem fromUtf8_ascii {bs : Bytes} (h : Ascii bs) : fromUtf8 bs = some (asciiText bs) := by
  have hflat : (bs.map fun b => Char.ofNat b.toNat).flatMap String.utf8EncodeChar = bs := by
    induction bs with
    | nil => rfl
    | cons b bs ih =>
      have hb := utf8EncodeChar_ascii (h b List.mem_cons_self)
      have hbs := ih fun c hc => h c (List.mem_cons_of_mem b hc)
      simp only [List.map_cons, List.flatMap_cons, hb, hbs, List.singleton_append]
  apply fromUtf8_eq_some
  rw [asciiText, String.toByteArray_ofList, List.utf8Encode, hflat]

theorem fromUtf8_eq_none {b : UInt8} {bs : Bytes} (hb : ¬ b.IsUTF8FirstByte) :
    fromUtf8 (b :: bs) = none := by
  have hv : ¬ (b :: bs).toByteArray.IsValidUTF8 := by
    intro h
    have h0 := h.isUTF8FirstByte_getElem_zero (by simp)
    rw [List.getElem_toByteArray] at h0
    exact hb h0
  rw [fromUtf8, String.fromUTF8?, dif_neg hv]

end Text

end Rust
