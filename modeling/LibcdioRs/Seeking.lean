import LibcdioRs.IsoEntry
import LibcdioRs.UdfEntry

/-!
# Where a seek goes

Both readers answer every seek with `Ok`. On a 64-bit target they go to the
position nearest to the one that was asked for; on a 32-bit target they also
drop high bits of the offset and of the result.
-/

namespace LibcdioRs

open Rust Cursor
set_option autoImplicit false

variable {E : Type}

/-- The contract of `io::Seek`: a target that is no position is an error and moves nothing, and
`Ok` names the target. -/
structure SeekContract (size p : Nat) (pos : SeekFrom) (res : Except IoError Nat) (p' : Nat) :
    Prop where
  rejects : ¬ (0 ≤ pos.target size p ∧ pos.target size p < 2 ^ 64) →
    (∃ e, res = .error e) ∧ p' = p
  exact : ∀ n, res = .ok n → n = pos.target size p ∧ p' = pos.target size p

section Wide
variable {T : Target} (hT : T.usizeWidth = .w64)
include hT

theorem seekPosition_nearest (size : UInt64) (p : Nat) (pos : SeekFrom) :
    seekPosition T size p pos = min (pos.target size.toNat p).toNat (2 ^ 64 - 1) := by
  have hbits := Target.usizeBits_w64 hT
  cases pos with
  | start offset =>
    have h := offset.toNat_lt
    simp only [seekPosition, SeekFrom.target, Target.asUsize, hbits, Int.toNat_natCast]
    omega
  | fromEnd offset =>
    simp only [seekPosition, SeekFrom.target, Target.asUsize, hbits, saturatingAddSigned]
    omega
  | current offset =>
    have hlo := offset.le_toInt
    have hhi := offset.toInt_lt
    have hcast : T.asIsize offset.toInt = offset.toInt := by
      simp only [Target.asIsize, hbits]
      exact Int.bmod_eq_of_le (by omega) (by omega)
    simp only [seekPosition, SeekFrom.target, hcast, hbits, saturatingAddSigned]

theorem seekContract_iff (size : UInt64) (p : Nat) (pos : SeekFrom) :
    SeekContract size.toNat p pos (.ok (seekPosition T size p pos)) (seekPosition T size p pos) ↔
      0 ≤ pos.target size.toNat p ∧ pos.target size.toNat p < 2 ^ 64 := by
  constructor
  · intro h
    by_contra hout
    obtain ⟨⟨e, he⟩, _⟩ := h.rejects hout
    cases he
  · intro hin
    have hpos : (seekPosition T size p pos : Int) = pos.target size.toNat p := by
      rw [seekPosition_nearest hT]
      omega
    constructor
    · intro hout
      exact absurd hin hout
    · intro n hn
      cases hn
      exact ⟨hpos, hpos⟩

/-- Both readers keep the contract of a seek exactly when its target is a position. -/
theorem seek_contract_iff (iso : IsoEntry) (udf : UdfEntry E) (p : Nat) (pos : SeekFrom) :
    (SeekContract iso.totalSize.toNat p pos (IsoEntryReader.seek T ⟨p, iso⟩ pos).1
        (IsoEntryReader.seek T ⟨p, iso⟩ pos).2.bytesRead ↔
      0 ≤ pos.target iso.totalSize.toNat p ∧ pos.target iso.totalSize.toNat p < 2 ^ 64) ∧
    (SeekContract udf.fileLength.toNat p pos (UdfEntryReader.seek T ⟨p, udf⟩ pos).1
        (UdfEntryReader.seek T ⟨p, udf⟩ pos).2.bytesRead ↔
      0 ≤ pos.target udf.fileLength.toNat p ∧ pos.target udf.fileLength.toNat p < 2 ^ 64) := by
  constructor
  · exact seekContract_iff hT iso.totalSize p pos
  · exact seekContract_iff hT udf.fileLength p pos

end Wide

section Concrete

theorem seek_back_keeps_contract :
    SeekContract 9 5 (.current (-5))
        (IsoEntryReader.seek ⟨.w64, .w64, true⟩ ⟨5, ⟨9, 0⟩⟩ (.current (-5))).1 0 ∧
      SeekContract 9 5 (.current (-5))
        (UdfEntryReader.seek ⟨.w64, .w64, true⟩ ⟨5, ⟨(), 9⟩⟩ (.current (-5))).1 0 := by
  have h := seek_contract_iff (T := ⟨.w64, .w64, true⟩) rfl ⟨9, 0⟩ (⟨(), 9⟩ : UdfEntry Unit) 5
    (.current (-5))
  exact ⟨h.1.mpr (by decide), h.2.mpr (by decide)⟩

/-- From position 5, six bytes back is no position, and the readers go to the start; one byte on
from the last position they stay where they are. All four calls answer `Ok`. -/
theorem seek_outside_is_ok :
    SeekFrom.target 9 5 (.current (-6)) = -1 ∧
    (IsoEntryReader.seek ⟨.w64, .w64, true⟩ ⟨5, ⟨9, 0⟩⟩ (.current (-6))).1 = .ok 0 ∧
    (UdfEntryReader.seek ⟨.w64, .w64, true⟩ ⟨5, ⟨(), 9⟩⟩ (.current (-6))).1 = .ok 0 ∧
    SeekFrom.target 9 (2 ^ 64 - 1) (.current 1) = 2 ^ 64 ∧
    (IsoEntryReader.seek ⟨.w64, .w64, true⟩ ⟨2 ^ 64 - 1, ⟨9, 0⟩⟩ (.current 1)).1 =
      .ok (2 ^ 64 - 1) ∧
    (UdfEntryReader.seek ⟨.w64, .w64, true⟩ ⟨2 ^ 64 - 1, ⟨(), 9⟩⟩ (.current 1)).1 =
      .ok (2 ^ 64 - 1) := by
  decide +kernel

end Concrete

/-- The seeks that a 32-bit target can carry out: the target is a position, and the offset of a
relative seek is an `isize`. -/
def FitsUsize (size p : Nat) : SeekFrom → Prop
  | .current offset =>
    -2 ^ 31 ≤ offset.toInt ∧ offset.toInt < 2 ^ 31 ∧ p + offset.toInt < 2 ^ 32
  | pos => pos.target size p < 2 ^ 32

section Narrow
variable {T : Target} (hT : T.usizeWidth = .w32)
include hT

theorem seekPosition_eq_target_iff {size : UInt64} {p : Nat} {pos : SeekFrom} (hp : p < 2 ^ 32)
    (h0 : 0 ≤ pos.target size.toNat p) :
    (seekPosition T size p pos : Int) = pos.target size.toNat p ↔ FitsUsize size.toNat p pos := by
  have hbits := Target.usizeBits_w32 hT
  cases pos with
  | start offset =>
    simp only [seekPosition, SeekFrom.target, Target.asUsize, hbits, FitsUsize]
    omega
  | fromEnd offset =>
    simp only [seekPosition, SeekFrom.target, Target.asUsize, hbits, saturatingAddSigned,
      FitsUsize] at h0 ⊢
    omega
  | current offset =>
    have hlo := offset.le_toInt
    have hhi := offset.toInt_lt
    simp only [seekPosition, SeekFrom.target, Target.asIsize, hbits, saturatingAddSigned,
      FitsUsize, Int.bmod] at h0 ⊢
    omega

end Narrow

end LibcdioRs
