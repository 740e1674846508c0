import LibcdioRs.Mmc.CommandBlocks
import LibcdioRs.Mmc.Inquiry

/-!
# All commands

The requests of `Request` and those of the other four commands, as a drive reads
them from a command block. The allocation length of an adaptive read is no part of
the request.
-/

namespace LibcdioRs

open Rust
set_option autoImplicit false

inductive Command where
  | request (r : Request)
  | inquiry (kind : InquiryKind)
  | preventAllowMediumRemoval (prevent : PreventOption)
  | readDiscInformation (kind : DiscInfoKind)
  | testUnitReady
  deriving DecidableEq

namespace Command

section Drive

/-! The drive's reading of each field. -/

def inquiryKind (cdb : Cdb) : InquiryKind :=
  if bit cdb[1]! 0 then .vitalProductData cdb[2]! else .standard

def preventOption (b : UInt8) : PreventOption :=
  match (b &&& 0b11).toNat with
  | 0 => .clear
  | 1 => .set
  | 2 => .clearPersistent
  | _ => .setPersistent

def discInfoKind (b : UInt8) : Option DiscInfoKind :=
  match (b &&& 0b111).toNat with
  | 0 => some .standard
  | 1 => some .trackResources
  | 2 => some .powResources
  | _ => none

def ofCdb (cdb : Cdb) : Option Command :=
  match cdb[0]!.toNat with
  | 0x00 => some testUnitReady
  | 0x12 => some (inquiry (inquiryKind cdb))
  | 0x1E => some (preventAllowMediumRemoval (preventOption cdb[4]!))
  | 0x51 => (discInfoKind cdb[1]!).map readDiscInformation
  | _ => (Request.ofCdb cdb).map request

theorem ofCdb_vitalProductData (pageCode : UInt8) :
    ofCdb #v[0x12, 1, pageCode, 0, 255, 0, 0, 0, 0, 0, 0, 0] =
      some (inquiry (.vitalProductData pageCode)) := by
  have hbit : bit 1 0 = true := by decide
  exact congrArg (some ∘ inquiry) (if_pos hbit)

theorem ofCdb_inquiry (kind : InquiryKind) : ofCdb kind.cdb = some (inquiry kind) := by
  cases kind with
  | standard => rfl
  | vitalProductData pageCode => exact ofCdb_vitalProductData pageCode

theorem ofCdb_prevent (prevent : PreventOption) :
    ofCdb prevent.cdb = some (preventAllowMediumRemoval prevent) := by
  cases prevent <;> rfl

theorem ofCdb_testUnitReady : ofCdb TestUnitReady.cdb = some testUnitReady := rfl

/-- The block of a request is not one of the other commands. -/
theorem ofCdb_request {cdb : Cdb} {r : Request} (h : Request.ofCdb cdb = some r) :
    ofCdb cdb = some (request r) := by
  unfold ofCdb
  split
  · next hcode => simp only [Request.ofCdb, hcode, reduceCtorEq] at h
  · next hcode => simp only [Request.ofCdb, hcode, reduceCtorEq] at h
  · next hcode => simp only [Request.ofCdb, hcode, reduceCtorEq] at h
  · next hcode => simp only [Request.ofCdb, hcode, reduceCtorEq] at h
  · rw [h]
    rfl

theorem setAllocationLength_set (cdb : Cdb) (len len' : Nat) :
    (cdb.setAllocationLength len).setAllocationLength len' = cdb.setAllocationLength len' := by
  apply Vector.ext
  intro i hi
  by_cases h7 : i = 7
  · subst h7
    simp [Cdb.setAllocationLength]
  · by_cases h8 : i = 8
    · subst h8
      simp [Cdb.setAllocationLength]
    · simp [Cdb.setAllocationLength, Ne.symm h7, Ne.symm h8]

/-! Whatever length it asks for, an adaptive read is the same command. -/

theorem ofCdb_discBlock (b hi lo : UInt8) :
    ofCdb #v[0x51, b, 0, 0, 0, 0, 0, hi, lo, 0, 0, 0] =
      (discInfoKind b).map readDiscInformation := rfl

theorem ofCdb_readDiscInformation (kind : DiscInfoKind) (len : Nat) :
    ofCdb (kind.cdb.setAllocationLength len) = some (readDiscInformation kind) := by
  cases kind with
  | standard => exact ofCdb_discBlock 0 _ _
  | trackResources => exact ofCdb_discBlock 1 _ _
  | powResources => exact ofCdb_discBlock 2 _ _

theorem ofCdb_tocBlock (flags code num hi lo : UInt8) :
    Request.ofCdb #v[0x43, flags, code, 0, 0, 0, num, hi, lo, 0, 0, 0] =
      (Request.tocFormat flags code num).map .readToc := rfl

theorem ofCdb_readToc (format : ReadToc.ResponseFormat) (len : Nat) :
    ofCdb (format.cdb.setAllocationLength len) = some (request (.readToc format)) := by
  apply ofCdb_request
  cases format with
  | toc addressFormat num =>
    cases addressFormat with
    | lba => exact ofCdb_tocBlock 0 0 num _ _
    | time => exact ofCdb_tocBlock (setBit 0 1) 0 num _ _
  | sessionInfo addressFormat =>
    cases addressFormat with
    | lba => exact ofCdb_tocBlock 0 1 0 _ _
    | time => exact ofCdb_tocBlock (setBit 0 1) 1 0 _ _
  | fullToc num => exact ofCdb_tocBlock 0 2 num _ _
  | pma => exact ofCdb_tocBlock 0 3 0 _ _
  | atip => exact ofCdb_tocBlock 0 4 0 _ _
  | cdtext => exact ofCdb_tocBlock 0 5 0 _ _

end Drive

end Command

end LibcdioRs
