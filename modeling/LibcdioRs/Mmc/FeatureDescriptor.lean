import LibcdioRs.Mmc.GetConfig

/-!
# Feature descriptors

A descriptor whose length byte is right, and what each decoder makes of it: a
function of its code, its flags and its data.
-/

namespace LibcdioRs

open Rust
set_option autoImplicit false

structure FeatureDescriptor where
  code : UInt16
  flags : UInt8
  data : Bytes
  length_le : data.length ≤ 255

namespace FeatureDescriptor

def bytes (d : FeatureDescriptor) : Bytes :=
  .ofNat (d.code.toNat / 256) :: .ofNat d.code.toNat :: d.flags :: .ofNat d.data.length :: d.data

/-- The data bytes that the decoder of a feature code reads without looking at the length. -/
def dataNeeded (code : UInt16) : Nat :=
  match code.toNat with
  | 0x0001 | 0x0103 | 0x0106 => 4
  | 0x0002 | 0x0003 | 0x001e => 1
  | _ => 0

def Decodable (d : FeatureDescriptor) : Prop := dataNeeded d.code ≤ d.data.length

instance (d : FeatureDescriptor) : Decidable d.Decodable := Nat.decLe _ _

variable (d : FeatureDescriptor)

theorem length_byte : (UInt8.ofNat d.data.length).toNat = d.data.length := by
  have h := d.length_le
  rw [UInt8.toNat_ofNat']
  omega

@[simp] theorem length_bytes : d.bytes.length = d.data.length + 4 := by
  simp [bytes]

@[simp] theorem readU16_bytes : readU16 d.bytes = .ret d.code := by
  simp only [bytes, readU16, be16_toBe16]

@[simp] theorem index_flags : index d.bytes 2 = .ret d.flags := rfl

@[simp] theorem index_length : index d.bytes 3 = .ret (.ofNat d.data.length) := rfl

@[simp] theorem index_data (i : Nat) : index d.bytes (i + 4) = index d.data i := by
  simp [index, bytes]

@[simp] theorem sliceFrom_data (i : Nat) : sliceFrom d.bytes (i + 4) = sliceFrom d.data i := by
  simp [sliceFrom, bytes]

theorem sliceFrom_header : sliceFrom d.bytes 4 = .ret d.data := by
  simp [sliceFrom, bytes]

theorem slice_header : slice d.bytes 4 (4 + d.data.length) = .ret d.data := by
  have hlen := d.length_bytes
  rw [slice_eq (by omega) (by omega)]
  simp [bytes]

end FeatureDescriptor

namespace FeatureDtor
open FeatureDescriptor

variable (d : FeatureDescriptor)

theorem profileList_bytes : profileList d.bytes = .ret (.profileList (profiles d.data)) := by
  simp only [profileList, d.sliceFrom_header, Exec.ret_bind, Exec.pure_eq]

theorem core_bytes : core d.bytes =
    readU32 d.data >>= fun interface =>
      .ret ((tryFrom MmcInterface interface.toNat).map .core) := by
  simp only [core, d.sliceFrom_header, Exec.ret_bind, Exec.pure_eq]

theorem morphing_bytes : morphing d.bytes =
    index d.data 0 >>= fun d4 => .ret (.morphing (bit d4 0) (bit d4 1)) := by
  have h := d.index_data 0
  simp only [Nat.zero_add] at h
  simp [morphing, h, masked_eq]

theorem medium_bytes : medium d.bytes =
    index d.data 0 >>= fun d4 => .ret ((tryFrom MmcLoadMech (d4 >>> 5).toNat).map
      (.removableMedium (bit d4 3) (bit d4 0) (!bit d4 2))) := by
  have h := d.index_data 0
  simp only [Nat.zero_add] at h
  simp only [medium, h]
  congr 1
  funext d4
  cases hm : tryFrom MmcLoadMech (d4 >>> 5).toNat <;> simp [masked_eq]

theorem cdRead_bytes : cdRead d.bytes =
    index d.data 0 >>= fun d4 =>
      .ret (.cdRead (bit d.flags 0) (bit d4 0) (bit d4 1) (bit d4 7)) := by
  have h := d.index_data 0
  simp only [Nat.zero_add] at h
  simp [cdRead, h, masked_eq]

theorem cdAudioExternalPlay_bytes : cdAudioExternalPlay d.bytes =
    index d.data 0 >>= fun d4 => sliceFrom d.data 2 >>= fun levels =>
      readU16 levels >>= fun volumeLevels =>
        .ret (.cdAudioExternalPlay (bit d.flags 0) (bit d4 2) (bit d4 1) (bit d4 0)
          volumeLevels) := by
  have h0 := d.index_data 0
  have h2 := d.sliceFrom_data 2
  simp only [Nat.zero_add, Nat.reduceAdd] at h0 h2
  simp [cdAudioExternalPlay, h0, h2, masked_eq]

theorem dvdCss_bytes : dvdCss d.bytes =
    index d.data 3 >>= fun version => .ret (.dvdCss (bit d.flags 0) version) := by
  have h := d.index_data 3
  simp only [Nat.reduceAdd] at h
  simp [dvdCss, h, masked_eq]

theorem driveSerialNum_bytes : driveSerialNum d.bytes =
    .ret (if bit d.flags 0 then (fromUtf8 d.data).map .driveSerialNumber else none) := by
  cases hf : bit d.flags 0 <;>
    simp [driveSerialNum, masked_eq, hf, d.length_byte, d.slice_header]

theorem parse_bytes : parse d.bytes =
    match d.code.toNat with
    | 0x0000 => some <$> profileList d.bytes
    | 0x0001 => core d.bytes
    | 0x0002 => some <$> morphing d.bytes
    | 0x0003 => medium d.bytes
    | 0x001e => some <$> cdRead d.bytes
    | 0x0103 => some <$> cdAudioExternalPlay d.bytes
    | 0x0106 => some <$> dvdCss d.bytes
    | 0x0108 => driveSerialNum d.bytes
    | _ => .ret none := by
  have hlen : ¬ d.bytes.length < 4 := by simp
  have hdata : ¬ d.bytes.length ≠ d.data.length + 4 := by simp
  simp only [parse, if_neg hlen, d.index_length, Exec.ret_bind, d.length_byte, if_neg hdata,
    d.readU16_bytes]
  rfl

theorem readU16_returnsIff (bs : Bytes) : (readU16 bs).ReturnsIff (2 ≤ bs.length) := by
  rcases bs with _ | ⟨b0, _ | ⟨b1, bs⟩⟩
  · exact Exec.returnsIff_panic _ (by simp)
  · exact Exec.returnsIff_panic _ (by simp)
  · exact Exec.returnsIff_ret _ (by simp)

theorem readU32_returnsIff (bs : Bytes) : (readU32 bs).ReturnsIff (4 ≤ bs.length) := by
  rcases bs with _ | ⟨b0, _ | ⟨b1, _ | ⟨b2, _ | ⟨b3, bs⟩⟩⟩⟩
  · exact Exec.returnsIff_panic _ (by simp)
  · exact Exec.returnsIff_panic _ (by simp)
  · exact Exec.returnsIff_panic _ (by simp)
  · exact Exec.returnsIff_panic _ (by simp)
  · exact Exec.returnsIff_ret _ (by simp)

theorem cdAudioExternalPlay_returnsIff :
    (cdAudioExternalPlay d.bytes).ReturnsIff (4 ≤ d.data.length) := by
  rw [cdAudioExternalPlay_bytes]
  have hall : (0 < d.data.length ∧ 2 ≤ d.data.length ∧ 4 ≤ d.data.length) ↔
      4 ≤ d.data.length := by omega
  refine Exec.ReturnsIff.congr ?_ hall
  refine (index_returnsIff d.data 0).bind fun d4 _ => ?_
  refine (sliceFrom_returnsIff d.data 2).bind fun levels hlevels => ?_
  refine Exec.ReturnsIff.bind_ret ((readU16_returnsIff levels).congr ?_) _
  by_cases h : 2 ≤ d.data.length
  · rw [sliceFrom_eq h, Exec.ret.injEq] at hlevels
    rw [← hlevels, List.length_drop]
    omega
  · rw [sliceFrom, if_neg h] at hlevels
    cases hlevels

/-- The decoder returns exactly when the descriptor has the data that it reads. -/
theorem parse_returnsIff : (parse d.bytes).ReturnsIff d.Decodable := by
  have hindex := index_returnsIff d.data
  rw [parse_bytes, Decodable]
  split <;> rename_i hcode
  · simp only [dataNeeded, hcode, profileList_bytes, Exec.map_eq, Exec.ret_bind]
    exact Exec.returnsIff_ret _ (Nat.zero_le _)
  · simp only [dataNeeded, hcode, core_bytes]
    exact (readU32_returnsIff d.data).bind_ret _
  · simp only [dataNeeded, hcode, morphing_bytes]
    exact ((hindex 0).bind_ret _).bind_ret _
  · simp only [dataNeeded, hcode, medium_bytes]
    exact (hindex 0).bind_ret _
  · simp only [dataNeeded, hcode, cdRead_bytes]
    exact ((hindex 0).bind_ret _).bind_ret _
  · simp only [dataNeeded, hcode]
    exact (cdAudioExternalPlay_returnsIff d).bind_ret _
  · simp only [dataNeeded, hcode, dvdCss_bytes]
    exact ((hindex 3).bind_ret _).bind_ret _
  · simp only [dataNeeded, hcode, driveSerialNum_bytes]
    exact Exec.returnsIff_ret _ (Nat.zero_le _)
  · have hnone : dataNeeded d.code = 0 := by
      unfold dataNeeded
      split <;> first | rfl | contradiction
    rw [hnone]
    exact Exec.returnsIff_ret _ (Nat.zero_le _)

end FeatureDtor

end LibcdioRs
