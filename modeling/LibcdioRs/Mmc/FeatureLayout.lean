import LibcdioRs.Mmc.FeatureDescriptor

/-!
# The layout of feature descriptors

How a feature is laid out in a descriptor: which bits carry it and which are
free. `parse` inverts the layout of every feature but CD Read, where it reads
the two support bits the wrong way round.
-/

namespace LibcdioRs

open Rust
set_option autoImplicit false

/-- The data of a profile list: the profile's number, a byte whose lowest bit says that it is
active, and a free byte. -/
inductive ProfileBytes : List MmcProfile → Bytes → Prop where
  | nil : ProfileBytes [] []
  | cons {p : MmcProfile} {ps : List MmcProfile} {bs : Bytes} {flags : UInt8} (free : UInt8) :
    bit flags 0 = p.active → ProfileBytes ps bs →
      ProfileBytes (p :: ps) (toBe16 p.kind.code ++ flags :: free :: bs)

/-- `d` is the feature in the layout of MMC-6; what is not mentioned is free. -/
def LaysOut (d : FeatureDescriptor) : MmcFeature → Prop
  | .profileList profiles => d.code = 0x0000 ∧ ProfileBytes profiles d.data
  | .core interface => d.code = 0x0001 ∧ ∃ rest, d.data = toBe32 interface.code ++ rest
  | .morphing asyncEvents opChgEvents =>
    d.code = 0x0002 ∧ ∃ b rest, d.data = b :: rest ∧ bit b 0 = asyncEvents ∧ bit b 1 = opChgEvents
  | .removableMedium eject lock preventJumper loadMech =>
    d.code = 0x0003 ∧ ∃ b rest, d.data = b :: rest ∧ b >>> 5 = loadMech.code ∧ bit b 3 = eject ∧
      bit b 2 = !preventJumper ∧ bit b 0 = lock
  | .cdRead active c2Error cdText dap =>
    d.code = 0x001e ∧ bit d.flags 0 = active ∧
      ∃ b rest, d.data = b :: rest ∧ bit b 7 = dap ∧ bit b 1 = c2Error ∧ bit b 0 = cdText
  | .cdAudioExternalPlay active scan sepChannelMute sepVolume volumeLevels =>
    d.code = 0x0103 ∧ bit d.flags 0 = active ∧
      ∃ b free rest, d.data = b :: free :: (toBe16 volumeLevels ++ rest) ∧ bit b 2 = scan ∧
        bit b 1 = sepChannelMute ∧ bit b 0 = sepVolume
  | .dvdCss active version =>
    d.code = 0x0106 ∧ bit d.flags 0 = active ∧
      ∃ free0 free1 free2 rest, d.data = free0 :: free1 :: free2 :: version :: rest
  | .driveSerialNumber sno => d.code = 0x0108 ∧ bit d.flags 0 = true ∧ d.data = toUtf8 sno

/-- What `cd_read` makes of a feature: the C2 and the CD-Text bit change places. -/
def MmcFeature.swapped : MmcFeature → MmcFeature
  | .cdRead active c2Error cdText dap => .cdRead active cdText c2Error dap
  | feature => feature

def MmcFeature.SameReadBits : MmcFeature → Prop
  | .cdRead _ c2Error cdText _ => c2Error = cdText
  | _ => True

theorem MmcFeature.swapped_eq_iff (v : MmcFeature) : v.swapped = v ↔ v.SameReadBits := by
  cases v with
  | cdRead active c2Error cdText dap =>
    simp only [swapped, SameReadBits, cdRead.injEq, true_and, and_true]
    exact ⟨fun h => h.2, fun h => ⟨h.symm, h⟩⟩
  | _ => simp [swapped, SameReadBits]

namespace FeatureDtor

theorem profiles_of_profileBytes {ps : List MmcProfile} {bs : Bytes} (h : ProfileBytes ps bs) :
    profiles bs = ps := by
  induction h with
  | nil => rfl
  | @cons p ps bs flags free hactive _ ih =>
    have hkind : tryFrom ProfileKind p.kind.code.toNat = some p.kind := tryFrom_code p.kind
    simp only [toBe16, List.cons_append, List.nil_append, profiles, be16_toBe16, hkind, ih,
      masked_eq flags (by decide : (0 : UInt8) < 8)]
    have hbit : bit flags (UInt8.toNat 0) = p.active := hactive
    rw [hbit]

theorem parse_of_laysOut {d : FeatureDescriptor} {v : MmcFeature} (h : LaysOut d v) :
    parse d.bytes = .ret (some v.swapped) := by
  cases v with
  | profileList ps =>
    obtain ⟨hcode, hdata⟩ := h
    rw [parse_bytes, hcode]
    change some <$> profileList d.bytes = _
    rw [profileList_bytes, profiles_of_profileBytes hdata]
    rfl
  | core interface =>
    obtain ⟨hcode, rest, hdata⟩ := h
    have hread : readU32 d.data = .ret interface.code := by
      rw [hdata]
      exact congrArg Exec.ret (be32_toBe32 interface.code)
    have htry : tryFrom MmcInterface interface.code.toNat = some interface := tryFrom_code interface
    rw [parse_bytes, hcode]
    change core d.bytes = _
    rw [core_bytes, hread, Exec.ret_bind, htry]
    rfl
  | morphing asyncEvents opChgEvents =>
    obtain ⟨hcode, b, rest, hdata, rfl, rfl⟩ := h
    rw [parse_bytes, hcode]
    change some <$> morphing d.bytes = _
    rw [morphing_bytes, hdata]
    rfl
  | removableMedium eject lock preventJumper loadMech =>
    obtain ⟨hcode, b, rest, hdata, hmech, rfl, hjumper, rfl⟩ := h
    have htry : tryFrom MmcLoadMech loadMech.code.toNat = some loadMech := tryFrom_code loadMech
    rw [parse_bytes, hcode]
    change medium d.bytes = _
    rw [medium_bytes, hdata, index_cons_zero, Exec.ret_bind, hmech, htry, hjumper]
    simp [MmcFeature.swapped]
  | cdRead active c2Error cdText dap =>
    obtain ⟨hcode, rfl, b, rest, hdata, rfl, rfl, rfl⟩ := h
    rw [parse_bytes, hcode]
    change some <$> cdRead d.bytes = _
    rw [cdRead_bytes, hdata]
    rfl
  | cdAudioExternalPlay active scan sepChannelMute sepVolume volumeLevels =>
    obtain ⟨hcode, rfl, b, free, rest, hdata, rfl, rfl, rfl⟩ := h
    have hlevels : readU16 (toBe16 volumeLevels ++ rest) = .ret volumeLevels :=
      congrArg Exec.ret (be16_toBe16 volumeLevels)
    have hslice : sliceFrom (b :: free :: (toBe16 volumeLevels ++ rest)) 2 =
        .ret (toBe16 volumeLevels ++ rest) := sliceFrom_eq (by simp)
    rw [parse_bytes, hcode]
    change some <$> cdAudioExternalPlay d.bytes = _
    rw [cdAudioExternalPlay_bytes, hdata, index_cons_zero, Exec.ret_bind, hslice, Exec.ret_bind,
      hlevels]
    rfl
  | dvdCss active version =>
    obtain ⟨hcode, rfl, free0, free1, free2, rest, hdata⟩ := h
    rw [parse_bytes, hcode]
    change some <$> dvdCss d.bytes = _
    rw [dvdCss_bytes, hdata]
    rfl
  | driveSerialNumber sno =>
    obtain ⟨hcode, hcurrent, hdata⟩ := h
    rw [parse_bytes, hcode]
    change driveSerialNum d.bytes = _
    rw [driveSerialNum_bytes, hcurrent, hdata, fromUtf8_toUtf8]
    rfl

/-- `parse` gives back the feature that a descriptor lays out exactly when it is not CD Read
with different support bits. -/
theorem parse_laysOut_iff (d : FeatureDescriptor) (v : MmcFeature) (h : LaysOut d v) :
    parse d.bytes = .ret (some v) ↔ v.SameReadBits := by
  rw [parse_of_laysOut h, Exec.ret.injEq, Option.some_inj, v.swapped_eq_iff]

section Concrete

def c2Descriptor : FeatureDescriptor := ⟨0x001e, 0x01, [0x02, 0, 0, 0], by decide⟩

def c2Feature : MmcFeature := .cdRead true true false false

theorem c2Descriptor_laysOut : LaysOut c2Descriptor c2Feature :=
  ⟨rfl, rfl, 0x02, [0, 0, 0], rfl, rfl, rfl, rfl⟩

theorem parse_c2Descriptor : LaysOut c2Descriptor c2Feature ∧
    parse c2Descriptor.bytes = .ret (some (.cdRead true false true false)) ∧
    parse c2Descriptor.bytes ≠ .ret (some c2Feature) := by
  refine ⟨c2Descriptor_laysOut, by decide, by decide⟩

def profileDescriptor : FeatureDescriptor :=
  ⟨0x0000, 0x03, [0x00, 0x08, 0x01, 0x00, 0x00, 0x2B, 0xFE, 0x77], by decide⟩

theorem parse_profileDescriptor :
    parse profileDescriptor.bytes =
      .ret (some (.profileList [⟨true, .cdRom⟩, ⟨false, .dvdPlusRDl⟩])) ↔
    (MmcFeature.profileList [⟨true, .cdRom⟩, ⟨false, .dvdPlusRDl⟩]).SameReadBits :=
  parse_laysOut_iff profileDescriptor _
    ⟨rfl, .cons 0x00 rfl (.cons 0x77 rfl .nil)⟩

end Concrete

end FeatureDtor

end LibcdioRs
