import LibcdioRs.Mmc
import LibcdioRs.Shared.Discriminant

/-!
# GET CONFIGURATION

`Mmc::features` and the decoders of the feature descriptors. The lengths in a
response are used as the device reports them; where they disagree, the slices
and indices below panic as the code does.
-/

namespace LibcdioRs

open Rust
set_option autoImplicit false

inductive ProfileKind where
  | nonRemovable
  | removable
  | moErasable
  | opticalWriteOnce
  | asMo
  | cdRom
  | cdR
  | cdRw
  | dvdRom
  | dvdRSeqRec
  | dvdRam
  | dvdRwRo
  | dvdRwSeqRec
  | dvdRDlSeqRec
  | dvdRDlJmpRec
  | dvdRwDl
  | dvdDownDiscRec
  | dvdPlusRw
  | dvdPlusR
  | ddcdRom
  | ddcdR
  | ddcdRw
  | dvdPlusRwDl
  | dvdPlusRDl
  | bdRom
  | bdRSeqRec
  | bdRRandRec
  | bdRw
  | hdDvdRom
  | hdDvdR
  | hdDvdRam
  | hdDvdRw
  | hdDvdRDl
  | hdDvdRwDl
  | nonConform
  deriving DecidableEq

def ProfileKind.code : ProfileKind → UInt16
  | nonRemovable => 0x0001
  | removable => 0x0002
  | moErasable => 0x0003
  | opticalWriteOnce => 0x0004
  | asMo => 0x0005
  | cdRom => 0x0008
  | cdR => 0x0009
  | cdRw => 0x000A
  | dvdRom => 0x0010
  | dvdRSeqRec => 0x0011
  | dvdRam => 0x0012
  | dvdRwRo => 0x0013
  | dvdRwSeqRec => 0x0014
  | dvdRDlSeqRec => 0x0015
  | dvdRDlJmpRec => 0x0016
  | dvdRwDl => 0x0017
  | dvdDownDiscRec => 0x0018
  | dvdPlusRw => 0x001A
  | dvdPlusR => 0x001B
  | ddcdRom => 0x0020
  | ddcdR => 0x0021
  | ddcdRw => 0x0022
  | dvdPlusRwDl => 0x002A
  | dvdPlusRDl => 0x002B
  | bdRom => 0x0040
  | bdRSeqRec => 0x0041
  | bdRRandRec => 0x0042
  | bdRw => 0x0043
  | hdDvdRom => 0x0050
  | hdDvdR => 0x0051
  | hdDvdRam => 0x0052
  | hdDvdRw => 0x0053
  | hdDvdRDl => 0x0058
  | hdDvdRwDl => 0x0059
  | nonConform => 0xFFFF

instance : Discriminants ProfileKind where
  name := "ProfileKind"
  code e := e.code.toNat
  variants := [.nonRemovable, .removable, .moErasable, .opticalWriteOnce, .asMo, .cdRom, .cdR,
    .cdRw, .dvdRom, .dvdRSeqRec, .dvdRam, .dvdRwRo, .dvdRwSeqRec, .dvdRDlSeqRec, .dvdRDlJmpRec,
    .dvdRwDl, .dvdDownDiscRec, .dvdPlusRw, .dvdPlusR, .ddcdRom, .ddcdR, .ddcdRw, .dvdPlusRwDl,
    .dvdPlusRDl, .bdRom, .bdRSeqRec, .bdRRandRec, .bdRw, .hdDvdRom, .hdDvdR, .hdDvdRam, .hdDvdRw,
    .hdDvdRDl, .hdDvdRwDl, .nonConform]
  complete e := by cases e <;> decide
  distinct := by decide

inductive MmcInterface where
  | unspecified
  | scsi
  | atapi
  | ieee1394
  | ieee1394A
  | fibreChannel
  | ieee1394B
  | serialAtapi
  | usb
  | vendorUnique
  deriving DecidableEq

def MmcInterface.code : MmcInterface → UInt32
  | unspecified => 0x0
  | scsi => 0x1
  | atapi => 0x2
  | ieee1394 => 0x3
  | ieee1394A => 0x4
  | fibreChannel => 0x5
  | ieee1394B => 0x6
  | serialAtapi => 0x7
  | usb => 0x8
  | vendorUnique => 0xffff

instance : Discriminants MmcInterface where
  name := "MmcInterface"
  code e := e.code.toNat
  variants := [.unspecified, .scsi, .atapi, .ieee1394, .ieee1394A, .fibreChannel, .ieee1394B,
    .serialAtapi, .usb, .vendorUnique]
  complete e := by cases e <;> decide
  distinct := by decide

inductive MmcLoadMech where
  | caddySlot
  | tray
  | popUp
  | embeddedChangerIndividualDiscs
  | embeddedChangerMagazine
  deriving DecidableEq

def MmcLoadMech.code : MmcLoadMech → UInt8
  | caddySlot => 0b000
  | tray => 0b001
  | popUp => 0b010
  | embeddedChangerIndividualDiscs => 0b100
  | embeddedChangerMagazine => 0b101

instance : Discriminants MmcLoadMech where
  name := "MmcLoadMech"
  code e := e.code.toNat
  variants := [.caddySlot, .tray, .popUp, .embeddedChangerIndividualDiscs,
    .embeddedChangerMagazine]
  complete e := by cases e <;> decide
  distinct := by decide

structure MmcProfile where
  active : Bool
  kind : ProfileKind
  deriving DecidableEq

/-- The variants that `parse` builds; no code builds the others. -/
inductive MmcFeature where
  | profileList (profiles : List MmcProfile)
  | core (interface : MmcInterface)
  | morphing (asyncEvents opChgEvents : Bool)
  | removableMedium (eject lock preventJumper : Bool) (loadMech : MmcLoadMech)
  | cdRead (active c2Error cdText dap : Bool)
  | cdAudioExternalPlay (active scan sepChannelMute sepVolume : Bool) (volumeLevels : UInt16)
  | dvdCss (active : Bool) (version : UInt8)
  | driveSerialNumber (sno : String)
  deriving DecidableEq

inductive MmcOperationError where
  | mk
  deriving DecidableEq

/-- `val.first_chunk().expect(..)` as a big-endian number -/
def readU16 : Bytes → Exec UInt16
  | b0 :: b1 :: _ => .ret (be16 b0 b1)
  | _ => .panic (.expect "mmc data buffer should be sufficiently large")

def readU32 : Bytes → Exec UInt32
  | b0 :: b1 :: b2 :: b3 :: _ => .ret (be32 b0 b1 b2 b3)
  | _ => .panic (.expect "mmc data buffer should be sufficiently large")

namespace FeatureDtor

/-- `data.as_chunks::<4>().0` with the profile of each chunk, where it has one. -/
def profiles : Bytes → List MmcProfile
  | b0 :: b1 :: b2 :: _ :: rest =>
    match tryFrom ProfileKind (be16 b0 b1).toNat with
    | some kind => ⟨masked b2 0, kind⟩ :: profiles rest
    | none => profiles rest
  | _ => []

def profileList (dtor : Bytes) : Exec MmcFeature := do
  let data ← sliceFrom dtor 4
  return .profileList (profiles data)

def core (dtor : Bytes) : Exec (Option MmcFeature) := do
  let interface ← readU32 (← sliceFrom dtor 4)
  return (tryFrom MmcInterface interface.toNat).map .core

def morphing (dtor : Bytes) : Exec MmcFeature := do
  let d4 ← index dtor 4
  return .morphing (masked d4 0) (masked d4 1)

def medium (dtor : Bytes) : Exec (Option MmcFeature) := do
  let d4 ← index dtor 4
  match tryFrom MmcLoadMech (d4 >>> 5).toNat with
  | none => return none
  | some loadMech =>
    return some (.removableMedium (masked d4 3) (masked d4 0) (!masked d4 2) loadMech)

def cdRead (data : Bytes) : Exec MmcFeature := do
  let d2 ← index data 2
  let d4 ← index data 4
  return .cdRead (masked d2 0) (masked d4 0) (masked d4 1) (masked d4 7)

def cdAudioExternalPlay (dtor : Bytes) : Exec MmcFeature := do
  let d2 ← index dtor 2
  let d4 ← index dtor 4
  let volumeLevels ← readU16 (← sliceFrom dtor 6)
  return .cdAudioExternalPlay (masked d2 0) (masked d4 2) (masked d4 1) (masked d4 0) volumeLevels

def dvdCss (dtor : Bytes) : Exec MmcFeature := do
  let d2 ← index dtor 2
  let d7 ← index dtor 7
  return .dvdCss (masked d2 0) d7

def driveSerialNum (dtor : Bytes) : Exec (Option MmcFeature) := do
  let d2 ← index dtor 2
  if masked d2 0 then
    let len := (← index dtor 3).toNat
    return (fromUtf8 (← slice dtor 4 (4 + len))).map .driveSerialNumber
  else
    return none

/-- `MmcFeature::parse` -/
def parse (dtor : Bytes) : Exec (Option MmcFeature) := do
  if dtor.length < 4 then
    return none
  let dataLen := (← index dtor 3).toNat
  if dtor.length ≠ dataLen + 4 then
    return none
  match (← readU16 dtor).toNat with
  | 0x0000 => some <$> profileList dtor
  | 0x0001 => core dtor
  | 0x0002 => some <$> morphing dtor
  | 0x0003 => medium dtor
  | 0x001e => some <$> cdRead dtor
  | 0x0103 => some <$> cdAudioExternalPlay dtor
  | 0x0106 => some <$> dvdCss dtor
  | 0x0108 => driveSerialNum dtor
  | _ => return none

end FeatureDtor

/-- The variables of the descriptor loop. -/
structure DtorLoop where
  i : Nat
  features : List MmcFeature

def DtorLoop.guard (dtors : Bytes) (st : DtorLoop) : Bool := st.i + 3 < dtors.length

def DtorLoop.round (dtors : Bytes) : Act DtorLoop MmcOperationError Unit := do
  let st ← Act.get
  let dtorLen := (← Act.lift (index dtors (st.i + 3))).toNat + 4
  let dtor ← Act.lift (slice dtors st.i (st.i + dtorLen))
  match ← Act.lift (FeatureDtor.parse dtor) with
  | some feature => Act.modify fun st => { st with features := st.features ++ [feature] }
  | none => pure ()
  Act.modify fun st => { st with i := st.i + dtorLen }

def dtorLoop (dtors : Bytes) : Act DtorLoop MmcOperationError Unit :=
  Act.whileLoop (DtorLoop.guard dtors) (DtorLoop.round dtors) (dtors.length + 1)

namespace Mmc
variable {σ : Type}

def allocBufSize : Nat := 4 * 1024

def getConfRetTypeZero : UInt32 := 0x0

def startingFeatureNumber : UInt32 := 0

def timeoutMillis : UInt32 := 6000

/-- The part of `features` that cuts the descriptors out of the response. -/
def featureDescriptors (T : Target) (buf : Bytes) : Act σ MmcOperationError Bytes := do
  let dtorsLen := T.asUsize (← Act.lift (readU32 buf)).toNat
  let expected ← Act.lift (T.usize (dtorsLen + 4))
  if buf.length < expected then
    Act.fail .mk
  else
    let bufEnd ← Act.lift (T.usize (8 + dtorsLen))
    let bufEnd ← Act.lift (T.subUsize bufEnd 4)
    Act.lift (slice buf 8 bufEnd)

def features (T : Target) (m : Mmc σ) : Act σ MmcOperationError (List MmcFeature) := do
  let buf : Bytes := List.replicate allocBufSize 0
  let (retval, stored) ← Act.call
    (m.getConfiguration buf getConfRetTypeZero startingFeatureNumber timeoutMillis)
  if retval ≠ 0 then
    Act.fail .mk
  else
    let dtors ← featureDescriptors T (overwrite buf stored)
    let (_, st) ← Act.onLocals (dtorLoop dtors) ⟨0, []⟩
    return st.features

end Mmc

end LibcdioRs
