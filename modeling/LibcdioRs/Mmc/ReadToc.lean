import LibcdioRs.Mmc
import LibcdioRs.Shared.Parse
import LibcdioRs.Shared.Discriminant

/-!
# READ TOC/PMA/ATIP

The adaptive read of `read_toc` and the three queries on its answer. A device
that holds one response decides what the two commands leave in the buffer.
-/

namespace LibcdioRs

open Rust Parse
set_option autoImplicit false

namespace ReadToc

inductive AddressFormat where
  | lba
  | time
  deriving DecidableEq

inductive ResponseFormat where
  | toc (addressFormat : AddressFormat) (trackNumber : UInt8)
  | sessionInfo (addressFormat : AddressFormat)
  | fullToc (sessionNumber : UInt8)
  | pma
  | atip
  | cdtext
  deriving DecidableEq

def ResponseFormat.discriminant : ResponseFormat → UInt8
  | .toc _ _ => 0b0000
  | .sessionInfo _ => 0b0001
  | .fullToc _ => 0b0010
  | .pma => 0b0011
  | .atip => 0b0100
  | .cdtext => 0b0101

def ResponseFormat.cdb (format : ResponseFormat) : Cdb :=
  let cdb := Cdb.default.set! 0 0x43
  let cdb := match format with
    | .toc .time _ | .sessionInfo .time => cdb.set! 1 (setBit cdb[1]! 1)
    | _ => cdb
  let cdb := cdb.set! 2 format.discriminant
  match format with
  | .toc _ num | .fullToc num => cdb.set! 6 num
  | _ => cdb

end ReadToc

inductive CdType where
  | cddaOrCdData
  | cdi
  | cdromXa
  deriving DecidableEq

def CdType.code : CdType → UInt8
  | cddaOrCdData => 0x00
  | cdi => 0x10
  | cdromXa => 0x20

instance : Discriminants CdType where
  name := "CdType"
  code e := e.code.toNat
  variants := [.cddaOrCdData, .cdi, .cdromXa]
  complete e := by cases e <;> decide
  distinct := by decide

inductive MmcTocError where
  | os (error : MmcError)
  | invalidResponse (text : String)
  deriving DecidableEq

/-- `From<ContextError>` -/
def MmcTocError.ofContext (W : Winnow) (err : W.ContextError) : MmcTocError :=
  .invalidResponse (W.text err)

/-- `From<TryFromPrimitiveError<CdType>>` -/
def MmcTocError.ofCdType (psec : UInt8) : MmcTocError :=
  .invalidResponse (noDiscriminant (Discriminants.name CdType) psec.toNat)

def leadoutTrack : UInt8 := 0xAA

variable {σ : Type}

namespace ReadToc

/-- The header's third and fourth byte; the descriptors stay in the input. -/
def parseHeader (W : Winnow) : Act Bytes MmcTocError (UInt8 × UInt8) := do
  let descriptorsLength ← parseNext (.ofContext W)
    (W.context "READ TOC/PMA/ATIP header" W.beU16)
  let (firstByte, secondByte, descriptors) ← parseNext (.ofContext W)
    (W.context "READ TOC/PMA/ATIP header"
      (W.seq W.u8 (W.seq W.u8 (W.take descriptorsLength.toNat))))
  Act.modify fun _ => descriptors
  return (firstByte, secondByte)

def adrAndControl (W : Winnow) : Parser Bytes W.ContextError (UInt8 × UInt8) :=
  W.bits (W.seq (W.bitsTake 4) (W.bitsTake 4))

end ReadToc

namespace Mmc
open ReadToc

def readToc (m : Mmc σ) (format : ResponseFormat) : Act σ MmcTocError Bytes := do
  let buf : Bytes := List.replicate 64 0
  let cdb := format.cdb.setAllocationLength buf.length
  let buf ← (m.runCommand (some .read) buf cdb).mapError .os
  let descriptorLength ← Act.lift (lengthPrefix "buffer length is greater than two bytes" buf)
  let dataSize := descriptorLength.toNat + 4
  if dataSize > buf.length then
    let buf := resize buf dataSize 0
    let cdb := cdb.setAllocationLength buf.length
    (m.runCommand (some .read) buf cdb).mapError .os
  else
    return buf

def cdText (W : Winnow) (m : Mmc σ) : Act σ MmcTocError Bytes := do
  let data ← m.readToc .cdtext
  let (_, input) ← Act.onLocals (parseHeader W) data
  let cdtextLen := input.length
  let data ← Act.lift (drain data 4)
  return data.take cdtextLen

def cdType (W : Winnow) (m : Mmc σ) : Act σ MmcTocError CdType := do
  let data ← m.readToc (.fullToc 0)
  let ((_, _, _, _, _, _, _, _, _, psec, _), _) ← Act.onLocals (do
    let _ ← parseHeader W
    parseNext (.ofContext W) (W.context "raw toc descriptor"
      (W.seq W.u8 (W.seq (adrAndControl W) (W.seq W.u8 (W.seq (W.verify W.u8 (· == 0xA0))
        (W.seq W.u8 (W.seq W.u8 (W.seq W.u8 (W.seq (W.verify W.u8 (· == 0)) (W.seq W.u8
          (W.seq W.u8 W.u8)))))))))))) data
  match tryFrom CdType psec.toNat with
  | some cdType => return cdType
  | none => Act.fail (.ofCdType psec)

def lastSector (W : Winnow) (m : Mmc σ) : Act σ MmcTocError UInt32 := do
  let data ← m.readToc (.toc .lba leadoutTrack)
  let ((_, _, _, _, trackStartAddress), _) ← Act.onLocals (do
    let _ ← parseHeader W
    parseNext (.ofContext W) (W.context "formatted toc descriptor"
      (W.seq W.u8 (W.seq (adrAndControl W) (W.seq (W.verify W.u8 (· == leadoutTrack))
        (W.seq W.u8 W.beU32)))))) data
  -- `saturating_sub(1)`
  return if trackStartAddress = 0 then 0 else trackStartAddress - 1

end Mmc

end LibcdioRs
