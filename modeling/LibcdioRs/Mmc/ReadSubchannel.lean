import LibcdioRs.Mmc
import LibcdioRs.Shared.Parse
import LibcdioRs.Shared.Discriminant

/-!
# READ SUB-CHANNEL

The header that all queries share, and the four queries. Each of them parses
its descriptor from the bytes that the header's length delimits.
-/

namespace LibcdioRs

open Rust Parse
set_option autoImplicit false

inductive MmcAudioStatus where
  | playInProgress
  | playPaused
  | playCompleted
  | playStopped
  | noStatus
  deriving DecidableEq

def MmcAudioStatus.code : MmcAudioStatus → UInt8
  | playInProgress => 0x11
  | playPaused => 0x12
  | playCompleted => 0x13
  | playStopped => 0x14
  | noStatus => 0x15

instance : Discriminants MmcAudioStatus where
  name := "MmcAudioStatus"
  code e := e.code.toNat
  variants := [.playInProgress, .playPaused, .playCompleted, .playStopped, .noStatus]
  complete e := by cases e <;> decide
  distinct := by decide

inductive MmcSubchannelError where
  | cmd (error : MmcError)
  | invalidResponse (text : String)
  deriving DecidableEq

inductive MmcAudioStatusError where
  | notSupported
  | cmd (error : MmcError)
  | invalidResponse (text : String)
  deriving DecidableEq

/-- `From<MmcSubchannelError>` -/
def MmcAudioStatusError.ofSubchannel : MmcSubchannelError → MmcAudioStatusError
  | .cmd error => .cmd error
  | .invalidResponse error => .invalidResponse error

structure TrackNumber where
  number : UInt8
  one_le : 1 ≤ number.toNat
  le_max : number.toNat ≤ 99

/-- `None` stands for `InvalidTrackNumber`. -/
def TrackNumber.tryFrom (trackNumber : UInt8) : Option TrackNumber :=
  if h : 1 ≤ trackNumber.toNat ∧ trackNumber.toNat ≤ 99 then some ⟨trackNumber, h.1, h.2⟩ else none

def TrackNumber.default : TrackNumber := ⟨1, by decide, by decide⟩

structure TimePosition where
  hour : UInt8
  minute : UInt8
  second : UInt8
  frame : UInt8
  deriving DecidableEq

structure CdCurrentPosition where
  track : UInt8
  index : UInt8
  absolutePosition : TimePosition
  relativePosition : TimePosition
  deriving DecidableEq

namespace ReadSubchannel

inductive AddressFormat where
  | lba
  | time
  deriving DecidableEq

inductive SubchannelParameter where
  | cdCurrentPosition
  | mcn
  | isrc (trackNumber : UInt8)
  deriving DecidableEq

def SubchannelParameter.discriminant : SubchannelParameter → UInt8
  | .cdCurrentPosition => 0x1
  | .mcn => 0x2
  | .isrc _ => 0x3

def cdb (addressFormat : AddressFormat) (param : SubchannelParameter) : Cdb :=
  let cdb := Cdb.default.set! 0 0x42
  let cdb := if addressFormat = .time then cdb.set! 1 (setBit cdb[1]! 1) else cdb
  let cdb := cdb.set! 2 (setBit cdb[2]! 6)
  let cdb := cdb.set! 3 param.discriminant
  match param with
  | .isrc trackNumber => cdb.set! 6 trackNumber
  | _ => cdb

/-- `From<ContextError>` -/
def ofContext (W : Winnow) (err : W.ContextError) : MmcSubchannelError :=
  .invalidResponse (W.text err)

/-- `From<TryFromPrimitiveError<MmcAudioStatus>>` -/
def ofAudioStatus (audioStatus : UInt8) : MmcSubchannelError :=
  .invalidResponse (noDiscriminant (Discriminants.name MmcAudioStatus) audioStatus.toNat)

def parseHeader (W : Winnow) : Act Bytes MmcSubchannelError (Option MmcAudioStatus) := do
  let (_, audioStatus, remainder) ← parseNext (ofContext W)
    (W.context "READ SUB-CHANNEL response header"
      (W.seq W.u8 (W.seq W.u8 (W.lengthTake W.beU16))))
  Act.modify fun _ => remainder
  if audioStatus ≠ 0 then
    match tryFrom MmcAudioStatus audioStatus.toNat with
    | some status => return some status
    | none => Act.fail (ofAudioStatus audioStatus)
  else
    return none

/-- `String::from_utf8(bytes.to_vec()).expect(msg)` -/
def expectUtf8 (msg : String) (bytes : Bytes) : Exec String :=
  match fromUtf8 bytes with
  | some text => .ret text
  | none => .panic (.expect msg)

def adrAndControl (W : Winnow) : Parser Bytes W.ContextError (UInt8 × UInt8) :=
  W.bits (W.seq (W.bitsTake 4) (W.bitsTake 4))

def mcnDescriptor (W : Winnow) : Act Bytes MmcSubchannelError (Option String) := do
  let formatCode := W.verify W.u8 fun code => code == SubchannelParameter.mcn.discriminant
  let mcval := W.bits W.bool
  let (_, _, mcval, mcn, _, _) ← parseNext (ofContext W)
    (W.context "media catalog number descriptor"
      (W.seq formatCode (W.seq (W.take 3) (W.seq mcval (W.seq (W.take 13)
        (W.seq (W.verify W.u8 (· == 0)) W.u8))))))
  if !mcval then
    return none
  let mcn ← Act.lift (expectUtf8 "mcn should not contain non utf8 characters" mcn)
  return some mcn

def isrcDescriptor (W : Winnow) (trackNumber : TrackNumber) :
    Act Bytes MmcSubchannelError (Option String) := do
  let param := SubchannelParameter.isrc trackNumber.number
  let formatCode := W.verify W.u8 fun code => code == param.discriminant
  let tcval := W.bits W.bool
  let (_, _, _, _, tcval, isrc, _, _) ← parseNext (ofContext W)
    (W.context "isrc descriptor"
      (W.seq formatCode (W.seq (adrAndControl W)
        (W.seq (W.verify W.u8 fun track => track == trackNumber.number) (W.seq (W.take 1)
          (W.seq tcval (W.seq (W.take 12) (W.seq (W.verify W.u8 (· == 0)) W.u8))))))))
  if !tcval then
    return none
  let isrc ← Act.lift (expectUtf8 "isrc should not contain non utf8 characters" isrc)
  return some isrc

/-- `TimePosition` from the elements 0 to 3 of an address. -/
def timePosition (address : Bytes) : Exec TimePosition := do
  let hour ← Rust.index address 0
  let minute ← Rust.index address 1
  let second ← Rust.index address 2
  let frame ← Rust.index address 3
  return { hour := hour, minute := minute, second := second, frame := frame }

def positionDescriptor (W : Winnow) : Act Bytes MmcSubchannelError CdCurrentPosition := do
  let param := SubchannelParameter.cdCurrentPosition
  let formatCode := W.verify W.u8 fun code => code == param.discriminant
  let (_, _, track, index, absoluteAddress, relativeAddress) ← parseNext (ofContext W)
    (W.context "cd current position descriptor"
      (W.seq formatCode (W.seq (adrAndControl W) (W.seq W.u8 (W.seq W.u8
        (W.seq (W.take 4) (W.take 4)))))))
  let absolutePosition ← Act.lift (timePosition absoluteAddress)
  let relativePosition ← Act.lift (timePosition relativeAddress)
  return { track := track, index := index, absolutePosition := absolutePosition,
           relativePosition := relativePosition }

end ReadSubchannel

namespace Mmc
open ReadSubchannel
variable {σ α : Type}

def readSubchannel (m : Mmc σ) (addressFormat : AddressFormat) (param : SubchannelParameter) :
    Act σ MmcError Bytes := do
  let data : Bytes := List.replicate 24 0
  let cdb := (ReadSubchannel.cdb addressFormat param).setAllocationLength data.length
  m.runCommand (some .read) data cdb

/-- What the three queries with a descriptor do: read the sub-channel, check the header, and
parse the descriptor. -/
def subchannel (W : Winnow) (m : Mmc σ) (addressFormat : AddressFormat)
    (param : SubchannelParameter) (descriptor : Act Bytes MmcSubchannelError α) :
    Act σ MmcSubchannelError α := do
  let data ← (m.readSubchannel addressFormat param).mapError .cmd
  let (value, _) ← Act.onLocals (do
    let _ ← parseHeader W
    descriptor) data
  return value

def audioStatus (W : Winnow) (m : Mmc σ) : Act σ MmcAudioStatusError MmcAudioStatus := do
  let data ← (m.readSubchannel .lba .cdCurrentPosition).mapError .cmd
  let (status, _) ← (Act.onLocals (parseHeader W) data).mapError .ofSubchannel
  match status with
  | some status => return status
  | none => Act.fail .notSupported

def mediaCatalogNumber (W : Winnow) (m : Mmc σ) : Act σ MmcSubchannelError (Option String) :=
  m.subchannel W .lba .mcn (mcnDescriptor W)

def isrc (W : Winnow) (m : Mmc σ) (trackNumber : TrackNumber) :
    Act σ MmcSubchannelError (Option String) :=
  m.subchannel W .lba (.isrc trackNumber.number) (isrcDescriptor W trackNumber)

def cdCurrentPosition (W : Winnow) (m : Mmc σ) : Act σ MmcSubchannelError CdCurrentPosition :=
  m.subchannel W .time .cdCurrentPosition (positionDescriptor W)

end Mmc

end LibcdioRs
