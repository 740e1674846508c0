import LibcdioRs.Mmc

/-!
# READ CD

The options of a read and the command block that carries them.
-/

namespace LibcdioRs

open Rust
set_option autoImplicit false

inductive SectorOption where
  | cdda (dap : Bool)
  | mode1
  | mode2Formless
  | mode2Form1
  | mode2Form2
  deriving DecidableEq

def SectorOption.discriminant : SectorOption → UInt8
  | cdda _ => 0b001
  | mode1 => 0b010
  | mode2Formless => 0b011
  | mode2Form1 => 0b100
  | mode2Form2 => 0b101

inductive C2Option where
  | raw
  | rawAndBlock
  deriving DecidableEq

def C2Option.code : C2Option → UInt8
  | raw => 0b01
  | rawAndBlock => 0b10

inductive SubchannelOption where
  | rawPw
  | q
  | rw
  deriving DecidableEq

def SubchannelOption.code : SubchannelOption → UInt8
  | rawPw => 0b001
  | q => 0b010
  | rw => 0b100

structure ReadCdOptions where
  expectedSectorType : Option SectorOption
  includeSync : Bool
  includeHeader : Bool
  includeSubheader : Bool
  includeUserData : Bool
  includeEcc : Bool
  includeC2Error : Option C2Option
  includeSubchannel : Option SubchannelOption
  deriving DecidableEq

def ReadCdOptions.default : ReadCdOptions where
  expectedSectorType := none
  includeSync := false
  includeHeader := false
  includeSubheader := false
  includeUserData := true
  includeEcc := false
  includeC2Error := none
  includeSubchannel := none

def ReadCdOptions.cdb (options : ReadCdOptions) (sector : UInt32) (count : UInt16) : Cdb :=
  let cdb : Cdb := Cdb.default.set! 0 0xBE
  let cdb := cdb.orIf (options.expectedSectorType = some (.cdda true)) 1 ((1 : UInt8) <<< 1)
  let cdb := cdb.orSome options.expectedSectorType 1 fun sectorType =>
    (sectorType.discriminant &&& 0b111) <<< 2
  let cdb := cdb.setBe32 2 sector
  let cdb := cdb.setBe16 7 count
  let cdb := cdb.orIf options.includeSync 9 ((1 : UInt8) <<< 7)
  let cdb := cdb.orIf options.includeSubheader 9 ((1 : UInt8) <<< 6)
  let cdb := cdb.orIf options.includeHeader 9 ((1 : UInt8) <<< 5)
  let cdb := cdb.orIf options.includeUserData 9 ((1 : UInt8) <<< 4)
  let cdb := cdb.orIf options.includeEcc 9 ((1 : UInt8) <<< 3)
  let cdb := cdb.orSome options.includeC2Error 9 fun c2Error => (c2Error.code &&& 0b11) <<< 1
  cdb.orSome options.includeSubchannel 10 fun subchanOption => subchanOption.code &&& 0b111

section Literal
variable (b0 b1 b2 b3 b4 b5 b6 b7 b8 b9 b10 b11 b : UInt8)

theorem orAt_one : Cdb.orAt #v[b0, b1, b2, b3, b4, b5, b6, b7, b8, b9, b10, b11] 1 b =
    #v[b0, b1 ||| b, b2, b3, b4, b5, b6, b7, b8, b9, b10, b11] := rfl

theorem orAt_nine : Cdb.orAt #v[b0, b1, b2, b3, b4, b5, b6, b7, b8, b9, b10, b11] 9 b =
    #v[b0, b1, b2, b3, b4, b5, b6, b7, b8, b9 ||| b, b10, b11] := rfl

theorem orAt_ten : Cdb.orAt #v[b0, b1, b2, b3, b4, b5, b6, b7, b8, b9, b10, b11] 10 b =
    #v[b0, b1, b2, b3, b4, b5, b6, b7, b8, b9, b10 ||| b, b11] := rfl

theorem setBe32_two (n : UInt32) :
    Cdb.setBe32 #v[b0, b1, b2, b3, b4, b5, b6, b7, b8, b9, b10, b11] 2 n =
      #v[b0, b1, .ofNat (n.toNat / 256 ^ 3), .ofNat (n.toNat / 256 ^ 2), .ofNat (n.toNat / 256),
        .ofNat n.toNat, b6, b7, b8, b9, b10, b11] := rfl

theorem setBe16_seven (n : UInt16) :
    Cdb.setBe16 #v[b0, b1, b2, b3, b4, b5, b6, b7, b8, b9, b10, b11] 7 n =
      #v[b0, b1, b2, b3, b4, b5, b6, .ofNat (n.toNat / 256), .ofNat n.toNat, b9, b10, b11] := rfl

end Literal

namespace ReadCdOptions

/-! The three bytes that hold options. -/

def typeByte (options : ReadCdOptions) : UInt8 :=
  (0 : UInt8) |||
    (if options.expectedSectorType = some (.cdda true) then (1 : UInt8) <<< 1 else 0) |||
    (options.expectedSectorType.elim (0 : UInt8) fun sectorType =>
      (sectorType.discriminant &&& 0b111) <<< 2)

def fieldByte (options : ReadCdOptions) : UInt8 :=
  (0 : UInt8) ||| (if options.includeSync then (1 : UInt8) <<< 7 else 0) |||
    (if options.includeSubheader then (1 : UInt8) <<< 6 else 0) |||
    (if options.includeHeader then (1 : UInt8) <<< 5 else 0) |||
    (if options.includeUserData then (1 : UInt8) <<< 4 else 0) |||
    (if options.includeEcc then (1 : UInt8) <<< 3 else 0) |||
    (options.includeC2Error.elim (0 : UInt8) fun c2Error => (c2Error.code &&& 0b11) <<< 1)

def subchannelByte (options : ReadCdOptions) : UInt8 :=
  (0 : UInt8) |||
    (options.includeSubchannel.elim (0 : UInt8) fun subchanOption => subchanOption.code &&& 0b111)

theorem cdb_eq (options : ReadCdOptions) (sector : UInt32) (count : UInt16) :
    options.cdb sector count = #v[0xBE, options.typeByte, .ofNat (sector.toNat / 256 ^ 3),
      .ofNat (sector.toNat / 256 ^ 2), .ofNat (sector.toNat / 256), .ofNat sector.toNat, 0,
      .ofNat (count.toNat / 256), .ofNat count.toNat, options.fieldByte,
      options.subchannelByte, 0] := by
  have hstart : (Cdb.default.set! 0 0xBE : Cdb) = #v[0xBE, 0, 0, 0, 0, 0, 0, 0, 0, 0, 0, 0] := rfl
  simp only [cdb, Cdb.orIf_eq, Cdb.orSome_eq, decide_eq_true_eq, hstart, orAt_one, orAt_nine,
    orAt_ten, setBe32_two, setBe16_seven]
  rfl

end ReadCdOptions

structure MmcReadCdError where
  source : MmcError
  deriving DecidableEq

variable {σ : Type}

/-- The value is the buffer after the command. -/
def Mmc.readCd (m : Mmc σ) (options : ReadCdOptions) (sector : UInt32) (count : UInt16)
    (buf : Bytes) : Act σ MmcReadCdError Bytes :=
  (m.runCommand (some .read) buf (options.cdb sector count)).mapError .mk

end LibcdioRs
