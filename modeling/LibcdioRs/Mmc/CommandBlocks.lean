import LibcdioRs.Mmc.AdaptiveRead
import LibcdioRs.Mmc.ReadCd
import LibcdioRs.Mmc.DriveControl
import LibcdioRs.Mmc.GetEventStatus
import LibcdioRs.Mmc.ReadSubchannel

/-!
# Command blocks

The requests of six commands in one type, and the drive's reading of a command
block. What the code writes is what the drive reads, so that different requests
never share a block.
-/

namespace LibcdioRs

open Rust
set_option autoImplicit false

variable {σ : Type}

inductive Request where
  | readCd (options : ReadCdOptions) (sector : UInt32) (count : UInt16)
  | setCdSpeed (rotationMode : RotationMode) (readSpeed writeSpeed : UInt16)
  | startStopUnit (operation : StartStopOperation)
  | readToc (format : ReadToc.ResponseFormat)
  | readSubchannel (addressFormat : ReadSubchannel.AddressFormat)
      (param : ReadSubchannel.SubchannelParameter)
  | getEventStatus (mode : EventMode) (eventClass : EventClass)
  deriving DecidableEq

namespace Request

/-- The block of the request; for READ TOC that of its first command. -/
def cdb : Request → Cdb
  | readCd options sector count => options.cdb sector count
  | setCdSpeed rotationMode readSpeed writeSpeed =>
    SetCdSpeed.cdb rotationMode readSpeed writeSpeed
  | startStopUnit operation => operation.cdb
  | readToc format => format.cdb.setAllocationLength 64
  | readSubchannel addressFormat param =>
    (ReadSubchannel.cdb addressFormat param).setAllocationLength 24
  | getEventStatus mode eventClass => (GetEventStatus.cdb mode eventClass).setAllocationLength 12

/-- The state after the request; `buf` is the buffer of a READ CD. -/
def run (m : Mmc σ) (buf : Bytes) (s : σ) : Request → Exec σ
  | readCd options sector count => Prod.snd <$> m.readCd options sector count buf s
  | setCdSpeed rotationMode readSpeed writeSpeed =>
    Prod.snd <$> m.setCdSpeed rotationMode readSpeed writeSpeed s
  | startStopUnit operation => Prod.snd <$> m.startStopUnit operation s
  | readToc format => Prod.snd <$> m.readToc format s
  | readSubchannel addressFormat param => Prod.snd <$> m.readSubchannel addressFormat param s
  | getEventStatus mode eventClass => Prod.snd <$> m.getEventStatusNotification mode eventClass s

/-- Equal requests, where a jump counts its layer modulo four. -/
inductive Same : Request → Request → Prop where
  | refl (r : Request) : Same r r
  | jump {n n' : UInt8} (h : n.toNat % 4 = n'.toNat % 4) :
    Same (startStopUnit (.jump n)) (startStopUnit (.jump n'))

namespace Same
variable {r r' r'' : Request}

theorem symm (h : Same r r') : Same r' r := by
  cases h with
  | refl => exact .refl r
  | jump h => exact .jump h.symm

theorem trans (h : Same r r') (h' : Same r' r'') : Same r r'' := by
  cases h with
  | refl => exact h'
  | jump h =>
    cases h' with
    | refl => exact .jump h
    | jump h' => exact .jump (h.trans h')

end Same

section Drive

/-! The drive's reading of each field. -/

def sectorOption (b : UInt8) : Option SectorOption :=
  match ((b >>> 2) &&& 0b111).toNat with
  | 1 => some (.cdda (bit b 1))
  | 2 => some .mode1
  | 3 => some .mode2Formless
  | 4 => some .mode2Form1
  | 5 => some .mode2Form2
  | _ => none

def c2Option (b : UInt8) : Option C2Option :=
  match ((b >>> 1) &&& 0b11).toNat with
  | 1 => some .raw
  | 2 => some .rawAndBlock
  | _ => none

def subchannelOption (b : UInt8) : Option SubchannelOption :=
  match (b &&& 0b111).toNat with
  | 1 => some .rawPw
  | 2 => some .q
  | 4 => some .rw
  | _ => none

def readCdOptions (cdb : Cdb) : ReadCdOptions where
  expectedSectorType := sectorOption cdb[1]!
  includeSync := bit cdb[9]! 7
  includeHeader := bit cdb[9]! 5
  includeSubheader := bit cdb[9]! 6
  includeUserData := bit cdb[9]! 4
  includeEcc := bit cdb[9]! 3
  includeC2Error := c2Option cdb[9]!
  includeSubchannel := subchannelOption cdb[10]!

def operation (layer action : UInt8) : Option StartStopOperation :=
  match action.toNat with
  | 0x00 => some .stopDisc
  | 0x01 => some .startDisc
  | 0x02 => some .ejectDisc
  | 0x03 => some .loadStartDisc
  | 0x07 => some (.jump layer)
  | 0x20 => some (.power .idle)
  | 0x30 => some (.power .standby)
  | 0x50 => some (.power .sleep)
  | _ => none

def tocFormat (flags code num : UInt8) : Option ReadToc.ResponseFormat :=
  let addressFormat := if bit flags 1 then .time else .lba
  match code.toNat with
  | 0 => some (.toc addressFormat num)
  | 1 => some (.sessionInfo addressFormat)
  | 2 => some (.fullToc num)
  | 3 => some .pma
  | 4 => some .atip
  | 5 => some .cdtext
  | _ => none

def subchannelParameter (code num : UInt8) : Option ReadSubchannel.SubchannelParameter :=
  match code.toNat with
  | 1 => some .cdCurrentPosition
  | 2 => some .mcn
  | 3 => some (.isrc num)
  | _ => none

def ofCdb (cdb : Cdb) : Option Request :=
  match cdb[0]!.toNat with
  | 0xBE =>
    some (readCd (readCdOptions cdb) (be32 cdb[2]! cdb[3]! cdb[4]! cdb[5]!) (be16 cdb[7]! cdb[8]!))
  | 0xBB =>
    some (setCdSpeed (if cdb[1]! = 0 then .cav else .clv) (be16 cdb[2]! cdb[3]!)
      (be16 cdb[4]! cdb[5]!))
  | 0x1B => (operation cdb[3]! cdb[4]!).map startStopUnit
  | 0x43 => (tocFormat cdb[1]! cdb[2]! cdb[6]!).map readToc
  | 0x42 =>
    (subchannelParameter cdb[3]! cdb[6]!).map
      (readSubchannel (if bit cdb[1]! 1 then .time else .lba))
  | 0x4A => some (getEventStatus (if cdb[1]! = 1 then .polled else .async) ⟨cdb[4]!⟩)
  | _ => none

/-- The request with its layer as the block carries it. -/
def canonical : Request → Request
  | startStopUnit (.jump n) => startStopUnit (.jump (n &&& 0b11))
  | r => r

theorem toNat_and_three (n : UInt8) : (n &&& 0b11).toNat = n.toNat % 4 := by
  rw [UInt8.toNat_and]
  exact Nat.and_two_pow_sub_one_eq_mod n.toNat 2

theorem same_canonical (r : Request) : Same r r.canonical := by
  cases r with
  | startStopUnit operation =>
    cases operation with
    | jump n =>
      apply Same.jump
      rw [toNat_and_three, Nat.mod_mod]
    | _ => exact .refl _
  | _ => exact .refl _

theorem sectorOption_typeByte (options : ReadCdOptions) :
    sectorOption options.typeByte = options.expectedSectorType := by
  unfold ReadCdOptions.typeByte
  cases options.expectedSectorType with
  | none => decide
  | some sectorType =>
    cases sectorType with
    | cdda dap => cases dap <;> decide
    | _ => decide

theorem subchannelOption_subchannelByte (options : ReadCdOptions) :
    subchannelOption options.subchannelByte = options.includeSubchannel := by
  unfold ReadCdOptions.subchannelByte
  cases options.includeSubchannel with
  | none => decide
  | some subchanOption => cases subchanOption <;> decide

/-- No two of the fields share a bit. -/
theorem fields_fieldByte (options : ReadCdOptions) :
    bit options.fieldByte 7 = options.includeSync ∧
      bit options.fieldByte 6 = options.includeSubheader ∧
      bit options.fieldByte 5 = options.includeHeader ∧
      bit options.fieldByte 4 = options.includeUserData ∧
      bit options.fieldByte 3 = options.includeEcc ∧
      c2Option options.fieldByte = options.includeC2Error := by
  unfold ReadCdOptions.fieldByte
  generalize options.includeSync = sync
  generalize options.includeSubheader = subheader
  generalize options.includeHeader = header
  generalize options.includeUserData = userData
  generalize options.includeEcc = ecc
  cases options.includeC2Error with
  | none => revert sync subheader header userData ecc; decide
  | some c2Error =>
    cases c2Error with
    | raw => revert sync subheader header userData ecc; decide
    | rawAndBlock => revert sync subheader header userData ecc; decide

theorem readCdOptions_cdb (options : ReadCdOptions) (sector : UInt32) (count : UInt16) :
    readCdOptions (options.cdb sector count) = options := by
  rcases fields_fieldByte options with ⟨hsync, hsubheader, hheader, huserData, hecc, hc2⟩
  have h1 : (options.cdb sector count)[1]! = options.typeByte := by
    rw [options.cdb_eq]; rfl
  have h9 : (options.cdb sector count)[9]! = options.fieldByte := by
    rw [options.cdb_eq]; rfl
  have h10 : (options.cdb sector count)[10]! = options.subchannelByte := by
    rw [options.cdb_eq]; rfl
  rw [readCdOptions, h1, h9, h10, sectorOption_typeByte, subchannelOption_subchannelByte, hsync,
    hsubheader, hheader, huserData, hecc, hc2]

theorem ofCdb_readCd (options : ReadCdOptions) (sector : UInt32) (count : UInt16) :
    ofCdb (options.cdb sector count) = some (readCd options sector count) := by
  have hsector : be32 (options.cdb sector count)[2]! (options.cdb sector count)[3]!
      (options.cdb sector count)[4]! (options.cdb sector count)[5]! = sector := by
    rw [options.cdb_eq]
    exact be32_toBe32 sector
  have hcount : be16 (options.cdb sector count)[7]! (options.cdb sector count)[8]! = count := by
    rw [options.cdb_eq]
    exact be16_toBe16 count
  have hcode : (options.cdb sector count)[0]! = 0xBE := by
    rw [options.cdb_eq]; rfl
  simp only [ofCdb, hcode, UInt8.toNat_ofNat, hsector, hcount, readCdOptions_cdb]

theorem ofCdb_setCdSpeed (rotationMode : RotationMode) (readSpeed writeSpeed : UInt16) :
    ofCdb (SetCdSpeed.cdb rotationMode readSpeed writeSpeed) =
      some (setCdSpeed rotationMode readSpeed writeSpeed) := by
  have hcdb : SetCdSpeed.cdb rotationMode readSpeed writeSpeed =
      #v[0xBB, rotationMode.code, .ofNat (readSpeed.toNat / 256), .ofNat readSpeed.toNat,
        .ofNat (writeSpeed.toNat / 256), .ofNat writeSpeed.toNat, 0, 0, 0, 0, 0, 0] := rfl
  rw [hcdb]
  cases rotationMode with
  | cav =>
    exact congrArg₂ (fun read write => some (setCdSpeed .cav read write)) (be16_toBe16 readSpeed)
      (be16_toBe16 writeSpeed)
  | clv =>
    exact congrArg₂ (fun read write => some (setCdSpeed .clv read write)) (be16_toBe16 readSpeed)
      (be16_toBe16 writeSpeed)

theorem ofCdb_unit (layer action : UInt8) :
    ofCdb #v[0x1B, 0, 0, layer, action, 0, 0, 0, 0, 0, 0, 0] =
      (operation layer action).map startStopUnit := rfl

theorem ofCdb_startStopUnit (operation : StartStopOperation) :
    ofCdb operation.cdb = some (startStopUnit operation).canonical := by
  cases operation with
  | jump n => exact ofCdb_unit (n &&& 0b11) ((0 : UInt8) ||| (1 : UInt8) <<< 2 ||| 0b11)
  | power condition => cases condition <;> rfl
  | _ => rfl

theorem ofCdb_toc (flags code num : UInt8) :
    ofCdb #v[0x43, flags, code, 0, 0, 0, num, 0, 64, 0, 0, 0] =
      (tocFormat flags code num).map readToc := rfl

theorem ofCdb_readToc (format : ReadToc.ResponseFormat) :
    ofCdb (format.cdb.setAllocationLength 64) = some (readToc format) := by
  cases format with
  | toc addressFormat num =>
    cases addressFormat with
    | lba => exact ofCdb_toc 0 0 num
    | time => exact ofCdb_toc (setBit 0 1) 0 num
  | sessionInfo addressFormat => cases addressFormat <;> rfl
  | fullToc num => exact ofCdb_toc 0 2 num
  | _ => rfl

theorem ofCdb_subchannel (flags code num : UInt8) :
    ofCdb #v[0x42, flags, setBit 0 6, code, 0, 0, num, 0, 24, 0, 0, 0] =
      (subchannelParameter code num).map
        (readSubchannel (if bit flags 1 then .time else .lba)) := rfl

theorem ofCdb_readSubchannel (addressFormat : ReadSubchannel.AddressFormat)
    (param : ReadSubchannel.SubchannelParameter) :
    ofCdb ((ReadSubchannel.cdb addressFormat param).setAllocationLength 24) =
      some (readSubchannel addressFormat param) := by
  cases param with
  | isrc num =>
    cases addressFormat with
    | lba => exact ofCdb_subchannel 0 3 num
    | time => exact ofCdb_subchannel (setBit 0 1) 3 num
  | _ => cases addressFormat <;> rfl

theorem ofCdb_getEventStatus (mode : EventMode) (eventClass : EventClass) :
    ofCdb ((GetEventStatus.cdb mode eventClass).setAllocationLength 12) =
      some (getEventStatus mode eventClass) := by
  cases mode <;> rfl

/-- The drive reads what the code writes. -/
theorem ofCdb_cdb (r : Request) : ofCdb r.cdb = some r.canonical := by
  cases r with
  | readCd options sector count => exact ofCdb_readCd options sector count
  | setCdSpeed rotationMode readSpeed writeSpeed =>
    exact ofCdb_setCdSpeed rotationMode readSpeed writeSpeed
  | startStopUnit operation => exact ofCdb_startStopUnit operation
  | readToc format => exact ofCdb_readToc format
  | readSubchannel addressFormat param => exact ofCdb_readSubchannel addressFormat param
  | getEventStatus mode eventClass => exact ofCdb_getEventStatus mode eventClass

end Drive

section Run
variable (m : Mmc σ) (s : σ)

theorem snd_map {ε α : Type} {x : Act σ ε α} {s s' : σ} {r : Except ε α}
    (h : x s = .ret (r, s')) : Prod.snd <$> x s = .ret s' := by
  rw [h]
  rfl

theorem commands_eq_cons (cdb : Cdb) (extra : Nat) :
    ∃ log, m.commands cdb extra s = (cdb.setAllocationLength 64, 64) :: log := by
  unfold Mmc.commands
  split
  · exact ⟨_, rfl⟩
  · split <;> exact ⟨_, rfl⟩

/-- The block of a request is the first that its run sends. -/
theorem run_logging {buf : Bytes} (hbuf : buf.length < 2 ^ 32) (r : Request) :
    ∃ s' n log, r.run m buf s = .ret s' ∧
      r.run m.logging buf (s, []) = .ret (s', (r.cdb, n) :: log) := by
  cases r with
  | readCd options sector count =>
    rcases m.runCommand_logging s [] (some .read) buf (options.cdb sector count) hbuf with
      ⟨_, s', h, hlog⟩
    exact ⟨s', _, [], snd_map (Act.mapError_ret h), snd_map (Act.mapError_ret hlog)⟩
  | setCdSpeed rotationMode readSpeed writeSpeed =>
    rcases m.runCommand_logging s [] (some .write) []
      (SetCdSpeed.cdb rotationMode readSpeed writeSpeed) (by decide) with ⟨_, s', h, hlog⟩
    exact ⟨s', _, [], snd_map (Act.mapError_bind_pure h _ _),
      snd_map (Act.mapError_bind_pure hlog _ _)⟩
  | startStopUnit operation =>
    rcases m.runCommand_logging s [] (some .write) [] operation.cdb (by decide) with
      ⟨_, s', h, hlog⟩
    exact ⟨s', _, [], snd_map (Act.mapError_bind_pure h _ _),
      snd_map (Act.mapError_bind_pure hlog _ _)⟩
  | readToc format =>
    rcases m.readToc_logging s format with ⟨_, s', h, hlog⟩
    rcases commands_eq_cons m s format.cdb 4 with ⟨log, hcommands⟩
    rw [hcommands] at hlog
    exact ⟨s', 64, log, snd_map h, snd_map hlog⟩
  | readSubchannel addressFormat param =>
    rcases m.runCommand_logging s [] (some .read) (List.replicate 24 0)
      ((ReadSubchannel.cdb addressFormat param).setAllocationLength 24) (by decide) with
      ⟨_, s', h, hlog⟩
    exact ⟨s', _, [], snd_map h, snd_map hlog⟩
  | getEventStatus mode eventClass =>
    rcases m.runCommand_logging s [] (some .read) (List.replicate 12 0)
      ((GetEventStatus.cdb mode eventClass).setAllocationLength 12) (by decide) with
      ⟨_, s', h, hlog⟩
    exact ⟨s', _, [], snd_map h, snd_map hlog⟩

end Run

theorem cdb_jump {n n' : UInt8} (h : n.toNat % 4 = n'.toNat % 4) :
    (startStopUnit (.jump n)).cdb = (startStopUnit (.jump n')).cdb := by
  have hmask : n &&& 0b11 = n' &&& 0b11 := by
    apply UInt8.toNat_inj.mp
    rw [toNat_and_three, toNat_and_three, h]
  simp only [cdb, StartStopOperation.cdb, hmask]

/-- Only a layer that the block truncates is lost. -/
theorem cdb_eq_iff (r r' : Request) : r.cdb = r'.cdb ↔ r.Same r' := by
  constructor
  · intro h
    have hread : some r.canonical = some r'.canonical := by
      rw [← ofCdb_cdb, ← ofCdb_cdb, h]
    have hcanonical : r.canonical = r'.canonical := Option.some.inj hread
    exact r.same_canonical.trans (hcanonical ▸ r'.same_canonical.symm)
  · intro h
    cases h with
    | refl => rfl
    | jump h => exact cdb_jump h

end Request

end LibcdioRs
