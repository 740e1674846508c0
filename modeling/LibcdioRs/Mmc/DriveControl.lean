import LibcdioRs.Mmc

/-!
# SET CD SPEED, START STOP UNIT and their like

The four commands that move no data.
-/

namespace LibcdioRs

open Rust
set_option autoImplicit false

variable {σ : Type}

section SetCdSpeed

inductive RotationMode where
  | cav
  | clv
  deriving DecidableEq

def RotationMode.code : RotationMode → UInt8
  | cav => 0b00
  | clv => 0b01

def SetCdSpeed.cdb (rotationMode : RotationMode) (readSpeed writeSpeed : UInt16) : Cdb :=
  let cdb : Cdb := Cdb.default.set! 0 0xBB
  let cdb : Cdb := cdb.set! 1 rotationMode.code
  let cdb := cdb.setBe16 2 readSpeed
  cdb.setBe16 4 writeSpeed

structure MmcSetCdSpeedError where
  source : MmcError
  deriving DecidableEq

def Mmc.setCdSpeed (m : Mmc σ) (rotationMode : RotationMode) (readSpeed writeSpeed : UInt16) :
    Act σ MmcSetCdSpeedError Unit := do
  let cdb := SetCdSpeed.cdb rotationMode readSpeed writeSpeed
  let _ ← (m.runCommand (some .write) [] cdb).mapError .mk

end SetCdSpeed

section StartStopUnit

inductive PowerCondition where
  | idle
  | standby
  | sleep
  deriving DecidableEq

def PowerCondition.code : PowerCondition → UInt8
  | idle => 0x2
  | standby => 0x3
  | sleep => 0x5

inductive StartStopOperation where
  | stopDisc
  | startDisc
  | ejectDisc
  | loadStartDisc
  | jump (layerNumber : UInt8)
  | power (condition : PowerCondition)
  deriving DecidableEq

def StartStopOperation.cdb (operation : StartStopOperation) : Cdb :=
  let cdb : Cdb := Cdb.default.set! 0 0x1B
  let cdb : Cdb := cdb.set! 1 0
  let cdb : Cdb := match operation with
    | .jump layerNumber =>
      let cdb : Cdb := cdb.set! 3 (layerNumber &&& 0b11)
      cdb.orAt 4 ((1 : UInt8) <<< 2)
    | _ => cdb
  let cdb := cdb.orAt 4 (match operation with
    | .startDisc => 0b01
    | .ejectDisc => 0b10
    | .loadStartDisc | .jump _ => 0b11
    | _ => 0b00)
  match operation with
  | .power powCond => cdb.orAt 4 ((powCond.code &&& 0b1111) <<< 4)
  | _ => cdb

structure MmcStartStopError where
  source : MmcError
  deriving DecidableEq

structure MmcEjectError where
  source : MmcStartStopError
  deriving DecidableEq

structure MmcCloseTrayError where
  source : MmcStartStopError
  deriving DecidableEq

structure MmcSetPowerStateError where
  source : MmcStartStopError
  deriving DecidableEq

namespace Mmc

def startStopUnit (m : Mmc σ) (operation : StartStopOperation) : Act σ MmcStartStopError Unit := do
  let _ ← (m.runCommand (some .write) [] operation.cdb).mapError .mk

def eject (m : Mmc σ) : Act σ MmcEjectError Unit :=
  (m.startStopUnit .ejectDisc).mapError .mk

def closeTray (m : Mmc σ) : Act σ MmcCloseTrayError Unit :=
  (m.startStopUnit .loadStartDisc).mapError .mk

def setPowerState (m : Mmc σ) (state : PowerCondition) : Act σ MmcSetPowerStateError Unit :=
  (m.startStopUnit (.power state)).mapError .mk

end Mmc

end StartStopUnit

section PreventAllowMediumRemoval

inductive PreventOption where
  | clear
  | set
  | clearPersistent
  | setPersistent
  deriving DecidableEq

def PreventOption.code : PreventOption → UInt8
  | clear => 0b00
  | set => 0b01
  | clearPersistent => 0b10
  | setPersistent => 0b11

def PreventOption.cdb (prevent : PreventOption) : Cdb :=
  (Cdb.default.set! 0 0x1E).set! 4 prevent.code

structure MmcMediaRemovalError where
  source : MmcError
  deriving DecidableEq

namespace Mmc

def preventAllowMediumRemoval (m : Mmc σ) (prevent : PreventOption) :
    Act σ MmcMediaRemovalError Unit := do
  let _ ← (m.runCommand (some .write) [] prevent.cdb).mapError .mk

def allowMediaRemoval (m : Mmc σ) : Act σ MmcMediaRemovalError Unit :=
  m.preventAllowMediumRemoval .clear

def preventMediaRemoval (m : Mmc σ) : Act σ MmcMediaRemovalError Unit :=
  m.preventAllowMediumRemoval .set

end Mmc

end PreventAllowMediumRemoval

section TestUnitReady

def TestUnitReady.cdb : Cdb := Cdb.default.set! 0 0x00

structure MmcTestUnitReadyError where
  source : MmcError
  deriving DecidableEq

def Mmc.testUnitReady (m : Mmc σ) : Act σ MmcTestUnitReadyError Unit := do
  let _ ← (m.runCommand none [] TestUnitReady.cdb).mapError .mk

end TestUnitReady

end LibcdioRs
