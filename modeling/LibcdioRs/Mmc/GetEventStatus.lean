import LibcdioRs.Mmc
import LibcdioRs.Shared.Parse
import LibcdioRs.Shared.Discriminant

/-!
# GET EVENT STATUS NOTIFICATION

The header parser that all queries share, and the six queries: each of them is
the common part applied to the class it asks for and to the parser of its event
descriptor.
-/

namespace LibcdioRs

open Rust Parse
set_option autoImplicit false

structure EventClass where
  bits : UInt8
  deriving DecidableEq

namespace EventClass

def empty : EventClass := ⟨0⟩

def operationalChange : EventClass := ⟨(1 : UInt8) <<< 1⟩

def powerManagement : EventClass := ⟨(1 : UInt8) <<< 2⟩

def externalRequest : EventClass := ⟨(1 : UInt8) <<< 3⟩

def media : EventClass := ⟨(1 : UInt8) <<< 4⟩

def multiHost : EventClass := ⟨(1 : UInt8) <<< 5⟩

def deviceBusy : EventClass := ⟨(1 : UInt8) <<< 6⟩

def isEmpty (c : EventClass) : Bool := c.bits == 0

def fromBitsTruncate (bits : UInt8) : EventClass := ⟨bits &&& 0b01111110⟩

end EventClass

inductive MmcStatusError where
  | cmd (error : MmcError)
  | invalidResponse (text : String)
  | eventNotSupported (eventClass : EventClass)
  deriving DecidableEq

inductive EventMode where
  | async
  | polled
  deriving DecidableEq

inductive OperationalEvent where
  | featureChange
  | newFeatures
  | reset
  | firmwareChanged
  | inquiryChange
  deriving DecidableEq

def OperationalEvent.code : OperationalEvent → UInt16
  | featureChange => 0x1
  | newFeatures => 0x2
  | reset => 0x3
  | firmwareChanged => 0x4
  | inquiryChange => 0x5

instance : Discriminants OperationalEvent where
  name := "OperationalEvent"
  code e := e.code.toNat
  variants := [.featureChange, .newFeatures, .reset, .firmwareChanged, .inquiryChange]
  complete e := by cases e <;> decide
  distinct := by decide

inductive PowerEvent where
  | pwrChgSuccessful
  | pwrChgFail
  deriving DecidableEq

def PowerEvent.code : PowerEvent → UInt8
  | pwrChgSuccessful => 0x1
  | pwrChgFail => 0x2

instance : Discriminants PowerEvent where
  name := "PowerEvent"
  code e := e.code.toNat
  variants := [.pwrChgSuccessful, .pwrChgFail]
  complete e := by cases e <;> decide
  distinct := by decide

inductive PowerState where
  | active
  | idle
  | standby
  | sleep
  deriving DecidableEq

def PowerState.code : PowerState → UInt8
  | active => 0x1
  | idle => 0x2
  | standby => 0x3
  | sleep => 0x4

instance : Discriminants PowerState where
  name := "PowerState"
  code e := e.code.toNat
  variants := [.active, .idle, .standby, .sleep]
  complete e := by cases e <;> decide
  distinct := by decide

inductive ExternalRequestEvent where
  | driveKeyDown
  | driveKeyUp
  | externalRequestNotification
  deriving DecidableEq

def ExternalRequestEvent.code : ExternalRequestEvent → UInt8
  | driveKeyDown => 0x1
  | driveKeyUp => 0x2
  | externalRequestNotification => 0x3

instance : Discriminants ExternalRequestEvent where
  name := "ExternalRequestEvent"
  code e := e.code.toNat
  variants := [.driveKeyDown, .driveKeyUp, .externalRequestNotification]
  complete e := by cases e <;> decide
  distinct := by decide

inductive ExternalRequestState where
  | ready
  | otherPrevent
  deriving DecidableEq

def ExternalRequestState.code : ExternalRequestState → UInt8
  | ready => 0x0
  | otherPrevent => 0x1

instance : Discriminants ExternalRequestState where
  name := "ExternalRequestState"
  code e := e.code.toNat
  variants := [.ready, .otherPrevent]
  complete e := by cases e <;> decide
  distinct := by decide

inductive ExternalRequest where
  | overrun
  | play
  | rewindOrBack
  | fastForward
  | pause
  | stop
  | ascii
  | vendorUnique
  deriving DecidableEq

def ExternalRequest.code : ExternalRequest → UInt16
  | overrun => 0x1
  | play => 0x101
  | rewindOrBack => 0x102
  | fastForward => 0x103
  | pause => 0x104
  | stop => 0x106
  | ascii => 0x107
  | vendorUnique => 0xF000

instance : Discriminants ExternalRequest where
  name := "ExternalRequest"
  code e := e.code.toNat
  variants := [.overrun, .play, .rewindOrBack, .fastForward, .pause, .stop, .ascii, .vendorUnique]
  complete e := by cases e <;> decide
  distinct := by decide

/-- `VendorUnique` has the alternatives `0xF001..=0xFFFF`. -/
def ExternalRequest.tryFrom (n : Nat) : Option ExternalRequest :=
  if 0xF001 ≤ n ∧ n ≤ 0xFFFF then some .vendorUnique else Rust.tryFrom ExternalRequest n

inductive MediaEvent where
  | ejectRequest
  | newMedia
  | mediaRemoval
  | mediaChanged
  | backgroundFormatCompleted
  | backgroundFormatRestarted
  deriving DecidableEq

def MediaEvent.code : MediaEvent → UInt8
  | ejectRequest => 0x1
  | newMedia => 0x2
  | mediaRemoval => 0x3
  | mediaChanged => 0x4
  | backgroundFormatCompleted => 0x5
  | backgroundFormatRestarted => 0x6

instance : Discriminants MediaEvent where
  name := "MediaEvent"
  code e := e.code.toNat
  variants := [.ejectRequest, .newMedia, .mediaRemoval, .mediaChanged, .backgroundFormatCompleted,
    .backgroundFormatRestarted]
  complete e := by cases e <;> decide
  distinct := by decide

structure MediaState where
  bits : UInt8
  deriving DecidableEq

def MediaState.doorOrTrayOpen : MediaState := ⟨1⟩

def MediaState.fromBitsTruncate (bits : UInt8) : MediaState := ⟨bits &&& 0b11⟩

def MediaState.contains (a b : MediaState) : Bool := a.bits &&& b.bits == b.bits

inductive MultiHostEvent where
  | controlRequest
  | controlGrant
  | controlRelease
  deriving DecidableEq

def MultiHostEvent.code : MultiHostEvent → UInt8
  | controlRequest => 0x1
  | controlGrant => 0x2
  | controlRelease => 0x3

instance : Discriminants MultiHostEvent where
  name := "MultiHostEvent"
  code e := e.code.toNat
  variants := [.controlRequest, .controlGrant, .controlRelease]
  complete e := by cases e <;> decide
  distinct := by decide

inductive MultiHostState where
  | ready
  | otherPrevent
  deriving DecidableEq

def MultiHostState.code : MultiHostState → UInt8
  | ready => 0x0
  | otherPrevent => 0x1

instance : Discriminants MultiHostState where
  name := "MultiHostState"
  code e := e.code.toNat
  variants := [.ready, .otherPrevent]
  complete e := by cases e <;> decide
  distinct := by decide

inductive MultiHostPriority where
  | low
  | medium
  | high
  deriving DecidableEq

def MultiHostPriority.code : MultiHostPriority → UInt16
  | low => 0x1
  | medium => 0x2
  | high => 0x3

instance : Discriminants MultiHostPriority where
  name := "MultiHostPriority"
  code e := e.code.toNat
  variants := [.low, .medium, .high]
  complete e := by cases e <;> decide
  distinct := by decide

inductive BusyEvent where
  | change
  | loChange
  deriving DecidableEq

def BusyEvent.code : BusyEvent → UInt8
  | change => 0x1
  | loChange => 0x2

instance : Discriminants BusyEvent where
  name := "BusyEvent"
  code e := e.code.toNat
  variants := [.change, .loChange]
  complete e := by cases e <;> decide
  distinct := by decide

inductive BusyState where
  | notBusy
  | busy
  deriving DecidableEq

def BusyState.code : BusyState → UInt8
  | notBusy => 0x0
  | busy => 0x1

instance : Discriminants BusyState where
  name := "BusyState"
  code e := e.code.toNat
  variants := [.notBusy, .busy]
  complete e := by cases e <;> decide
  distinct := by decide

structure OperationalStatus where
  event : Option OperationalEvent
  persistentPrevent : Bool
  deriving DecidableEq

structure PowerStatus where
  event : Option PowerEvent
  state : PowerState
  deriving DecidableEq

structure ExternalRequestStatus where
  event : Option ExternalRequestEvent
  state : ExternalRequestState
  request : Option ExternalRequest
  deriving DecidableEq

structure MediaStatus where
  event : Option MediaEvent
  state : MediaState
  startSlot : UInt8
  endSlot : UInt8
  deriving DecidableEq

structure MultiHostStatus where
  event : Option MultiHostEvent
  state : MultiHostState
  priority : Option MultiHostPriority
  deriving DecidableEq

/-- `std::time::Duration` in whole milliseconds -/
structure Duration where
  millis : Nat
  deriving DecidableEq

structure BusyStatus where
  event : Option BusyEvent
  state : BusyState
  busyTime : Option Duration
  deriving DecidableEq

namespace GetEventStatus

/-- `From<ContextError>` -/
def ofContext (W : Winnow) (err : W.ContextError) : MmcStatusError := .invalidResponse (W.text err)

/-- `E::try_from(n)?` -/
def tryInto {E : Type} [Discriminants E] (n : Nat) (e : Option E) : Except MmcStatusError E :=
  match e with
  | some e => .ok e
  | none => .error (.invalidResponse (noDiscriminant (Discriminants.name E) n))

/-- `(n != 0).then(|| E::try_from(n)).transpose()?` -/
def tryNonZero {E : Type} [Discriminants E] (n : Nat) (e : Option E) :
    Except MmcStatusError (Option E) :=
  if n ≠ 0 then (tryInto n e).map some else .ok none

/-- `{:b}` -/
def binary (n : UInt8) : String := .ofList (Nat.toDigits 2 n.toNat)

def cdb (mode : EventMode) (eventClass : EventClass) : Cdb :=
  let cdb := Cdb.default.set! 0 0x4A
  let cdb := cdb.set! 1 (if mode = .polled then 1 else 0)
  cdb.set! 4 eventClass.bits

def parseHeader (T : Target) (W : Winnow) (expected : EventClass) :
    Act Bytes MmcStatusError EventClass := do
  let neaAndNotifClass := W.bits (W.separatedPair W.bool (W.bitsTake 4) (W.bitsTake 3))
  let ((nea, notifClass), supportedEvents, remaining) ← parseNext (ofContext W)
    (W.context "GET EVENT STATUS NOTIFICATION response header"
      (W.lengthAndThen W.beU16 (W.seq neaAndNotifClass (W.seq W.u8 W.rest))))
  Act.modify fun _ => remaining
  if !expected.isEmpty && nea then
    Act.fail (.eventNotSupported expected)
  else
    let eventClass ← Act.lift (T.shlU8 1 notifClass)
    if !expected.isEmpty && eventClass != expected.bits then
      Act.fail (.invalidResponse ("invalid event code, expected 0b" ++ binary expected.bits ++
        " got 0b" ++ binary eventClass))
    else
      return .fromBitsTruncate supportedEvents

def parseEventCode (W : Winnow) : Parser Bytes W.ContextError UInt8 :=
  W.context "event code" (W.bits (W.preceded (W.take 4) (W.bitsTake 4)))

def operationalDescriptor (W : Winnow) : Act Bytes MmcStatusError OperationalStatus := do
  let preventBitAndOpStatus := W.bits (W.separatedPair W.bool (W.take 3) (W.bitsTake 4))
  let (_, (preventBit, _), opChange) ← parseNext (ofContext W)
    (W.context "operational change event descriptor"
      (W.seq (parseEventCode W) (W.seq preventBitAndOpStatus W.beU16)))
  let change ← Act.ofExcept
    (tryNonZero opChange.toNat (tryFrom OperationalEvent opChange.toNat))
  return { event := change, persistentPrevent := preventBit }

def powerDescriptor (W : Winnow) : Act Bytes MmcStatusError PowerStatus := do
  let (eventCode, status) ← parseNext (ofContext W)
    (W.context "power management event descriptor" (W.seq (parseEventCode W) W.u8))
  let event ← Act.ofExcept (tryNonZero eventCode.toNat (tryFrom PowerEvent eventCode.toNat))
  let state ← Act.ofExcept (tryInto status.toNat (tryFrom PowerState status.toNat))
  return { event := event, state := state }

def externalDescriptor (W : Winnow) : Act Bytes MmcStatusError ExternalRequestStatus := do
  let status := W.bits (W.preceded (W.bitsTake 4) (W.bitsTake 4))
  let (eventCode, status, request) ← parseNext (ofContext W)
    (W.context "external request event descriptor"
      (W.seq (parseEventCode W) (W.seq status W.beU16)))
  let event ← Act.ofExcept
    (tryNonZero eventCode.toNat (tryFrom ExternalRequestEvent eventCode.toNat))
  let state ← Act.ofExcept (tryInto status.toNat (tryFrom ExternalRequestState status.toNat))
  let request ← Act.ofExcept (tryNonZero request.toNat (ExternalRequest.tryFrom request.toNat))
  return { event := event, state := state, request := request }

def mediaDescriptor (W : Winnow) : Act Bytes MmcStatusError MediaStatus := do
  let (eventCode, status, startSlot, endSlot) ← parseNext (ofContext W)
    (W.context "media event descriptor"
      (W.seq (parseEventCode W) (W.seq W.u8 (W.seq W.u8 W.u8))))
  let event ← Act.ofExcept (tryNonZero eventCode.toNat (tryFrom MediaEvent eventCode.toNat))
  let state := MediaState.fromBitsTruncate status
  return { event := event, state := state, startSlot := startSlot, endSlot := endSlot }

def multihostDescriptor (W : Winnow) : Act Bytes MmcStatusError MultiHostStatus := do
  let status := W.bits (W.preceded (W.bitsTake 4) (W.bitsTake 4))
  let (eventCode, status, priority) ← parseNext (ofContext W)
    (W.context "multiple host event descriptor"
      (W.seq (parseEventCode W) (W.seq status W.beU16)))
  let event ← Act.ofExcept (tryNonZero eventCode.toNat (tryFrom MultiHostEvent eventCode.toNat))
  let state ← Act.ofExcept (tryInto status.toNat (tryFrom MultiHostState status.toNat))
  let priority ← Act.ofExcept
    (tryNonZero priority.toNat (tryFrom MultiHostPriority priority.toNat))
  return { event := event, state := state, priority := priority }

def busyDescriptor (W : Winnow) : Act Bytes MmcStatusError BusyStatus := do
  let (eventCode, status, time) ← parseNext (ofContext W)
    (W.context "device busy event descriptor" (W.seq (parseEventCode W) (W.seq W.u8 W.beU16)))
  let event ← Act.ofExcept (tryNonZero eventCode.toNat (tryFrom BusyEvent eventCode.toNat))
  let state ← Act.ofExcept (tryInto status.toNat (tryFrom BusyState status.toNat))
  let time := if state ≠ .notBusy then some (Duration.mk time.toNat) else none
  return { event := event, state := state, busyTime := time }

end GetEventStatus

namespace Mmc
open GetEventStatus
variable {σ α : Type}

def getEventStatusNotification (m : Mmc σ) (mode : EventMode) (eventClass : EventClass) :
    Act σ MmcError Bytes := do
  let data : Bytes := List.replicate 12 0
  let cdb := (GetEventStatus.cdb mode eventClass).setAllocationLength data.length
  m.runCommand (some .read) data cdb

/-- What all queries do: ask for a class, check the header, and parse the event descriptor. -/
def eventStatus (T : Target) (W : Winnow) (m : Mmc σ) (eventClass : EventClass)
    (descriptor : Act Bytes MmcStatusError α) : Act σ MmcStatusError α := do
  let data ← (m.getEventStatusNotification .polled eventClass).mapError .cmd
  let (status, _) ← Act.onLocals (do
    let _ ← parseHeader T W eventClass
    descriptor) data
  return status

def supportedEvents (T : Target) (W : Winnow) (m : Mmc σ) : Act σ MmcStatusError EventClass := do
  let data ← (m.getEventStatusNotification .polled .empty).mapError .cmd
  let (supported, _) ← Act.onLocals (parseHeader T W .empty) data
  return supported

def operationalEventStatus (T : Target) (W : Winnow) (m : Mmc σ) :
    Act σ MmcStatusError OperationalStatus :=
  m.eventStatus T W .operationalChange (operationalDescriptor W)

def powerStatus (T : Target) (W : Winnow) (m : Mmc σ) : Act σ MmcStatusError PowerStatus :=
  m.eventStatus T W .powerManagement (powerDescriptor W)

def externalStatus (T : Target) (W : Winnow) (m : Mmc σ) :
    Act σ MmcStatusError ExternalRequestStatus :=
  m.eventStatus T W .externalRequest (externalDescriptor W)

def mediaStatus (T : Target) (W : Winnow) (m : Mmc σ) : Act σ MmcStatusError MediaStatus :=
  m.eventStatus T W .media (mediaDescriptor W)

def multihostStatus (T : Target) (W : Winnow) (m : Mmc σ) :
    Act σ MmcStatusError MultiHostStatus :=
  m.eventStatus T W .multiHost (multihostDescriptor W)

def busyStatus (T : Target) (W : Winnow) (m : Mmc σ) : Act σ MmcStatusError BusyStatus :=
  m.eventStatus T W .deviceBusy (busyDescriptor W)

def isTrayOpen (T : Target) (W : Winnow) (m : Mmc σ) : Act σ MmcStatusError Bool := do
  let status ← m.mediaStatus T W
  return status.state.contains .doorOrTrayOpen

end Mmc

end LibcdioRs
