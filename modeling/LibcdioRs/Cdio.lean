import LibcdioRs.Ffi
import LibcdioRs.Mmc.Inquiry

/-!
# Devices

`Cdio`, the constructors of `Drive` and `Mmc`, and `run_command` down to the calls
of libcdio. A device handle is what `cdio_open_am` returned. A constructor that
fails leaves no handle behind, and no command leaves a sense block behind.
-/

namespace LibcdioRs

open Rust Foreign
set_option autoImplicit false

/-- `CString::new`; the error holds the bytes. -/
def cstringNew (bytes : Bytes) : Except Bytes Bytes :=
  if 0 ∈ bytes then .error bytes else .ok bytes

theorem cstringNew_ok {bytes path : Bytes} (h : cstringNew bytes = .ok path) :
    path = bytes ∧ LibCall.CStr path := by
  unfold cstringNew at h
  split at h
  · cases h
  · cases h
    exact ⟨rfl, by assumption⟩

theorem cstringNew_error {bytes path : Bytes} (h : cstringNew bytes = .error path) :
    path = bytes ∧ 0 ∈ bytes := by
  unfold cstringNew at h
  split at h
  · cases h
    exact ⟨rfl, by assumption⟩
  · cases h

/-- How code ends that is given a path: the error names the path as it was given, and it is the
one about a NUL byte if and only if the path has one. -/
def Reports {π ε α : Type} (path : π) (hasNul : Prop) (named : ε → π) (nul : ε → Prop) :
    Except ε α → Prop
  | .error e => named e = path ∧ (nul e ↔ hasNul)
  | .ok _ => ¬ hasNul

namespace Cdio

def openCdio (allowWrites : Bool) (source : Option Bytes) : Ffi (Option Ptr) := do
  initLogger
  let accessMode := if allowWrites then some "MMC_RDWR" else none
  lockInit
  let cdio : Option Ptr ← ffi (.cdioOpenAm source accessMode)
  unlockInit
  return cdio

def withDevice (device : Option Bytes) : Ffi (Option Ptr) := openCdio true device

def drop (cdio : Ptr) : Ffi Unit := do
  lockInit
  ffi (.cdioDestroy cdio)
  unlockInit
  return ()

end Cdio

inductive OpenErrorSource where
  | nulError
  | text (text : String)
  deriving DecidableEq

structure DriveOpenError where
  path : Bytes
  source : OpenErrorSource
  deriving DecidableEq

namespace Drive

/-- The `while` loop of `drives`, from the `i`-th pointer of the list on. -/
def deviceStrings (list : Ptr) : Nat → Nat → List Bytes → Ffi (List Bytes)
  | 0, _, _ => .spin
  | fuel + 1, i, drives => do
    let drive : Option Bytes ← ffi (.deviceAt list i)
    match drive with
    | none => return drives
    | some drive => deviceStrings list fuel (i + 1) (drives ++ [drive])

/-- `drives` from the call of `cdio_get_devices` on. -/
def takeDevices (fuel : Nat) : Option Ptr → Ffi (List Bytes)
  | none => do
    unlockInit
    return []
  | some list => do
    let drives ← deviceStrings list fuel 0 []
    ffi (.cdioFreeDeviceList list)
    unlockInit
    return drives

def drives (fuel : Nat) : Ffi (List Bytes) := do
  initLogger
  lockInit
  let driveList : Option Ptr ← ffi .cdioGetDevices
  takeDevices fuel driveList

theorem drives_eq (fuel : Nat) : drives fuel =
    (do initLogger; lockInit : Ffi Unit) >>= fun _ => ffi .cdioGetDevices >>= takeDevices fuel := by
  rw [bind_assoc]
  rfl

/-- `None` is `DriveNotFoundError`. -/
def new : Ffi (Option Ptr) := Cdio.withDevice none

def withDrive (drive : Bytes) : Ffi (Except DriveOpenError Ptr) :=
  match cstringNew drive with
  | .error bytes => return .error ⟨bytes, .nulError⟩
  | .ok drive => do
    match ← Cdio.withDevice (some drive) with
    | none => return .error ⟨drive, .text "cdio_open_am() returned NULL"⟩
    | some cdio => return .ok cdio

structure HardwareIdentifiers where
  model : String
  vendor : String
  revision : String
  deriving DecidableEq

/-- `None` is `DriveOperationError`. -/
def hardwareIdentifiers (cdio : Ptr) : Ffi (Option HardwareIdentifiers) := do
  let hwinfo : Option Hwinfo ← ffi (.cdioQuery cdio .getHwinfo)
  return hwinfo.map fun hwinfo =>
    ⟨trimEnd (fromUtf8Lossy hwinfo.model), trimEnd (fromUtf8Lossy hwinfo.vendor),
      trimEnd (fromUtf8Lossy hwinfo.revision)⟩

/-- The unions of the flags that `ReadCapabilities` and its siblings name. -/
structure CapabilityFlags where
  read : UInt32
  write : UInt32
  misc : UInt32

/-- `from_bits` of a `bitflags` type. -/
def fromBits (all bits : UInt32) : Option UInt32 := if bits &&& ~~~ all = 0 then some bits else none

structure DriveCapabilities where
  read : UInt32
  write : UInt32
  misc : UInt32
  deriving DecidableEq

def capabilities (flags : CapabilityFlags) (cdio : Ptr) : Ffi (Option DriveCapabilities) := do
  let cap : UInt32 × UInt32 × UInt32 ← ffi (.cdioQuery cdio .getDriveCap)
  return do
    let read ← fromBits flags.read cap.1
    let write ← fromBits flags.write cap.2.1
    let misc ← fromBits flags.misc cap.2.2
    return ⟨read, write, misc⟩

end Drive

/-- The return codes of libcdio that have a name. -/
structure ReturnCodes where
  opUnsupported : Int32
  opNotPermitted : Int32
  opBadParameter : Int32

def ReturnCodes.osError (codes : ReturnCodes) (ret : Int32) : OsError :=
  if ret = codes.opUnsupported then .unsupported
  else if ret = codes.opNotPermitted then .operationNotPermitted
  else if ret = codes.opBadParameter then .badParameter
  else .other ret

inductive WithDeviceErrorKind where
  | deviceHasNullChar
  | couldNotOpenDevice
  | mmcNotSupported
  deriving DecidableEq

structure WithDeviceError where
  device : Bytes
  source : WithDeviceErrorKind
  deriving DecidableEq

namespace MmcDevice

def senseData (cdio : Ptr) : Ffi (Option MmcSenseData) := do
  let sense : Int32 × Option Ptr ← ffi (.mmcLastCmdSense cdio)
  if sense.1 ≤ 0 then
    return none
  else
    match sense.2 with
    | none => return none
    | some p =>
      let sense : RequestSense ← ffi (.readSense p)
      ffi (.freeSense p)
      return some sense.toMmcSenseData

def runCommand (codes : ReturnCodes) (cdio : Ptr) (direction : Option MmcDirection) (buf : Bytes)
    (cdb : Cdb) : Ffi (Except MmcError Bytes) :=
  if buf.length < 2 ^ 32 then do
    let stored : Stored ←
      ffi (.cdioQuery cdio (.runCmd Mmc.defaultTimeoutMs cdb (Mmc.dataDirection direction) buf))
    if 0 ≤ stored.1 then
      return .ok (overwrite buf stored.2)
    else if stored.1 = -1 then do
      match ← senseData cdio with
      | some senseData => return .error (.checkCondition senseData)
      | none => return .error (.os (codes.osError stored.1))
    else
      return .error (.os (codes.osError stored.1))
  else
    .panic (.expect "failed to cast length of buf passed to Mmc::run_command()")

/-- `mmc_get_configuration` -/
def getConfiguration (cdio : Ptr) (buf : Bytes) (start rt count : UInt32) : Ffi Stored :=
  ffi (.cdioQuery cdio (.getConfiguration buf start rt count))

def ofExec {α : Type} : Exec α → Ffi α
  | .ret a => .ret a
  | .panic why => .panic why
  | .spin => .spin

/-- `is_mmc_device().is_ok_and(|is_mmc| is_mmc)` -/
def isMmcDevice (codes : ReturnCodes) (cdio : Ptr) : Ffi Bool := do
  match ← runCommand codes cdio (some .read) (List.replicate Inquiry.allocLen 0)
    InquiryKind.standard.cdb with
  | .error _ => return false
  | .ok response => ofExec (Inquiry.isCdDvd response)

/-- `None` is `MmcNotFoundError`; the device that `filter` rejects is dropped. -/
def new (codes : ReturnCodes) : Ffi (Option Ptr) := do
  match ← Cdio.withDevice none with
  | none => return none
  | some cdio =>
    if ← isMmcDevice codes cdio then
      return some cdio
    else
      Cdio.drop cdio
      return none

def withDevice (codes : ReturnCodes) (device : Bytes) : Ffi (Except WithDeviceError Ptr) :=
  match cstringNew device with
  | .error bytes => return .error ⟨bytes, .deviceHasNullChar⟩
  | .ok device => do
    match ← Cdio.withDevice (some device) with
    | none => return .error ⟨device, .couldNotOpenDevice⟩
    | some cdio =>
      if ← isMmcDevice codes cdio then
        return .ok cdio
      else
        Cdio.drop cdio
        return .error ⟨device, .mmcNotSupported⟩

end MmcDevice

section Specs
variable {bound : Nat} {ready : Bool} {cells : Cells} {l : Known}

def cdioCell (p : Ptr) : Handle × Object := (.cdio p, .cdio)

theorem withDevice_sat {device : Option Bytes} (h : Holds .free ready cells l)
    (hdevice : ∀ path ∈ device, LibCall.CStr path) :
    (Cdio.withDevice device).Sat (rules bound) l fun r l' =>
      Holds .free true (r.toList.map cdioCell ++ cells) l' := by
  apply sat_initLogger h
  intro l₁ h₁
  apply sat_lockInit h₁
  intro l₂ h₂
  refine sat_makes h₂ nofun (.inr ⟨rfl, rfl⟩) hdevice (fun r made gone he => he) ?_
  intro r l₃ h₃
  apply sat_unlockInit h₃
  intro l₄ h₄
  exact h₄

theorem drop_sat {p : Ptr} (h : Holds .free true (cdioCell p :: cells) l) :
    (Cdio.drop p).Sat (rules bound) l fun _ l' => Holds .free true cells l' := by
  apply sat_lockInit h
  intro l₁ h₁
  refine sat_frees h₁ nofun (.inr ⟨rfl, rfl⟩) (h₁.eq_some List.mem_cons_self)
    (fun r made gone he => he) ?_
  intro r l₂ h₂
  apply sat_unlockInit h₂
  intro l₃ h₃
  exact h₃

/-- The loop copies what is left of the list, if it has the fuel for it. -/
theorem deviceStrings_sat {list : Ptr} {devices : List Bytes} :
    ∀ fuel i drives l, Holds .locked true cells l →
      (.deviceList list, .deviceList devices) ∈ cells → i ≤ devices.length →
      devices.length < i + fuel →
      (Drive.deviceStrings list fuel i drives).Sat (rules bound) l fun r l' =>
        r = drives ++ devices.drop i ∧ Holds .locked true cells l' := by
  intro fuel
  induction fuel with
  | zero =>
    intro i drives l h hlist hi hfuel
    omega
  | succ fuel ih =>
    intro i drives l h hlist hi hfuel
    have hmem := h.eq_some hlist
    refine sat_reads (c := .deviceAt list i) (P := fun r => r = devices[i]?) h nofun rfl
      ⟨devices, hmem, hi⟩ ?_ ?_
    · intro r made gone he
      exact ⟨he.1 devices hmem, he.2⟩
    · rintro _ rfl l₁ h₁
      by_cases hlt : i < devices.length
      · rw [List.getElem?_eq_getElem hlt]
        have hrest := ih (i + 1) (drives ++ [devices[i]]) l₁ h₁ hlist hlt (by omega)
        rw [List.append_assoc, List.singleton_append, ← List.drop_eq_getElem_cons hlt] at hrest
        exact hrest
      · have hlen : devices.length ≤ i := Nat.le_of_not_lt hlt
        rw [List.getElem?_eq_none hlen, List.drop_eq_nil_of_le hlen, List.append_nil]
        exact ⟨rfl, h₁⟩

theorem getDevices_sat (h : Holds .locked true cells l) :
    (ffi .cdioGetDevices).Sat (rules bound) l fun (r : Option Ptr) l' =>
      match r with
      | none => Holds .locked true cells l'
      | some list => ∃ devices : List Bytes, devices.length < bound ∧
          Holds .locked true ((.deviceList list, .deviceList devices) :: cells) l' := by
  refine sat_ffi (f := fun r => .ret r) h nofun (.inr ⟨rfl, rfl⟩) trivial ?_
  intro r made gone l' he hch hp hr
  cases r with
  | none =>
    obtain ⟨rfl, rfl⟩ := he
    exact ⟨hp, hr, h.owns.unchanged hch⟩
  | some list =>
    obtain ⟨devices, hlen, rfl, rfl⟩ := he
    exact ⟨devices, hlen, hp, hr, h.owns.made hch⟩

/-- A list is copied as a whole and freed. -/
theorem takeDevices_sat {list : Ptr} {devices : List Bytes}
    (h : Holds .locked true ((.deviceList list, .deviceList devices) :: cells) l)
    (hlen : devices.length < bound) :
    (Drive.takeDevices bound (some list)).Sat (rules bound) l fun r l' =>
      r = devices ∧ Idle cells l' := by
  refine Prog.Sat.bind ?_ (deviceStrings_sat bound 0 [] l h List.mem_cons_self
    (Nat.zero_le _) (by omega))
  rintro _ l₁ ⟨rfl, h₁⟩
  have hlive := Heap.live_of_eq (h₁.eq_some List.mem_cons_self)
  refine sat_frees h₁ nofun (.inl rfl) hlive (fun r made gone he => he) ?_
  intro _ l₂ h₂
  apply sat_unlockInit h₂
  intro l₃ h₃
  exact ⟨rfl, h₃.idle⟩

theorem takeDevices_none_sat (h : Holds .locked true cells l) :
    (Drive.takeDevices bound none).Sat (rules bound) l fun r l' => r = [] ∧ Idle cells l' := by
  apply sat_unlockInit h
  intro l₁ h₁
  exact ⟨rfl, h₁.idle⟩

/-- The first two steps of `drives`. -/
theorem enterDrives_sat (h : Idle cells l) :
    (do initLogger; lockInit : Ffi Unit).Sat (rules bound) l fun _ l' =>
      Holds .locked true cells l' := by
  obtain ⟨ready, hl, _⟩ := h
  apply sat_initLogger hl
  intro l₁ h₁
  rw [← bind_pure lockInit]
  apply sat_lockInit h₁
  intro l₂ h₂
  exact h₂

theorem drives_sat (h : Idle cells l) :
    (Drive.drives bound).Sat (rules bound) l fun _ l' => Idle cells l' := by
  rw [Drive.drives_eq]
  refine Prog.Sat.bind ?_ (enterDrives_sat h)
  intro _ l₁ h₁
  refine Prog.Sat.bind ?_ (getDevices_sat h₁)
  intro r l₂ h₂
  cases r with
  | none => exact (takeDevices_none_sat h₂).mono fun _ _ h' => h'.2
  | some list =>
    obtain ⟨devices, hlen, h₂⟩ := h₂
    exact (takeDevices_sat h₂ hlen).mono fun _ _ h' => h'.2

theorem senseData_sat {p : Ptr} (h : Holds .free true cells l) (hp : cdioCell p ∈ cells) :
    (MmcDevice.senseData p).Sat (rules bound) l fun _ l' => Holds .free true cells l' := by
  refine sat_makes h nofun (.inl rfl) (h.eq_some hp) (fun r made gone he => he) ?_
  rintro ⟨ret, sense⟩ l₁ h₁
  by_cases hret : ret ≤ 0
  · have hnone : ¬ 0 < ret := Int32.not_lt.mpr hret
    simp only [if_pos hret, if_neg hnone] at h₁ ⊢
    exact h₁
  · have hsome : 0 < ret := Int32.not_le.mp hret
    simp only [if_neg hret, if_pos hsome] at h₁ ⊢
    cases sense with
    | none => exact h₁
    | some q =>
      refine sat_reads (P := fun _ => True) h₁ nofun rfl (h₁.eq_some List.mem_cons_self)
        (fun r made gone he => ⟨trivial, he⟩) ?_
      intro sense _ l₂ h₂
      refine sat_frees h₂ nofun (.inl rfl) (h₂.eq_some List.mem_cons_self)
        (fun r made gone he => he) ?_
      intro _ l₃ h₃
      exact h₃

/-- A command leaves the caller what it had, and the buffer its length. -/
theorem runCommand_holds {codes : ReturnCodes} {p : Ptr} {direction : Option MmcDirection}
    {buf : Bytes} {cdb : Cdb} (h : Holds .free true cells l) (hp : cdioCell p ∈ cells)
    (hbuf : buf.length < 2 ^ 32) :
    (MmcDevice.runCommand codes p direction buf cdb).Sat (rules bound) l fun r l' =>
      (∀ buf', r = .ok buf' → buf'.length = buf.length) ∧ Holds .free true cells l' := by
  rw [MmcDevice.runCommand, if_pos hbuf]
  refine sat_reads (P := fun _ => True) h nofun rfl (h.eq_some hp)
    (fun r made gone he => ⟨trivial, he⟩) ?_
  rintro ⟨ret, stored⟩ _ l₁ h₁
  by_cases hret : 0 ≤ ret
  · simp only [if_pos hret]
    refine ⟨?_, h₁⟩
    rintro _ ⟨⟩
    exact length_overwrite _ _
  · by_cases hsense : ret = -1
    · simp only [if_neg hret, if_pos hsense]
      refine Prog.Sat.bind ?_ (senseData_sat h₁ hp)
      intro sense l₂ h₂
      cases sense with
      | none => exact ⟨nofun, h₂⟩
      | some sense => exact ⟨nofun, h₂⟩
    · simp only [if_neg hret, if_neg hsense]
      exact ⟨nofun, h₁⟩

theorem cdioQuery_sat {p : Ptr} {q : CdioQuery} (h : Holds .free true cells l)
    (hp : cdioCell p ∈ cells) :
    (ffi (.cdioQuery p q)).Sat (rules bound) l fun _ l' => Holds .free true cells l' := by
  refine sat_reads (P := fun _ => True) h nofun rfl (h.eq_some hp)
    (fun r made gone he => ⟨trivial, he⟩) ?_
  intro _ _ l₁ h₁
  exact h₁

theorem isCdDvd_ret {response : Bytes} (h : 0 < response.length) :
    ∃ b, Inquiry.isCdDvd response = .ret b := by
  rw [Inquiry.isCdDvd, index_eq h]
  exact ⟨_, rfl⟩

theorem isMmcDevice_sat {codes : ReturnCodes} {p : Ptr} (h : Holds .free true cells l)
    (hp : cdioCell p ∈ cells) :
    (MmcDevice.isMmcDevice codes p).Sat (rules bound) l fun _ l' => Holds .free true cells l' := by
  have hlen : (List.replicate Inquiry.allocLen (0 : UInt8)).length = 255 := List.length_replicate
  unfold MmcDevice.isMmcDevice
  generalize List.replicate Inquiry.allocLen (0 : UInt8) = buf at hlen
  refine Prog.Sat.bind ?_ (runCommand_holds h hp (by omega))
  intro r l₁ hr
  rcases hr with ⟨hkeeps, h₁⟩
  cases r with
  | error e => exact h₁
  | ok response =>
    have hresponse : 0 < response.length := by
      rw [hkeeps response rfl]
      omega
    obtain ⟨b, hb⟩ := isCdDvd_ret hresponse
    simp only [hb]
    exact h₁

-- Callers use `isMmcDevice_sat` only; unfolding would compute the whole buffer.
attribute [irreducible] MmcDevice.isMmcDevice

theorem cstr_none : ∀ path ∈ (none : Option Bytes), LibCall.CStr path := nofun

/-- Of a failed constructor nothing is left. -/
theorem mmcNew_sat {codes : ReturnCodes} (h : Idle cells l) :
    (MmcDevice.new codes).Sat (rules bound) l fun r l' =>
      Idle (r.toList.map cdioCell ++ cells) l' := by
  obtain ⟨ready, hl, _⟩ := h
  refine Prog.Sat.bind ?_ (withDevice_sat hl cstr_none)
  intro cdio l₁ h₁
  cases cdio with
  | none => exact h₁.idle
  | some p =>
    refine Prog.Sat.bind ?_ (isMmcDevice_sat h₁ List.mem_cons_self)
    intro isMmc l₂ h₂
    cases isMmc with
    | true => exact h₂.idle
    | false =>
      refine Prog.Sat.bind ?_ (drop_sat h₂)
      intro _ l₃ h₃
      exact h₃.idle

theorem mmcWithDevice_sat {codes : ReturnCodes} {device : Bytes} (h : Idle cells l) :
    (MmcDevice.withDevice codes device).Sat (rules bound) l fun r l' =>
      Reports device (0 ∈ device) WithDeviceError.device
          (fun e => e.source = .deviceHasNullChar) r ∧
        Idle (r.toOption.toList.map cdioCell ++ cells) l' := by
  unfold MmcDevice.withDevice
  cases hpath : cstringNew device with
  | error bytes =>
    obtain ⟨rfl, hnul⟩ := cstringNew_error hpath
    exact ⟨⟨rfl, iff_of_true rfl hnul⟩, h⟩
  | ok path =>
    obtain ⟨rfl, hcstr⟩ := cstringNew_ok hpath
    obtain ⟨ready, hl, _⟩ := h
    refine Prog.Sat.bind ?_ (withDevice_sat hl (by rintro _ ⟨⟩; exact hcstr))
    intro cdio l₁ h₁
    cases cdio with
    | none => exact ⟨⟨rfl, iff_of_false nofun hcstr⟩, h₁.idle⟩
    | some p =>
      refine Prog.Sat.bind ?_ (isMmcDevice_sat h₁ List.mem_cons_self)
      intro isMmc l₂ h₂
      cases isMmc with
      | true => exact ⟨hcstr, h₂.idle⟩
      | false =>
        refine Prog.Sat.bind ?_ (drop_sat h₂)
        intro _ l₃ h₃
        exact ⟨⟨rfl, iff_of_false nofun hcstr⟩, h₃.idle⟩

theorem driveNew_sat (h : Idle cells l) :
    Drive.new.Sat (rules bound) l fun r l' => Idle (r.toList.map cdioCell ++ cells) l' := by
  obtain ⟨ready, hl, _⟩ := h
  exact (withDevice_sat hl cstr_none).mono fun _ _ h' => h'.idle

theorem withDrive_sat {drive : Bytes} (h : Idle cells l) :
    (Drive.withDrive drive).Sat (rules bound) l fun r l' =>
      Reports drive (0 ∈ drive) DriveOpenError.path (fun e => e.source = .nulError) r ∧
        Idle (r.toOption.toList.map cdioCell ++ cells) l' := by
  unfold Drive.withDrive
  cases hpath : cstringNew drive with
  | error bytes =>
    obtain ⟨rfl, hnul⟩ := cstringNew_error hpath
    exact ⟨⟨rfl, iff_of_true rfl hnul⟩, h⟩
  | ok path =>
    obtain ⟨rfl, hcstr⟩ := cstringNew_ok hpath
    obtain ⟨ready, hl, _⟩ := h
    refine Prog.Sat.bind ?_ (withDevice_sat hl (by rintro _ ⟨⟩; exact hcstr))
    intro cdio l₁ h₁
    cases cdio with
    | none => exact ⟨⟨rfl, iff_of_false nofun hcstr⟩, h₁.idle⟩
    | some p => exact ⟨hcstr, h₁.idle⟩

theorem capabilities_sat {flags : Drive.CapabilityFlags} {p : Ptr} (h : Holds .free true cells l)
    (hp : cdioCell p ∈ cells) :
    (Drive.capabilities flags p).Sat (rules bound) l fun _ l' => Holds .free true cells l' :=
  Prog.Sat.bind (fun _ _ h' => h') (cdioQuery_sat h hp)

theorem hardwareIdentifiers_sat {p : Ptr} (h : Holds .free true cells l)
    (hp : cdioCell p ∈ cells) :
    (Drive.hardwareIdentifiers p).Sat (rules bound) l fun _ l' => Holds .free true cells l' :=
  Prog.Sat.bind (fun _ _ h' => h') (cdioQuery_sat h hp)

end Specs

end LibcdioRs
