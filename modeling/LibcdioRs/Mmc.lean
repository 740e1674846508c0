import LibcdioRs.Shared.Target
import LibcdioRs.Shared.Bytes

/-!
# MMC commands

`Mmc` and its `run_command`. The functions of libcdio are the fields of `Mmc`,
on the state `σ` of the device; what they store into a buffer is arbitrary.
-/

namespace LibcdioRs

open Rust
set_option autoImplicit false

abbrev Cdb : Type := Vector UInt8 12

def Cdb.default : Cdb := Vector.replicate 12 0

/-- `cdb[7..9].copy_from_slice(&(len as u16).to_be_bytes())` -/
def Cdb.setAllocationLength (cdb : Cdb) (len : Nat) : Cdb :=
  (cdb.set! 7 (.ofNat ((UInt16.ofNat len).toNat / 256))).set! 8 (.ofNat (UInt16.ofNat len).toNat)

/-- `cdb[i] |= b` -/
def Cdb.orAt (cdb : Cdb) (i : Nat) (b : UInt8) : Cdb := cdb.set! i (cdb[i]! ||| b)

/-- `if c { cdb[i] |= b }` -/
def Cdb.orIf (cdb : Cdb) (c : Bool) (i : Nat) (b : UInt8) : Cdb :=
  if c then cdb.orAt i b else cdb

/-- `if let Some(a) = a { cdb[i] |= f(a) }` -/
def Cdb.orSome {α : Type} (cdb : Cdb) (a : Option α) (i : Nat) (f : α → UInt8) : Cdb :=
  match a with
  | some a => cdb.orAt i (f a)
  | none => cdb

/-- `cdb[i..i + 2].copy_from_slice(&n.to_be_bytes())` -/
def Cdb.setBe16 (cdb : Cdb) (i : Nat) (n : UInt16) : Cdb :=
  (cdb.set! i (.ofNat (n.toNat / 256))).set! (i + 1) (.ofNat n.toNat)

/-- `cdb[i..i + 4].copy_from_slice(&n.to_be_bytes())` -/
def Cdb.setBe32 (cdb : Cdb) (i : Nat) (n : UInt32) : Cdb :=
  (((cdb.set! i (.ofNat (n.toNat / 256 ^ 3))).set! (i + 1) (.ofNat (n.toNat / 256 ^ 2))).set!
    (i + 2) (.ofNat (n.toNat / 256))).set! (i + 3) (.ofNat n.toNat)

theorem Cdb.orAt_zero (cdb : Cdb) (i : Nat) : cdb.orAt i 0 = cdb := by
  unfold orAt
  rw [UInt8.or_zero]
  apply Vector.ext
  intro j hj
  by_cases h : i = j
  · subst h
    simp [hj]
  · simp [h]

theorem Cdb.orIf_eq (cdb : Cdb) (c : Bool) (i : Nat) (b : UInt8) :
    cdb.orIf c i b = cdb.orAt i (if c then b else 0) := by
  cases c with
  | false => exact (cdb.orAt_zero i).symm
  | true => rfl

theorem Cdb.orSome_eq {α : Type} (cdb : Cdb) (a : Option α) (i : Nat) (f : α → UInt8) :
    cdb.orSome a i f = cdb.orAt i (a.elim 0 f) := by
  cases a with
  | none => exact (cdb.orAt_zero i).symm
  | some a => rfl

def Cdb.allocationLength (cdb : Cdb) : Nat := (be16 cdb[7]! cdb[8]!).toNat

theorem Cdb.allocationLength_set (cdb : Cdb) (len : Nat) :
    (cdb.setAllocationLength len).allocationLength = len % 2 ^ 16 := by
  have h7 : (cdb.setAllocationLength len)[7]! = .ofNat ((UInt16.ofNat len).toNat / 256) := by
    simp [setAllocationLength]
  have h8 : (cdb.setAllocationLength len)[8]! = .ofNat (UInt16.ofNat len).toNat := by
    simp [setAllocationLength]
  rw [allocationLength, h7, h8, be16_toBe16, UInt16.toNat_ofNat']

inductive SenseKey where
  | noSense
  | recoveredError
  | notReady
  | mediumError
  | hardwareError
  | illegalRequest
  | unitAttention
  | dataProtect
  | blankCheck
  | vendorSpecific
  | copyAborted
  | abortedCommand
  | volumeOverflow
  | miscompare
  | unknown (code : UInt8)
  deriving DecidableEq

def SenseKey.ofCode (code : UInt8) : SenseKey :=
  match code.toNat with
  | 0x0 => .noSense
  | 0x1 => .recoveredError
  | 0x2 => .notReady
  | 0x3 => .mediumError
  | 0x4 => .hardwareError
  | 0x5 => .illegalRequest
  | 0x6 => .unitAttention
  | 0x7 => .dataProtect
  | 0x8 => .blankCheck
  | 0x9 => .vendorSpecific
  | 0xA => .copyAborted
  | 0xB => .abortedCommand
  | 0xD => .volumeOverflow
  | 0xE => .miscompare
  | _ => .unknown code

structure MmcSenseData where
  senseKey : SenseKey
  asc : UInt8
  ascq : UInt8
  ili : Bool
  csi : Vector UInt8 4
  fruc : UInt8
  sks : Vector UInt8 3
  asb : Vector UInt8 46
  deriving DecidableEq

/-- The fields of `cdio_mmc_request_sense_t` that `sense_data` copies. -/
structure RequestSense where
  senseKey : UInt8
  asc : UInt8
  ascq : UInt8
  ili : UInt8
  commandInfo : Vector UInt8 4
  fruc : UInt8
  sks : Vector UInt8 3
  asb : Vector UInt8 46

def RequestSense.toMmcSenseData (sense : RequestSense) : MmcSenseData where
  senseKey := .ofCode sense.senseKey
  asc := sense.asc
  ascq := sense.ascq
  ili := sense.ili != 0
  csi := sense.commandInfo
  fruc := sense.fruc
  sks := sense.sks
  asb := sense.asb

inductive MmcDirection where
  | read
  | write
  deriving DecidableEq

/-- `mmc_direction_t` -/
inductive DataDirection where
  | none
  | read
  | write
  deriving DecidableEq

inductive OsError where
  | other (code : Int32)
  | unsupported
  | operationNotPermitted
  | badParameter
  deriving DecidableEq

inductive MmcError where
  | checkCondition (senseData : MmcSenseData)
  | os (error : OsError)
  deriving DecidableEq

/-- What a C function does to a buffer: its return code, and the bytes that it stores from
the start of the buffer on. -/
abbrev Stored : Type := Int32 × Bytes

/-- libcdio's functions for one device, and the return codes that have a name. -/
structure Mmc (σ : Type) where
  runCmd : UInt32 → Cdb → DataDirection → Bytes → σ → Stored × σ
  lastCmdSense : σ → (Int32 × Option RequestSense) × σ
  getConfiguration : Bytes → UInt32 → UInt32 → UInt32 → σ → Stored × σ
  opUnsupported : Int32
  opNotPermitted : Int32
  opBadParameter : Int32

/-- `buf[0..2].try_into().map(u16::from_be_bytes).expect(msg)` -/
def lengthPrefix (msg : String) (buf : Bytes) : Exec UInt16 := do
  match ← slice buf 0 2 with
  | [b0, b1] => return be16 b0 b1
  | _ => .panic (.expect msg)

theorem lengthPrefix_cons (msg : String) (b0 b1 : UInt8) (rest : Bytes) :
    lengthPrefix msg (b0 :: b1 :: rest) = .ret (be16 b0 b1) := by
  rw [lengthPrefix, slice_eq (by decide) (by simp)]
  rfl

variable {σ ε : Type}

namespace Mmc

def senseData (m : Mmc σ) : Act σ ε (Option MmcSenseData) := do
  let (ret, sense) ← Act.call m.lastCmdSense
  if ret ≤ 0 then
    pure none
  else
    pure (sense.map RequestSense.toMmcSenseData)

def osError (m : Mmc σ) (ret : Int32) : OsError :=
  if ret = m.opUnsupported then .unsupported
  else if ret = m.opNotPermitted then .operationNotPermitted
  else if ret = m.opBadParameter then .badParameter
  else .other ret

def defaultTimeoutMs : UInt32 := 6000

def dataDirection : Option MmcDirection → DataDirection
  | none => .none
  | some .read => .read
  | some .write => .write

/-- The value is the buffer after the command. -/
def runCommand (m : Mmc σ) (direction : Option MmcDirection) (buf : Bytes) (cdb : Cdb) :
    Act σ MmcError Bytes := do
  if buf.length < 2 ^ 32 then
    let (ret, stored) ← Act.call (m.runCmd defaultTimeoutMs cdb (dataDirection direction) buf)
    if 0 ≤ ret then
      pure (overwrite buf stored)
    else if ret = -1 then
      match ← m.senseData with
      | some senseData => Act.fail (.checkCondition senseData)
      | none => Act.fail (.os (m.osError ret))
    else
      Act.fail (.os (m.osError ret))
  else
    Act.lift (.panic (.expect "failed to cast length of buf passed to Mmc::run_command()"))

/-- In the state `s` every command on a buffer of the length of `d` leaves `d` in it. -/
def AnswersWith (m : Mmc σ) (s : σ) (d : Bytes) : Prop :=
  ∀ timeout cdb direction buf, buf.length = d.length →
    0 ≤ (m.runCmd timeout cdb direction buf s).1.1 ∧
      overwrite buf (m.runCmd timeout cdb direction buf s).1.2 = d

/-- Every command stores as much of `R` as the CDB allocates. -/
def Holds (m : Mmc σ) (R : Bytes) : Prop :=
  ∀ timeout cdb direction buf s,
    0 ≤ (m.runCmd timeout cdb direction buf s).1.1 ∧
      (m.runCmd timeout cdb direction buf s).1.2 = R.take cdb.allocationLength

def replying (d : Bytes) : Mmc Unit where
  runCmd _ _ _ _ s := ((0, d), s)
  lastCmdSense s := ((0, none), s)
  getConfiguration _ _ _ _ s := ((0, d), s)
  opUnsupported := -2
  opNotPermitted := -4
  opBadParameter := -5

def holding (R : Bytes) : Mmc Unit :=
  { replying R with runCmd := fun _ cdb _ _ s => ((0, R.take cdb.allocationLength), s) }

/-- The device that runs every command as `m` does, and keeps notes beside its state, which
`note` revises after each command. -/
def watched {ω : Type} (m : Mmc σ) (note : Cdb → Bytes → Stored → ω → ω) : Mmc (σ × ω) where
  runCmd timeout cdb direction buf s :=
    let r := m.runCmd timeout cdb direction buf s.1
    (r.1, r.2, note cdb buf r.1 s.2)
  lastCmdSense s :=
    let r := m.lastCmdSense s.1
    (r.1, r.2, s.2)
  getConfiguration buf start rt count s :=
    let r := m.getConfiguration buf start rt count s.1
    (r.1, r.2, s.2)
  opUnsupported := m.opUnsupported
  opNotPermitted := m.opNotPermitted
  opBadParameter := m.opBadParameter

/-- The device that runs every command as `m` does, and notes for each its CDB and the length
of its buffer. -/
def logging (m : Mmc σ) : Mmc (σ × List (Cdb × Nat)) where
  runCmd timeout cdb direction buf s :=
    let r := m.runCmd timeout cdb direction buf s.1
    (r.1, r.2, s.2 ++ [(cdb, buf.length)])
  lastCmdSense s :=
    let r := m.lastCmdSense s.1
    (r.1, r.2, s.2)
  getConfiguration buf start rt count s :=
    let r := m.getConfiguration buf start rt count s.1
    (r.1, r.2, s.2)
  opUnsupported := m.opUnsupported
  opNotPermitted := m.opNotPermitted
  opBadParameter := m.opBadParameter

theorem holding_holds (R : Bytes) : (holding R).Holds R :=
  fun _ _ _ _ _ => ⟨Int32.le_refl 0, rfl⟩

theorem replying_answersWith (d : Bytes) : (replying d).AnswersWith () d := by
  intro timeout cdb direction buf hlen
  refine ⟨Int32.le_refl 0, ?_⟩
  simp [replying, overwrite_of_le (Nat.le_of_eq hlen.symm), hlen]

section RunCommand
variable {m : Mmc σ} {s : σ}

theorem runCommand_ok {direction : Option MmcDirection} {buf : Bytes} {cdb : Cdb}
    (hlen : buf.length < 2 ^ 32)
    (hret : 0 ≤ (m.runCmd defaultTimeoutMs cdb (dataDirection direction) buf s).1.1) :
    m.runCommand direction buf cdb s =
      .ret (.ok (overwrite buf (m.runCmd defaultTimeoutMs cdb (dataDirection direction) buf s).1.2),
        (m.runCmd defaultTimeoutMs cdb (dataDirection direction) buf s).2) := by
  simp only [runCommand, if_pos hlen, Act.call_bind_apply, if_pos hret]
  rfl

theorem senseData_apply (m : Mmc σ) (s : σ) :
    (m.senseData : Act σ ε (Option MmcSenseData)) s =
      .ret (.ok (if (m.lastCmdSense s).1.1 ≤ 0 then none
        else (m.lastCmdSense s).1.2.map RequestSense.toMmcSenseData), (m.lastCmdSense s).2) := by
  simp only [senseData, Act.call_bind_apply]
  split <;> rfl

theorem runCommand_error {ω : Type} {direction : Option MmcDirection} {buf : Bytes} {cdb : Cdb}
    (hlen : buf.length < 2 ^ 32)
    (hret : ¬ 0 ≤ (m.runCmd defaultTimeoutMs cdb (dataDirection direction) buf s).1.1)
    (note : Cdb → Bytes → Stored → ω → ω) (o : ω) :
    ∃ e s', m.runCommand direction buf cdb s = .ret (.error e, s') ∧
      (m.watched note).runCommand direction buf cdb (s, o) = .ret (.error e, s',
        note cdb buf (m.runCmd defaultTimeoutMs cdb (dataDirection direction) buf s).1 o) := by
  simp only [runCommand, if_pos hlen, Act.call_bind_apply, watched, if_neg hret]
  by_cases hsense : (m.runCmd defaultTimeoutMs cdb (dataDirection direction) buf s).1.1 = -1
  · simp only [if_pos hsense]
    rw [Act.bind_ok (senseData_apply _ _), Act.bind_ok (senseData_apply _ _)]
    cases (if (m.lastCmdSense _).1.1 ≤ 0 then none
      else (m.lastCmdSense _).1.2.map RequestSense.toMmcSenseData) with
    | none => exact ⟨_, _, rfl, rfl⟩
    | some sense => exact ⟨_, _, rfl, rfl⟩
  · simp only [if_neg hsense]
    exact ⟨_, _, rfl, rfl⟩

theorem runCommand_logging (m : Mmc σ) (s : σ) (log : List (Cdb × Nat))
    (direction : Option MmcDirection) (buf : Bytes) (cdb : Cdb) (hlen : buf.length < 2 ^ 32) :
    ∃ r s', m.runCommand direction buf cdb s = .ret (r, s') ∧
      m.logging.runCommand direction buf cdb (s, log) =
        .ret (r, s', log ++ [(cdb, buf.length)]) := by
  by_cases hret : 0 ≤ (m.runCmd defaultTimeoutMs cdb (dataDirection direction) buf s).1.1
  · exact ⟨_, _, runCommand_ok hlen hret, runCommand_ok (m := m.logging) (s := (s, log)) hlen hret⟩
  · obtain ⟨e, s', h, hlog⟩ := runCommand_error hlen hret
      (fun cdb buf _ log => log ++ [(cdb, buf.length)]) log
    exact ⟨_, s', h, hlog⟩

theorem runCommand_sat (m : Mmc σ) (s : σ) (direction : Option MmcDirection) (buf : Bytes)
    (cdb : Cdb) (hlen : buf.length < 2 ^ 32) :
    (m.runCommand direction buf cdb s).Sat
      (Act.post (fun buf' _ => buf'.length = buf.length) fun _ _ => True) fun _ => False := by
  by_cases hret : 0 ≤ (m.runCmd defaultTimeoutMs cdb (dataDirection direction) buf s).1.1
  · rw [runCommand_ok hlen hret]
    exact length_overwrite _ _
  · obtain ⟨e, s', h, _⟩ := runCommand_error hlen hret (fun _ _ _ => id) ()
    rw [h]
    trivial

theorem runCommand_answer {d : Bytes} (h : m.AnswersWith s d) (buf : Bytes)
    (hlen : buf.length = d.length) (hd : d.length < 2 ^ 32) (direction : Option MmcDirection)
    (cdb : Cdb) : ∃ s', m.runCommand direction buf cdb s = .ret (.ok d, s') := by
  obtain ⟨hret, hstored⟩ := h defaultTimeoutMs cdb (dataDirection direction) buf hlen
  exact ⟨_, by rw [runCommand_ok (by omega) hret, hstored]⟩

theorem runCommand_holds {R : Bytes} (h : m.Holds R) (buf : Bytes) (hlen : buf.length < 2 ^ 32)
    (direction : Option MmcDirection) (cdb : Cdb) :
    ∃ s', m.runCommand direction buf cdb s =
      .ret (.ok (overwrite buf (R.take cdb.allocationLength)), s') := by
  obtain ⟨hret, hstored⟩ := h defaultTimeoutMs cdb (dataDirection direction) buf s
  exact ⟨_, by rw [runCommand_ok hlen hret, hstored]⟩

end RunCommand

end Mmc

end LibcdioRs
