import LibcdioRs.Cdio
import LibcdioRs.Mmc.Methods

/-!
# MMC commands over libcdio

`Mmc.ofLibrary` is the device that a libcdio offers behind one handle. Running
`run_command` down to the calls of libcdio is running it on this device, sense
block and all. So what holds of the methods for every `Mmc` holds over every
libcdio; and whatever they do there, they leave its memory as they found it.
-/

namespace LibcdioRs

open Rust Parse Foreign
set_option autoImplicit false

variable {σ : Type}

abbrev Libcdio (σ : Type) : Type := Library (Cmd LibCall) (Cmd.Reply LibCall.Reply) σ Known

def Mmc.ofLibrary (L : Libcdio σ) (codes : ReturnCodes) (cdio : Ptr) : Mmc σ where
  runCmd timeout cdb direction buf s :=
    L.reply (.foreign (.cdioQuery cdio (.runCmd timeout cdb direction buf))) s
  -- The sense block is copied and freed.
  lastCmdSense s :=
    let sense : (Int32 × Option Ptr) × σ := L.reply (.foreign (.mmcLastCmdSense cdio)) s
    if sense.1.1 ≤ 0 then ((sense.1.1, none), sense.2)
    else
      match sense.1.2 with
      | none => ((sense.1.1, none), sense.2)
      | some p =>
        let block : RequestSense × σ := L.reply (.foreign (.readSense p)) sense.2
        let freed : Unit × σ := L.reply (.foreign (.freeSense p)) block.2
        ((sense.1.1, some block.1), freed.2)
  getConfiguration buf start rt count s :=
    L.reply (.foreign (.cdioQuery cdio (.getConfiguration buf start rt count))) s
  opUnsupported := codes.opUnsupported
  opNotPermitted := codes.opNotPermitted
  opBadParameter := codes.opBadParameter

section Refinement
variable {L : Libcdio σ} {codes : ReturnCodes} {cdio : Ptr} {s : σ}

theorem run_senseData : (MmcDevice.senseData cdio).run L s =
    let sense : (Int32 × Option Ptr) × σ := L.reply (.foreign (.mmcLastCmdSense cdio)) s
    Prog.run L
      (if sense.1.1 ≤ 0 then return none
      else
        match sense.1.2 with
        | none => return none
        | some p => do
          let block : RequestSense ← ffi (.readSense p)
          ffi (.freeSense p)
          return some block.toMmcSenseData) sense.2 := rfl

theorem senseData_run {ε : Type} (L : Libcdio σ) (codes : ReturnCodes) (cdio : Ptr) (s : σ) :
    ((Mmc.ofLibrary L codes cdio).senseData : Act σ ε (Option MmcSenseData)) s =
      (MmcDevice.senseData cdio).run L s >>= fun r => .ret (.ok r.1, r.2) := by
  rw [Mmc.senseData_apply, run_senseData]
  simp only [Mmc.ofLibrary]
  generalize (L.reply (.foreign (.mmcLastCmdSense cdio)) s : (Int32 × Option Ptr) × σ) = r
  rcases r with ⟨⟨ret, sense⟩, t⟩
  by_cases hret : ret ≤ 0
  · simp only [if_pos hret]
    rfl
  · simp only [if_neg hret]
    cases sense with
    | none =>
      simp only [if_neg hret]
      rfl
    | some p =>
      simp only [if_neg hret]
      rfl

theorem run_runCommand (direction : Option MmcDirection) {buf : Bytes} (cdb : Cdb)
    (hbuf : buf.length < 2 ^ 32) :
    (MmcDevice.runCommand codes cdio direction buf cdb).run L s =
      let stored : Stored × σ := (Mmc.ofLibrary L codes cdio).runCmd Mmc.defaultTimeoutMs cdb
        (Mmc.dataDirection direction) buf s
      Prog.run L
        (if 0 ≤ stored.1.1 then return .ok (overwrite buf stored.1.2)
        else if stored.1.1 = -1 then do
          match ← MmcDevice.senseData cdio with
          | some senseData => return .error (.checkCondition senseData)
          | none => return .error (.os (codes.osError stored.1.1))
        else return .error (.os (codes.osError stored.1.1))) stored.2 := by
  rw [MmcDevice.runCommand, if_pos hbuf]
  rfl

/-- `run_command` on the calls of libcdio is `run_command` on the device. -/
theorem runCommand_run (direction : Option MmcDirection) (buf : Bytes) (cdb : Cdb) :
    (MmcDevice.runCommand codes cdio direction buf cdb).run L s =
      (Mmc.ofLibrary L codes cdio).runCommand direction buf cdb s := by
  by_cases hbuf : buf.length < 2 ^ 32
  · rw [run_runCommand direction cdb hbuf]
    simp only [Mmc.runCommand, if_pos hbuf, Act.call_bind_apply]
    generalize (Mmc.ofLibrary L codes cdio).runCmd Mmc.defaultTimeoutMs cdb
      (Mmc.dataDirection direction) buf s = r
    rcases r with ⟨⟨ret, stored⟩, t⟩
    by_cases hret : 0 ≤ ret
    · simp only [if_pos hret]
      rfl
    · by_cases hsense : ret = -1
      · simp only [if_neg hret, if_pos hsense, Prog.run_bind]
        rw [Act.bind_apply, Act.bind, senseData_run]
        cases (MmcDevice.senseData cdio).run L t with
        | ret r =>
          rcases r with ⟨sense, t'⟩
          cases sense with
          | none => rfl
          | some sense => rfl
        | panic why => rfl
        | spin => rfl
      · simp only [if_neg hret, if_neg hsense]
        rfl
  · simp only [MmcDevice.runCommand, Mmc.runCommand, if_neg hbuf]
    rfl

/-- The check of a constructor is `is_mmc_device` on the device; an error counts as `false`. -/
theorem isMmcDevice_run :
    (MmcDevice.isMmcDevice codes cdio).run L s =
      (Mmc.ofLibrary L codes cdio).isMmcDevice s >>= fun r =>
        .ret (r.1.toOption.getD false, r.2) := by
  unfold MmcDevice.isMmcDevice Mmc.isMmcDevice Mmc.inquiry
  generalize List.replicate Inquiry.allocLen (0 : UInt8) = buf
  rw [Prog.run_bind, runCommand_run, Act.bind_apply, Act.bind, Act.mapError]
  cases (Mmc.ofLibrary L codes cdio).runCommand (some .read) buf InquiryKind.standard.cdb s with
  | ret r =>
    rcases r with ⟨response, t⟩
    cases response with
    | error e => rfl
    | ok response =>
      simp only [Exec.ret_bind, Except.mapError]
      cases hb : Inquiry.isCdDvd response with
      | ret b => rfl
      | panic why => rfl
      | spin => rfl
  | panic why => rfl
  | spin => rfl

/-- What `Mmc` does by calls of libcdio is what it does on the device that libcdio offers. -/
theorem mmcDevice_refines (L : Libcdio σ) (codes : ReturnCodes) (cdio : Ptr) (s : σ) :
    (∀ direction buf cdb, (MmcDevice.runCommand codes cdio direction buf cdb).run L s =
      (Mmc.ofLibrary L codes cdio).runCommand direction buf cdb s) ∧
    ((Mmc.ofLibrary L codes cdio).senseData : Act σ MmcError (Option MmcSenseData)) s =
      ((MmcDevice.senseData cdio).run L s >>= fun r => .ret (.ok r.1, r.2)) ∧
    (MmcDevice.isMmcDevice codes cdio).run L s =
      (Mmc.ofLibrary L codes cdio).isMmcDevice s >>= fun r =>
        .ret (r.1.toOption.getD false, r.2) :=
  ⟨runCommand_run, senseData_run L codes cdio s, isMmcDevice_run⟩

end Refinement

section Frame
variable {L : Libcdio σ} {codes : ReturnCodes} {bound : Nat} {cells : Cells} {p : Ptr}

/-- What a program leaves as it is, a library that keeps the contract leaves as it is. -/
theorem holds_run {α : Type} {x : Ffi α} {s : σ} (hL : L.Keeps (rules bound))
    (hx : x.Sat (rules bound) (L.view s) fun _ l' => Holds .free true cells l') {a : α} {s' : σ}
    (hrun : x.run L s = .ret (a, s')) : Holds .free true cells (L.view s') := by
  obtain ⟨_, a', t, hret, ht⟩ := Prog.run_of_sat hL hx
  rw [hrun] at hret
  cases hret
  exact ht

theorem ofLibrary_leaves (hL : L.Keeps (rules bound)) (hp : cdioCell p ∈ cells) :
    (Mmc.ofLibrary L codes p).Leaves fun s => Holds .free true cells (L.view s) where
  runCmd timeout cdb direction buf s h :=
    holds_run (x := ffi (.cdioQuery p (.runCmd timeout cdb direction buf))) hL
      (cdioQuery_sat h hp) rfl
  lastCmdSense s h := by
    have hsense := senseData_run (ε := MmcError) L codes p s
    rw [Mmc.senseData_apply] at hsense
    cases hrun : (MmcDevice.senseData p).run L s with
    | ret r =>
      rw [hrun] at hsense
      have hstate := congrArg Prod.snd (Exec.ret.inj hsense)
      rw [hstate]
      exact holds_run hL (senseData_sat h hp) hrun
    | panic why => rw [hrun] at hsense; cases hsense
    | spin => rw [hrun] at hsense; cases hsense
  getConfiguration buf start rt count s h :=
    holds_run (x := ffi (.cdioQuery p (.getConfiguration buf start rt count))) hL
      (cdioQuery_sat h hp) rfl

/-- After any methods on a device, libcdio's memory is what it was: the handle is open, no sense
block is left. -/
theorem mmcMethods_keep_memory (T : Target) (W : Winnow) (hL : L.Keeps (rules bound))
    (hp : cdioCell p ∈ cells) (methods : List MmcMethod) {s s' : σ}
    (hs : Holds .free true cells (L.view s))
    (hrun : MmcMethod.runAll T W (Mmc.ofLibrary L codes p) methods s = .ret s') :
    Holds .free true cells (L.view s') :=
  MmcMethod.runAll_keeps (ofLibrary_leaves hL hp) methods hs hrun

end Frame

end LibcdioRs
