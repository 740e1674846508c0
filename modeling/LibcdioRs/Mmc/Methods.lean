import LibcdioRs.Mmc.Commands
import LibcdioRs.Mmc.GetConfig
import LibcdioRs.Shared.Frame

/-!
# The methods of `Mmc`

All public methods in one type. They work on the device through three functions
of libcdio and in no other way: a sequence of methods keeps whatever these three
keep, and the command blocks that it sends tell the methods.
-/

namespace LibcdioRs

open Rust Parse
set_option autoImplicit false

variable {σ : Type}

inductive MmcMethod where
  | features
  | supportedEvents
  | operationalEventStatus
  | powerStatus
  | externalStatus
  | mediaStatus
  | multihostStatus
  | busyStatus
  | isTrayOpen
  | hardwareIdentifiers
  | allowMediaRemoval
  | preventMediaRemoval
  | readCd (options : ReadCdOptions) (sector : UInt32) (count : UInt16) (buf : Bytes)
  | isDiscErasable
  | audioStatus
  | mediaCatalogNumber
  | isrc (trackNumber : TrackNumber)
  | cdCurrentPosition
  | cdText
  | cdType
  | lastSector
  | setCdSpeed (rotationMode : RotationMode) (readSpeed writeSpeed : UInt16)
  | eject
  | closeTray
  | setPowerState (state : PowerCondition)
  | testUnitReady
  | senseData

namespace MmcMethod

/-- The state of the device after the method, whether it has succeeded or not. -/
def run (T : Target) (W : Winnow) (m : Mmc σ) (s : σ) : MmcMethod → Exec σ
  | features => Prod.snd <$> m.features T s
  | supportedEvents => Prod.snd <$> m.supportedEvents T W s
  | operationalEventStatus => Prod.snd <$> m.operationalEventStatus T W s
  | powerStatus => Prod.snd <$> m.powerStatus T W s
  | externalStatus => Prod.snd <$> m.externalStatus T W s
  | mediaStatus => Prod.snd <$> m.mediaStatus T W s
  | multihostStatus => Prod.snd <$> m.multihostStatus T W s
  | busyStatus => Prod.snd <$> m.busyStatus T W s
  | isTrayOpen => Prod.snd <$> m.isTrayOpen T W s
  | hardwareIdentifiers => Prod.snd <$> m.hardwareIdentifiers s
  | allowMediaRemoval => Prod.snd <$> m.allowMediaRemoval s
  | preventMediaRemoval => Prod.snd <$> m.preventMediaRemoval s
  | readCd options sector count buf => Prod.snd <$> m.readCd options sector count buf s
  | isDiscErasable => Prod.snd <$> m.isDiscErasable s
  | audioStatus => Prod.snd <$> m.audioStatus W s
  | mediaCatalogNumber => Prod.snd <$> m.mediaCatalogNumber W s
  | isrc trackNumber => Prod.snd <$> m.isrc W trackNumber s
  | cdCurrentPosition => Prod.snd <$> m.cdCurrentPosition W s
  | cdText => Prod.snd <$> m.cdText W s
  | cdType => Prod.snd <$> m.cdType W s
  | lastSector => Prod.snd <$> m.lastSector W s
  | setCdSpeed rotationMode readSpeed writeSpeed =>
    Prod.snd <$> m.setCdSpeed rotationMode readSpeed writeSpeed s
  | eject => Prod.snd <$> m.eject s
  | closeTray => Prod.snd <$> m.closeTray s
  | setPowerState state => Prod.snd <$> m.setPowerState state s
  | testUnitReady => Prod.snd <$> m.testUnitReady s
  | senseData => Prod.snd <$> (m.senseData : Act σ MmcError _) s

/-- What the method asks of the drive. The other two methods call libcdio for it. -/
def command : MmcMethod → Option Command
  | features => none
  | supportedEvents => some (.request (.getEventStatus .polled .empty))
  | operationalEventStatus => some (.request (.getEventStatus .polled .operationalChange))
  | powerStatus => some (.request (.getEventStatus .polled .powerManagement))
  | externalStatus => some (.request (.getEventStatus .polled .externalRequest))
  | mediaStatus => some (.request (.getEventStatus .polled .media))
  | multihostStatus => some (.request (.getEventStatus .polled .multiHost))
  | busyStatus => some (.request (.getEventStatus .polled .deviceBusy))
  | isTrayOpen => some (.request (.getEventStatus .polled .media))
  | hardwareIdentifiers => some (.inquiry .standard)
  | allowMediaRemoval => some (.preventAllowMediumRemoval .clear)
  | preventMediaRemoval => some (.preventAllowMediumRemoval .set)
  | readCd options sector count _ => some (.request (.readCd options sector count))
  | isDiscErasable => some (.readDiscInformation .standard)
  | audioStatus => some (.request (.readSubchannel .lba .cdCurrentPosition))
  | mediaCatalogNumber => some (.request (.readSubchannel .lba .mcn))
  | isrc trackNumber => some (.request (.readSubchannel .lba (.isrc trackNumber.number)))
  | cdCurrentPosition => some (.request (.readSubchannel .time .cdCurrentPosition))
  | cdText => some (.request (.readToc .cdtext))
  | cdType => some (.request (.readToc (.fullToc 0)))
  | lastSector => some (.request (.readToc (.toc .lba leadoutTrack)))
  | setCdSpeed rotationMode readSpeed writeSpeed =>
    some (.request (.setCdSpeed rotationMode readSpeed writeSpeed))
  | eject => some (.request (.startStopUnit .ejectDisc))
  | closeTray => some (.request (.startStopUnit .loadStartDisc))
  | setPowerState state => some (.request (.startStopUnit (.power state)))
  | testUnitReady => some .testUnitReady
  | senseData => none

def runAll (T : Target) (W : Winnow) (m : Mmc σ) (methods : List MmcMethod) (s : σ) : Exec σ :=
  methods.foldlM (fun s q => q.run T W m s) s

end MmcMethod

namespace Mmc
open Act ReadSubchannel

/-- Commands whose block satisfies `P` lead from `I` to `J`, and keep `J`. -/
structure Sends (m : Mmc σ) (P : Cdb → Prop) (I J : σ → Prop) : Prop where
  first : ∀ timeout cdb direction buf s, P cdb → I s → J (m.runCmd timeout cdb direction buf s).2
  again : ∀ timeout cdb direction buf s, P cdb → J s → J (m.runCmd timeout cdb direction buf s).2
  sense : ∀ s, J s → J (m.lastCmdSense s).2

namespace Sends
variable {m : Mmc σ} {P : Cdb → Prop} {I J : σ → Prop} (h : m.Sends P I J)
include h

theorem repeated : m.Sends P J J := ⟨h.again, h.again, h.sense⟩

theorem runCommand (direction : Option MmcDirection) (buf : Bytes) {cdb : Cdb} (hP : P cdb) :
    Leads I J (m.runCommand direction buf cdb) := by
  apply Leads.ite _ (.panic _)
  apply Leads.bind (.call fun s => h.first _ _ _ _ s hP)
  rintro ⟨ret, stored⟩
  apply Leads.ite (Keeps.pure _)
  apply Leads.ite _ (Keeps.fail _)
  apply Leads.bind
  · apply Leads.bind (.call h.sense)
    rintro ⟨ret, sense⟩
    exact .ite (Keeps.pure _) (Keeps.pure _)
  · intro sense
    cases sense with
    | none => exact Keeps.fail _
    | some sense => exact Keeps.fail _

/-- The methods that do nothing with the answer of their command. -/
theorem send {ε : Type} {f : MmcError → ε} {direction : Option MmcDirection} {buf : Bytes}
    {cdb : Cdb} (hP : P cdb) :
    Leads I J (mapError f (m.runCommand direction buf cdb) >>= fun _ => pure ()) :=
  .bind (.mapError (h.runCommand _ _ hP)) fun _ => Keeps.pure _

theorem readToc {format : ReadToc.ResponseFormat}
    (hP : ∀ len, P (format.cdb.setAllocationLength len)) : Leads I J (m.readToc format) := by
  apply Leads.bind (.mapError (h.runCommand _ _ (hP _)))
  intro buf
  apply Leads.bind (Keeps.lift _)
  intro len
  apply Leads.ite _ (Keeps.pure _)
  apply Leads.mapError (h.repeated.runCommand _ _ _)
  rw [Command.setAllocationLength_set]
  exact hP _

theorem readDiscInformation {kind : DiscInfoKind}
    (hP : ∀ len, P (kind.cdb.setAllocationLength len)) :
    Leads I J (m.readDiscInformation kind) := by
  apply Leads.bind (.mapError (h.runCommand _ _ (hP _)))
  intro buf
  apply Leads.bind (Keeps.lift _)
  intro len
  apply Leads.ite _ (Keeps.pure _)
  apply Leads.bind (.mapError (h.repeated.runCommand _ _ _)) fun _ => Keeps.pure _
  rw [Command.setAllocationLength_set]
  exact hP _

theorem eventStatus {α : Type} {T : Target} {W : Winnow} {eventClass : EventClass}
    {descriptor : Act Bytes MmcStatusError α}
    (hP : P ((GetEventStatus.cdb .polled eventClass).setAllocationLength 12)) :
    Leads I J (m.eventStatus T W eventClass descriptor) := by
  apply Leads.bind (.mapError (h.runCommand _ _ hP))
  intro data
  exact .bind (Keeps.onLocals _ _) fun _ => Keeps.pure _

theorem subchannel {α : Type} {W : Winnow} {addressFormat : AddressFormat}
    {param : SubchannelParameter} {descriptor : Act Bytes MmcSubchannelError α}
    (hP : P ((ReadSubchannel.cdb addressFormat param).setAllocationLength 24)) :
    Leads I J (m.subchannel W addressFormat param descriptor) := by
  apply Leads.bind (.mapError (h.runCommand _ _ hP))
  intro data
  exact .bind (Keeps.onLocals _ _) fun _ => Keeps.pure _

theorem supportedEvents {T : Target} {W : Winnow}
    (hP : P ((GetEventStatus.cdb .polled .empty).setAllocationLength 12)) :
    Leads I J (m.supportedEvents T W) := by
  apply Leads.bind (.mapError (h.runCommand _ _ hP))
  intro data
  exact .bind (Keeps.onLocals _ _) fun _ => Keeps.pure _

theorem audioStatus {W : Winnow}
    (hP : P ((ReadSubchannel.cdb .lba .cdCurrentPosition).setAllocationLength 24)) :
    Leads I J (m.audioStatus W) := by
  apply Leads.bind (.mapError (h.runCommand _ _ hP))
  intro data
  apply Leads.bind (.mapError (Keeps.onLocals _ _))
  rintro ⟨status, _⟩
  cases status with
  | none => exact Keeps.fail _
  | some status => exact Keeps.pure _

theorem hardwareIdentifiers (hP : P InquiryKind.standard.cdb) :
    Leads I J m.hardwareIdentifiers := by
  apply Leads.bind (.mapError (.mapError (h.runCommand _ _ hP)))
  intro buf
  apply Leads.bind (Keeps.lift _)
  intro b
  apply Leads.ite (Keeps.fail _)
  apply Leads.bind (Keeps.lift _)
  intro vendor
  apply Leads.bind (Keeps.lift _)
  intro product
  exact .bind (Keeps.lift _) fun _ => Keeps.pure _

theorem lastSector {W : Winnow}
    (hP : ∀ len, P ((ReadToc.ResponseFormat.toc .lba leadoutTrack).cdb.setAllocationLength len)) :
    Leads I J (m.lastSector W) := by
  apply Leads.bind (h.readToc hP)
  intro data
  exact .bind (Keeps.onLocals _ _) fun _ => Keeps.pure _

theorem cdType {W : Winnow}
    (hP : ∀ len, P ((ReadToc.ResponseFormat.fullToc 0).cdb.setAllocationLength len)) :
    Leads I J (m.cdType W) := by
  apply Leads.bind (h.readToc hP)
  intro data
  apply Leads.bind (Keeps.onLocals _ _)
  rintro ⟨⟨_, _, _, _, _, _, _, _, _, psec, _⟩, _⟩
  dsimp only
  cases tryFrom CdType psec.toNat with
  | none => exact Keeps.fail _
  | some cdType => exact Keeps.pure _

theorem cdText {W : Winnow}
    (hP : ∀ len, P (ReadToc.ResponseFormat.cdtext.cdb.setAllocationLength len)) :
    Leads I J (m.cdText W) := by
  apply Leads.bind (h.readToc hP)
  intro data
  apply Leads.bind (Keeps.onLocals _ _)
  intro header
  exact .bind (Keeps.lift _) fun _ => Keeps.pure _

theorem isDiscErasable (hP : ∀ len, P (DiscInfoKind.standard.cdb.setAllocationLength len)) :
    Leads I J m.isDiscErasable := by
  apply Leads.bind (h.readDiscInformation hP)
  intro data
  exact .bind (Keeps.lift _) fun _ => Keeps.pure _

end Sends

/-- The functions of libcdio on the device keep `I`. -/
structure Leaves (m : Mmc σ) (I : σ → Prop) : Prop where
  runCmd : ∀ timeout cdb direction buf s, I s → I (m.runCmd timeout cdb direction buf s).2
  lastCmdSense : ∀ s, I s → I (m.lastCmdSense s).2
  getConfiguration : ∀ buf start rt count s, I s → I (m.getConfiguration buf start rt count s).2

variable {m : Mmc σ} {I J : σ → Prop}

theorem Leaves.sends (h : m.Leaves I) (P : Cdb → Prop) : m.Sends P I I where
  first _ _ _ _ _ _ hs := h.runCmd _ _ _ _ _ hs
  again _ _ _ _ _ _ hs := h.runCmd _ _ _ _ _ hs
  sense _ hs := h.lastCmdSense _ hs

theorem leads_senseData {ε : Type} (h : ∀ s, I s → J (m.lastCmdSense s).2) :
    Leads I J (m.senseData : Act σ ε (Option MmcSenseData)) := by
  apply Leads.bind (.call h)
  rintro ⟨ret, sense⟩
  exact .ite (Keeps.pure _) (Keeps.pure _)

theorem leads_features {T : Target}
    (h : ∀ buf start rt count s, I s → J (m.getConfiguration buf start rt count s).2) :
    Leads I J (m.features T) := by
  apply Leads.bind (.call fun s => h _ _ _ _ s)
  rintro ⟨retval, stored⟩
  apply Leads.ite (Keeps.fail _)
  apply Leads.bind
  · apply Leads.bind (Keeps.lift _)
    intro len
    apply Leads.bind (Keeps.lift _)
    intro expected
    apply Leads.ite (Keeps.fail _)
    apply Leads.bind (Keeps.lift _)
    intro bufEnd
    exact .bind (Keeps.lift _) fun _ => Keeps.lift _
  · intro dtors
    exact .bind (Keeps.onLocals _ _) fun _ => Keeps.pure _

end Mmc

namespace MmcMethod
variable {T : Target} {W : Winnow} {m : Mmc σ} {I J : σ → Prop}

theorem leads_snd {ε α : Type} {x : Act σ ε α} (hx : Act.Leads I J x) {s s' : σ} (hs : I s)
    (h : Prod.snd <$> x s = .ret s') : J s' := by
  rw [Exec.map_eq] at h
  cases hxs : x s with
  | ret p =>
    rw [hxs] at h
    cases h
    exact hx.after hs hxs
  | panic why => rw [hxs] at h; cases h
  | spin => rw [hxs] at h; cases h

/-- A method sends blocks of its command, one at least. -/
theorem run_leads {c : Command} {q : MmcMethod} (hq : q.command = some c)
    (h : m.Sends (fun cdb => Command.ofCdb cdb = some c) I J) {s s' : σ} (hs : I s)
    (hrun : q.run T W m s = .ret s') : J s' := by
  cases q with
  | features => cases hq
  | senseData => cases hq
  | supportedEvents => cases hq; exact leads_snd (h.supportedEvents rfl) hs hrun
  | operationalEventStatus => cases hq; exact leads_snd (h.eventStatus rfl) hs hrun
  | powerStatus => cases hq; exact leads_snd (h.eventStatus rfl) hs hrun
  | externalStatus => cases hq; exact leads_snd (h.eventStatus rfl) hs hrun
  | mediaStatus => cases hq; exact leads_snd (h.eventStatus rfl) hs hrun
  | multihostStatus => cases hq; exact leads_snd (h.eventStatus rfl) hs hrun
  | busyStatus => cases hq; exact leads_snd (h.eventStatus rfl) hs hrun
  | isTrayOpen =>
    cases hq
    exact leads_snd (.bind (h.eventStatus rfl) fun _ => .pure _) hs hrun
  | hardwareIdentifiers =>
    cases hq
    exact leads_snd (h.hardwareIdentifiers (Command.ofCdb_inquiry _)) hs hrun
  | allowMediaRemoval => cases hq; exact leads_snd (h.send (Command.ofCdb_prevent _)) hs hrun
  | preventMediaRemoval => cases hq; exact leads_snd (h.send (Command.ofCdb_prevent _)) hs hrun
  | readCd options sector count buf =>
    cases hq
    have hP := Command.ofCdb_request (Request.ofCdb_readCd options sector count)
    exact leads_snd (.mapError (h.runCommand _ _ hP)) hs hrun
  | isDiscErasable =>
    cases hq
    exact leads_snd (h.isDiscErasable (Command.ofCdb_readDiscInformation _)) hs hrun
  | audioStatus =>
    cases hq
    refine leads_snd (h.audioStatus ?_) hs hrun
    exact Command.ofCdb_request (Request.ofCdb_readSubchannel _ _)
  | mediaCatalogNumber =>
    cases hq
    refine leads_snd (h.subchannel ?_) hs hrun
    exact Command.ofCdb_request (Request.ofCdb_readSubchannel _ _)
  | isrc trackNumber =>
    cases hq
    refine leads_snd (h.subchannel ?_) hs hrun
    exact Command.ofCdb_request (Request.ofCdb_readSubchannel _ _)
  | cdCurrentPosition =>
    cases hq
    refine leads_snd (h.subchannel ?_) hs hrun
    exact Command.ofCdb_request (Request.ofCdb_readSubchannel _ _)
  | cdText => cases hq; exact leads_snd (h.cdText (Command.ofCdb_readToc _)) hs hrun
  | cdType => cases hq; exact leads_snd (h.cdType (Command.ofCdb_readToc _)) hs hrun
  | lastSector => cases hq; exact leads_snd (h.lastSector (Command.ofCdb_readToc _)) hs hrun
  | setCdSpeed rotationMode readSpeed writeSpeed =>
    cases hq
    have hP := Command.ofCdb_request (Request.ofCdb_setCdSpeed rotationMode readSpeed writeSpeed)
    exact leads_snd (h.send hP) hs hrun
  | eject => cases hq; exact leads_snd (.mapError (h.send rfl)) hs hrun
  | closeTray => cases hq; exact leads_snd (.mapError (h.send rfl)) hs hrun
  | setPowerState state =>
    cases hq
    have hP := Command.ofCdb_request (Request.ofCdb_startStopUnit (.power state))
    exact leads_snd (.mapError (h.send hP)) hs hrun
  | testUnitReady => cases hq; exact leads_snd (h.send Command.ofCdb_testUnitReady) hs hrun

theorem run_other {q : MmcMethod} (hq : q.command = none)
    (hsense : ∀ s, I s → J (m.lastCmdSense s).2)
    (hconf : ∀ buf start rt count s, I s → J (m.getConfiguration buf start rt count s).2)
    {s s' : σ} (hs : I s) (hrun : q.run T W m s = .ret s') : J s' := by
  cases q with
  | features => exact leads_snd (Mmc.leads_features hconf) hs hrun
  | senseData => exact leads_snd (Mmc.leads_senseData hsense) hs hrun
  | _ => cases hq

theorem run_keeps (h : m.Leaves I) (q : MmcMethod) {s s' : σ} (hs : I s)
    (hrun : q.run T W m s = .ret s') : I s' := by
  cases hq : q.command with
  | some c => exact run_leads hq (h.sends _) hs hrun
  | none => exact run_other hq h.lastCmdSense h.getConfiguration hs hrun

theorem runAll_cons {q : MmcMethod} {methods : List MmcMethod} {s s' : σ}
    (hrun : runAll T W m (q :: methods) s = .ret s') :
    ∃ t, q.run T W m s = .ret t ∧ runAll T W m methods t = .ret s' := by
  rw [runAll, List.foldlM_cons] at hrun
  cases hq : q.run T W m s with
  | ret t =>
    rw [hq] at hrun
    exact ⟨t, rfl, hrun⟩
  | panic why => rw [hq] at hrun; cases hrun
  | spin => rw [hq] at hrun; cases hrun

theorem runAll_keeps (h : m.Leaves I) (methods : List MmcMethod) :
    ∀ {s s'}, I s → runAll T W m methods s = .ret s' → I s' := by
  induction methods with
  | nil =>
    intro s s' hs hrun
    cases hrun
    exact hs
  | cons q methods ih =>
    intro s s' hs hrun
    obtain ⟨t, hq, hrest⟩ := runAll_cons hrun
    exact ih (run_keeps h q hs hq) hrest

section Log

/-- The blocks are what the method has sent: one or more of its command. -/
def Sent (q : MmcMethod) (blocks : List (Cdb × Nat)) : Prop :=
  match q.command with
  | some c => blocks ≠ [] ∧ ∀ x ∈ blocks, Command.ofCdb x.1 = some c
  | none => blocks = []

theorem run_sent (q : MmcMethod) {s s' : σ × List (Cdb × Nat)}
    (hrun : q.run T W m.logging s = .ret s') : ∃ blocks, s'.2 = s.2 ++ blocks ∧ q.Sent blocks := by
  let I : σ × List (Cdb × Nat) → Prop := fun t => t.2 = s.2
  unfold Sent
  cases hq : q.command with
  | none =>
    have hsame : I s' :=
      run_other hq (I := I) (J := I) (fun _ h => h) (fun _ _ _ _ _ h => h) rfl hrun
    exact ⟨[], by rw [hsame, List.append_nil], rfl⟩
  | some c =>
    let J : σ × List (Cdb × Nat) → Prop := fun t =>
      ∃ blocks, t.2 = s.2 ++ blocks ∧ blocks ≠ [] ∧ ∀ x ∈ blocks, Command.ofCdb x.1 = some c
    have hsends : m.logging.Sends (fun cdb => Command.ofCdb cdb = some c) I J := by
      refine ⟨?_, ?_, fun _ h => h⟩
      · intro timeout cdb direction buf t hcdb ht
        replace ht : t.2 = s.2 := ht
        refine ⟨[(cdb, buf.length)], congrArg (· ++ _) ht, List.cons_ne_nil _ _, ?_⟩
        intro x hx
        rw [List.mem_singleton.mp hx]
        exact hcdb
      · rintro timeout cdb direction buf t hcdb ⟨blocks, ht, hne, hall⟩
        refine ⟨blocks ++ [(cdb, buf.length)], ?_, List.append_ne_nil_of_left_ne_nil hne _, ?_⟩
        · rw [← List.append_assoc, ← ht]
          rfl
        · intro x hx
          rcases List.mem_append.mp hx with hx | hx
          · exact hall x hx
          · rw [List.mem_singleton.mp hx]
            exact hcdb
    exact run_leads hq hsends rfl hrun

/-- The log of a sequence of methods falls into parts, one for each method in their order, and
the drive reads each part as the command of its method. -/
theorem runAll_sent (methods : List MmcMethod) :
    ∀ {s s' : σ × List (Cdb × Nat)}, runAll T W m.logging methods s = .ret s' →
      ∃ parts : List (List (Cdb × Nat)), s'.2 = s.2 ++ parts.flatten ∧
        List.Forall₂ Sent methods parts := by
  induction methods with
  | nil =>
    intro s s' hrun
    cases hrun
    exact ⟨[], (List.append_nil _).symm, .nil⟩
  | cons q methods ih =>
    intro s s' hrun
    obtain ⟨t, hq, hrest⟩ := runAll_cons hrun
    obtain ⟨blocks, hblocks, hsent⟩ := run_sent q hq
    obtain ⟨parts, hparts, hall⟩ := ih hrest
    refine ⟨blocks :: parts, ?_, .cons hsent hall⟩
    rw [hparts, hblocks, List.append_assoc, List.flatten_cons]

theorem runAll_sent_eject : ∃ s' : Unit × List (Cdb × Nat),
    runAll ⟨.w64, .w64, true⟩ .plain (Mmc.replying []).logging [.testUnitReady, .eject] ((), []) =
        .ret s' ∧
      ∃ parts : List (List (Cdb × Nat)), s'.2 = parts.flatten ∧
        List.Forall₂ Sent [.testUnitReady, .eject] parts := by
  refine ⟨_, rfl, ?_⟩
  exact runAll_sent (T := ⟨.w64, .w64, true⟩) (W := .plain) (m := Mmc.replying [])
    [.testUnitReady, .eject] (s := ((), [])) rfl

end Log

end MmcMethod

end LibcdioRs
