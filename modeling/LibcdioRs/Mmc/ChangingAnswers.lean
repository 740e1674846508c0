import LibcdioRs.Mmc.CdText

/-!
# Devices that change their answer

`read_toc` takes the size of its buffer from one answer and the queries parse
another. They return whatever the two are: everything after the second command
depends on what that command left in the buffer, which is parsed for itself.
-/

namespace LibcdioRs

open Rust Parse ReadToc
set_option autoImplicit false

variable {σ τ α β : Type}

/-- What a query makes of the buffer that the last command left, or of its failure. -/
structure TocOutcome (Value : Bytes → α → Prop) (last : Option Bytes)
    (r : Except MmcTocError α) : Prop where
  value_of_ok : ∀ v, r = .ok v → ∃ B, last = some B ∧ Value B v
  os_iff : (∃ e, r = .error (.os e)) ↔ last = none
  invalid_of_overrun : ∀ B, last = some B → B.length < announced B + 4 →
    ∃ text, r = .error (.invalidResponse text)

namespace TocOutcome
variable {Value : Bytes → α → Prop} {B : Bytes}

theorem os (e : MmcError) : TocOutcome Value none (.error (.os e)) where
  value_of_ok := nofun
  os_iff := iff_of_true ⟨e, rfl⟩ rfl
  invalid_of_overrun := nofun

theorem invalid (text : String) : TocOutcome Value (some B) (.error (.invalidResponse text)) where
  value_of_ok := nofun
  os_iff := iff_of_false nofun nofun
  invalid_of_overrun _ _ _ := ⟨text, rfl⟩

theorem ok {v : α} (hroom : announced B + 4 ≤ B.length) (hv : Value B v) :
    TocOutcome Value (some B) (.ok v) where
  value_of_ok
    | _, rfl => ⟨B, rfl, hv⟩
  os_iff := iff_of_false nofun nofun
  invalid_of_overrun
    | _, rfl, hover => absurd hroom (Nat.not_le_of_lt hover)

end TocOutcome

namespace Mmc

/-- No command of the device fails. -/
def Succeeds (m : Mmc σ) : Prop :=
  ∀ timeout cdb direction buf s, 0 ≤ (m.runCmd timeout cdb direction buf s).1.1

/-- The device that keeps the buffer as the last command left it, unless that command failed. -/
def keeping (m : Mmc σ) : Mmc (σ × Option Bytes) :=
  m.watched fun _ buf stored _ => if 0 ≤ stored.1 then some (overwrite buf stored.2) else none

section Keeping
variable (m : Mmc σ) (s : σ) (last : Option Bytes)

theorem runCommand_keeping (direction : Option MmcDirection) (buf : Bytes) (cdb : Cdb)
    (hlen : buf.length < 2 ^ 32) :
    ∃ r s', m.runCommand direction buf cdb s = .ret (r, s') ∧
      m.keeping.runCommand direction buf cdb (s, last) = .ret (r, s', r.toOption) ∧
      (m.Succeeds → ∃ B, r = .ok B) := by
  by_cases hret : 0 ≤ (m.runCmd defaultTimeoutMs cdb (dataDirection direction) buf s).1.1
  · refine ⟨_, _, runCommand_ok hlen hret, ?_, fun _ => ⟨_, rfl⟩⟩
    have hkept := runCommand_ok (m := m.keeping) (s := (s, last)) hlen hret
    rw [hkept]
    simp only [keeping, watched, if_pos hret]
    rfl
  · rcases runCommand_error hlen hret
      (fun _ buf stored _ => if 0 ≤ stored.1 then some (overwrite buf stored.2) else none) last
      with ⟨e, s', h, hkept⟩
    rw [if_neg hret] at hkept
    exact ⟨_, s', h, hkept, fun hall => absurd (hall _ _ _ _ _) hret⟩

/-- The read returns the buffer that its last command left. -/
theorem adaptiveRead_keeping (msg : String) (cdb : Cdb) {extra : Nat} (hextra : extra ≤ 2 ^ 16) :
    ∃ r s', m.adaptiveRead msg cdb extra s = .ret (r, s') ∧
      m.keeping.adaptiveRead msg cdb extra (s, last) =
        .ret (r, s', (r.map Prod.fst).toOption) ∧
      (m.Succeeds → ∃ x, r = .ok x) := by
  rcases m.runCommand_keeping s last (some .read) (List.replicate 64 0)
    (cdb.setAllocationLength 64) (by decide) with ⟨first, s₁, hrun, hkept, hall⟩
  cases first with
  | error e =>
    refine ⟨_, s₁, adaptiveRead_error hrun msg extra, adaptiveRead_error hkept msg extra, ?_⟩
    intro hm
    obtain ⟨B, hB⟩ := hall hm
    cases hB
  | ok buf =>
    have hlt := announced_lt buf
    by_cases hsize : announced buf + extra ≤ 64
    · exact ⟨_, s₁, adaptiveRead_first hrun msg hsize, adaptiveRead_first hkept msg hsize,
        fun _ => ⟨_, rfl⟩⟩
    · have hgrow : 64 < announced buf + extra := Nat.lt_of_not_le hsize
      obtain ⟨r, s₂, hrun₂, hkept₂, hall₂⟩ := m.runCommand_keeping s₁ (some buf) (some .read)
        (resize buf (announced buf + extra) 0)
        ((cdb.setAllocationLength 64).setAllocationLength (announced buf + extra))
        (by rw [length_resize]; omega)
      refine ⟨_, s₂, adaptiveRead_second hrun msg hgrow hrun₂, ?_, ?_⟩
      · rw [adaptiveRead_second hkept msg hgrow hkept₂]
        cases r <;> rfl
      · intro hm
        obtain ⟨B, rfl⟩ := hall₂ hm
        exact ⟨_, rfl⟩

theorem readToc_keeping (format : ResponseFormat) :
    (∃ e s', m.readToc format s = .ret (.error (.os e), s') ∧
        m.keeping.readToc format (s, last) = .ret (.error (.os e), s', none) ∧ ¬ m.Succeeds) ∨
      ∃ B s', 64 ≤ B.length ∧ m.readToc format s = .ret (.ok B, s') ∧
        m.keeping.readToc format (s, last) = .ret (.ok B, s', some B) := by
  rcases m.adaptiveRead_keeping s last "buffer length is greater than two bytes" format.cdb
    (show 4 ≤ 2 ^ 16 by decide) with ⟨r, s', h, hkept, hall⟩
  cases r with
  | error e =>
    refine .inl ⟨e, s', readToc_ret h, readToc_ret hkept, ?_⟩
    intro hm
    obtain ⟨x, hx⟩ := hall hm
    cases hx
  | ok x =>
    have hsat := m.adaptiveRead_sat s format.cdb "buffer length is greater than two bytes"
      (show 4 ≤ 2 ^ 16 by decide)
    rw [h] at hsat
    have hlen : x.1.length = max 64 x.2 := hsat.1
    exact .inr ⟨x.1, s', by omega, readToc_ret h, readToc_ret hkept⟩

end Keeping

end Mmc

namespace ReadToc

section Header
variable {W : Winnow} (hW : W.AsDocumented) {B : Bytes} (hlen : 4 ≤ B.length)
include hW hlen

/-- The header takes as many bytes as it announces, or fails. -/
theorem parseHeader_returns :
    (announced B + 4 ≤ B.length ∧ ∃ fields,
        parseHeader W B = .ret (.ok fields, (B.drop 4).take (announced B))) ∨
      B.length < announced B + 4 ∧ ∃ text rest,
        parseHeader W B = .ret (.error (.invalidResponse text), rest) := by
  rcases B with _ | ⟨b0, _ | ⟨b1, _ | ⟨b2, _ | ⟨b3, body⟩⟩⟩⟩
  case cons.cons.cons.cons =>
    have hn : announced (b0 :: b1 :: b2 :: b3 :: body) = (be16 b0 b1).toNat := rfl
    by_cases h : (be16 b0 b1).toNat ≤ body.length
    · exact .inl ⟨by rw [hn]; simpa using h, (b2, b3), parseHeader_ok hW b0 b1 b2 b3 h⟩
    · refine .inr ⟨by rw [hn]; simpa using Nat.lt_of_not_le h, ?_⟩
      exact parseHeader_overrun hW b0 b1 b2 b3 (Nat.lt_of_not_le h)
  all_goals simp at hlen

/-- What the query of a descriptor does with a buffer, whatever else the state holds; `k` is the
rest of the query. -/
theorem descriptor_returns {p : Parser Bytes W.ContextError β}
    {k : β × Bytes → Act σ MmcTocError α} {k' : β × Bytes → Act τ MmcTocError α}
    (hk : ∀ x, ∃ r : Except MmcTocError α, (∀ s, k x s = .ret (r, s)) ∧
      (∀ t, k' x t = .ret (r, t)) ∧ ∀ e, r ≠ .error (.os e)) :
    ∃ r, (∀ s, (Act.onLocals (parseHeader W >>= fun _ =>
        parseNext (.ofContext W) p) B >>= k) s = .ret (r, s)) ∧
      (∀ t, (Act.onLocals (parseHeader W >>= fun _ =>
        parseNext (.ofContext W) p) B >>= k') t = .ret (r, t)) ∧
      TocOutcome (fun _ _ => True) (some B) r := by
  rcases parseHeader_returns hW hlen with ⟨hroom, fields, hheader⟩ | ⟨_, text, rest, hheader⟩
  · cases haccept : accept p ((B.drop 4).take (announced B)) with
    | some x =>
      rcases hk x with ⟨r, hr, hr', hos⟩
      have hlocals : (parseHeader W >>= fun _ => parseNext (.ofContext W) p) B =
          .ret (.ok x.1, x.2) := (Act.bind_ok hheader _).trans (parseNext_some haccept)
      refine ⟨r, ?_, ?_, ?_⟩
      · intro s
        exact (Act.bind_ok (Act.onLocals_ok hlocals s) k).trans (hr s)
      · intro t
        exact (Act.bind_ok (Act.onLocals_ok hlocals t) k').trans (hr' t)
      · cases r with
        | ok v => exact .ok hroom trivial
        | error e =>
          cases e with
          | os e => exact absurd rfl (hos e)
          | invalidResponse text => exact .invalid text
    | none =>
      rcases parseNext_none haccept with ⟨e, he⟩
      have hlocals := (Act.bind_ok hheader fun _ => parseNext (.ofContext W) p).trans he
      exact ⟨.error (.ofContext W e), fun s => Act.bind_error (Act.onLocals_error hlocals s) k,
        fun t => Act.bind_error (Act.onLocals_error hlocals t) k', .invalid _⟩
  · have hlocals := Act.bind_error hheader fun _ => parseNext (.ofContext W) p
    exact ⟨.error (.invalidResponse text),
      fun s => Act.bind_error (Act.onLocals_error hlocals s) k,
      fun t => Act.bind_error (Act.onLocals_error hlocals t) k', .invalid text⟩

end Header

end ReadToc

namespace Mmc

/-- The type of the disc is decided without the device. -/
theorem cdType_rest (psec : UInt8) :
    ∃ r : Except MmcTocError CdType, (∀ e, r ≠ .error (.os e)) ∧ ∀ {τ : Type} (t : τ),
      (match tryFrom CdType psec.toNat with
        | some cdType => pure cdType
        | none => Act.fail (.ofCdType psec) : Act τ MmcTocError CdType) t = .ret (r, t) := by
  cases tryFrom CdType psec.toNat with
  | some cdType => exact ⟨.ok cdType, nofun, fun _ => rfl⟩
  | none => exact ⟨.error (.ofCdType psec), nofun, fun _ => rfl⟩

section Queries
variable (m : Mmc σ) (s : σ) (last : Option Bytes)

/-- A query that reads the buffer and makes the same of it in every state. -/
theorem query_keeping (format : ResponseFormat) {f : Bytes → Act σ MmcTocError α}
    {f' : Bytes → Act (σ × Option Bytes) MmcTocError α} {Value : Bytes → α → Prop}
    (hf : ∀ B : Bytes, 64 ≤ B.length → ∃ r, (∀ s, f B s = .ret (r, s)) ∧
      (∀ t, f' B t = .ret (r, t)) ∧ TocOutcome Value (some B) r) :
    ∃ r s' last', (m.readToc format >>= f) s = .ret (r, s') ∧
      (m.keeping.readToc format >>= f') (s, last) = .ret (r, s', last') ∧
      TocOutcome Value last' r ∧ (m.Succeeds → ∃ B, last' = some B) := by
  rcases m.readToc_keeping s last format with ⟨e, s', h, hkept, hfails⟩ | ⟨B, s', hlen, h, hkept⟩
  · exact ⟨_, s', none, Act.bind_error h f, Act.bind_error hkept f', .os e,
      fun hm => absurd hm hfails⟩
  · rcases hf B hlen with ⟨r, hr, hr', houtcome⟩
    exact ⟨r, s', some B, (Act.bind_ok h f).trans (hr s'),
      (Act.bind_ok hkept f').trans (hr' (s', some B)), houtcome, fun _ => ⟨B, rfl⟩⟩

variable {W : Winnow} (hW : W.AsDocumented)
include hW

theorem cdText_keeping :
    ∃ r s' last', m.cdText W s = .ret (r, s') ∧ m.keeping.cdText W (s, last) = .ret (r, s', last') ∧
      TocOutcome (fun B v => announced B + 4 ≤ B.length ∧ v = (B.drop 4).take (announced B))
        last' r ∧ (m.Succeeds → ∃ B, last' = some B) := by
  apply m.query_keeping s last
  intro B hlen
  rcases parseHeader_returns hW (show 4 ≤ B.length by omega) with
    ⟨hroom, fields, hheader⟩ | ⟨_, text, rest, hheader⟩
  · have hsize : ((B.drop 4).take (announced B)).length = announced B := by
      rw [List.length_take, List.length_drop]
      omega
    have hrest := fun {τ : Type} (t : τ) => cdText_rest hheader (show 4 ≤ B.length by omega) t
    rw [hsize] at hrest
    exact ⟨.ok ((B.drop 4).take (announced B)), fun s => hrest s, fun t => hrest t,
      .ok hroom ⟨hroom, rfl⟩⟩
  · exact ⟨.error (.invalidResponse text),
      fun s => Act.bind_error (Act.onLocals_error hheader s) _,
      fun t => Act.bind_error (Act.onLocals_error hheader t) _, .invalid text⟩

theorem cdType_keeping :
    ∃ r s' last', m.cdType W s = .ret (r, s') ∧ m.keeping.cdType W (s, last) = .ret (r, s', last') ∧
      TocOutcome (fun _ _ => True) last' r ∧ (m.Succeeds → ∃ B, last' = some B) := by
  apply m.query_keeping s last
  intro B hlen
  apply descriptor_returns hW (show 4 ≤ B.length by omega)
  intro x
  rcases cdType_rest x.1.2.2.2.2.2.2.2.2.2.1 with ⟨r, hos, hrest⟩
  exact ⟨r, fun s => hrest s, fun t => hrest t, hos⟩

theorem lastSector_keeping :
    ∃ r s' last', m.lastSector W s = .ret (r, s') ∧
      m.keeping.lastSector W (s, last) = .ret (r, s', last') ∧
      TocOutcome (fun _ _ => True) last' r ∧ (m.Succeeds → ∃ B, last' = some B) := by
  apply m.query_keeping s last
  intro B hlen
  apply descriptor_returns hW (show 4 ≤ B.length by omega)
  intro x
  exact ⟨_, fun s => rfl, fun t => rfl, nofun⟩

end Queries

/-- No answer of the device, first or second, makes a query panic. What the query returns is read
from the last one, which has to hold all that its own header announces; without a command that
fails there is a last one. -/
theorem tocQueries_survive (W : Winnow) (hW : W.AsDocumented) (m : Mmc σ) (s : σ) :
    (∃ r s' last, m.cdText W s = .ret (r, s') ∧
      m.keeping.cdText W (s, none) = .ret (r, s', last) ∧
      TocOutcome (fun B v => announced B + 4 ≤ B.length ∧ v = (B.drop 4).take (announced B))
        last r ∧ (m.Succeeds → ∃ B, last = some B)) ∧
    (∃ r s' last, m.cdType W s = .ret (r, s') ∧
      m.keeping.cdType W (s, none) = .ret (r, s', last) ∧
      TocOutcome (fun _ _ => True) last r ∧ (m.Succeeds → ∃ B, last = some B)) ∧
    ∃ r s' last, m.lastSector W s = .ret (r, s') ∧
      m.keeping.lastSector W (s, none) = .ret (r, s', last) ∧
      TocOutcome (fun _ _ => True) last r ∧ (m.Succeeds → ∃ B, last = some B) :=
  ⟨m.cdText_keeping s none hW, m.cdType_keeping s none hW, m.lastSector_keeping s none hW⟩

section Concrete

/-- A device with one answer for the first command and one for the others. -/
def changing (first others : Bytes) : Mmc Bool where
  runCmd _ _ _ _ s := ((0, if s then others else first), true)
  lastCmdSense s := ((0, none), s)
  getConfiguration _ _ _ _ s := ((0, []), s)
  opUnsupported := -2
  opNotPermitted := -4
  opBadParameter := -5

theorem changing_succeeds (first others : Bytes) : (changing first others).Succeeds :=
  fun _ _ _ _ _ => Int32.le_refl 0

theorem tocQueries_survive_changing :
    (∃ r s' B, (changing [0, 100] [0, 3, 1, 1, 7, 8, 9]).cdText .plain false = .ret (r, s') ∧
      (changing [0, 100] [0, 3, 1, 1, 7, 8, 9]).keeping.cdText .plain (false, none) =
        .ret (r, s', some B) ∧
      TocOutcome (fun B v => announced B + 4 ≤ B.length ∧ v = (B.drop 4).take (announced B))
        (some B) r) ∧
    (∃ r s' B, (changing [0, 100] [0, 3, 1, 1, 7, 8, 9]).cdType .plain false = .ret (r, s') ∧
      (changing [0, 100] [0, 3, 1, 1, 7, 8, 9]).keeping.cdType .plain (false, none) =
        .ret (r, s', some B) ∧
      TocOutcome (fun _ _ => True) (some B) r) ∧
    ∃ r s' B, (changing [0, 100] [0, 3, 1, 1, 7, 8, 9]).lastSector .plain false = .ret (r, s') ∧
      (changing [0, 100] [0, 3, 1, 1, 7, 8, 9]).keeping.lastSector .plain (false, none) =
        .ret (r, s', some B) ∧
      TocOutcome (fun _ _ => True) (some B) r := by
  have hm := changing_succeeds [0, 100] [0, 3, 1, 1, 7, 8, 9]
  obtain ⟨htext, htype, hsector⟩ := tocQueries_survive .plain Winnow.plain_asDocumented
    (changing [0, 100] [0, 3, 1, 1, 7, 8, 9]) false
  refine ⟨?_, ?_, ?_⟩
  · obtain ⟨r, s', last, h, hkept, hr, hlast⟩ := htext
    obtain ⟨B, rfl⟩ := hlast hm
    exact ⟨r, s', B, h, hkept, hr⟩
  · obtain ⟨r, s', last, h, hkept, hr, hlast⟩ := htype
    obtain ⟨B, rfl⟩ := hlast hm
    exact ⟨r, s', B, h, hkept, hr⟩
  · obtain ⟨r, s', last, h, hkept, hr, hlast⟩ := hsector
    obtain ⟨B, rfl⟩ := hlast hm
    exact ⟨r, s', B, h, hkept, hr⟩

/-- The second header reports less than the first, then more. -/
example :
    (changing [0, 100] [0, 3, 1, 1, 7, 8, 9]).cdText .plain false = .ret (.ok [7, 8, 9], true) ∧
      (changing [0, 100] [0, 101]).cdText .plain false =
        .ret (.error (.invalidResponse "invalid READ TOC/PMA/ATIP header"), true) := by
  decide +kernel

end Concrete

end Mmc

end LibcdioRs
