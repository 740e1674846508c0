import LibcdioRs.Mmc.ReadToc
import LibcdioRs.Mmc.ReadDiscInfo

/-!
# Adaptive reads

`read_toc` and `read_disc_information` ask for 64 bytes first and for the whole
response when its length field announces more. They differ in the command, in
the size that the length field does not count, and in what they return.
-/

namespace LibcdioRs

open Rust ReadToc
set_option autoImplicit false

variable {σ : Type}

/-- The length field at the start of a response. -/
def announced (buf : Bytes) : Nat := (be16 (buf.getD 0 0) (buf.getD 1 0)).toNat

theorem announced_lt (buf : Bytes) : announced buf < 2 ^ 16 := UInt16.toNat_lt _

theorem lengthPrefix_eq (msg : String) {buf : Bytes} (h : buf.length = 64) :
    ∃ len : UInt16, lengthPrefix msg buf = .ret len ∧ len.toNat = announced buf := by
  rcases buf with _ | ⟨b0, _ | ⟨b1, rest⟩⟩
  · cases h
  · cases h
  · exact ⟨be16 b0 b1, lengthPrefix_cons msg b0 b1 rest, rfl⟩

namespace Mmc

/-- The buffer and the size of the data in it. `extra` is what the length field does not count. -/
def adaptiveRead (m : Mmc σ) (msg : String) (cdb : Cdb) (extra : Nat) :
    Act σ MmcError (Bytes × Nat) := do
  let buf : Bytes := List.replicate 64 0
  let cdb := cdb.setAllocationLength buf.length
  let buf ← m.runCommand (some .read) buf cdb
  let len ← Act.lift (lengthPrefix msg buf)
  let size := len.toNat + extra
  if buf.length < size then
    let buf := resize buf size 0
    let buf ← m.runCommand (some .read) buf (cdb.setAllocationLength buf.length)
    return (buf, size)
  else
    return (buf, size)

theorem readToc_eq (m : Mmc σ) (format : ResponseFormat) :
    m.readToc format =
      ((m.adaptiveRead "buffer length is greater than two bytes" format.cdb 4).mapError .os >>=
        fun x => pure x.1) := by
  simp only [adaptiveRead, Act.mapError_bind, Act.mapError_lift, Act.mapError_ite,
    Act.mapError_pure, bind_assoc, Act.ite_bind, pure_bind, bind_pure]
  rfl

theorem readDiscInformation_eq (m : Mmc σ) (kind : DiscInfoKind) :
    m.readDiscInformation kind =
      ((m.adaptiveRead "initial buffer length is greater than two bytes" kind.cdb 2).mapError .os >>=
        fun x => pure (x.1.take x.2)) := by
  simp only [adaptiveRead, Act.mapError_bind, Act.mapError_lift, Act.mapError_ite,
    Act.mapError_pure, bind_assoc, Act.ite_bind, pure_bind]
  rfl

/-- The first of the two commands, which asks for 64 bytes. -/
def firstCommand (m : Mmc σ) (cdb : Cdb) (s : σ) : Stored × σ :=
  m.runCmd defaultTimeoutMs (cdb.setAllocationLength 64) .read (List.replicate 64 0) s

/-- What the first command leaves in the buffer, unless it fails. -/
def firstAnswer (m : Mmc σ) (cdb : Cdb) (s : σ) : Option Bytes :=
  if 0 ≤ (m.firstCommand cdb s).1.1 then
    some (overwrite (List.replicate 64 0) (m.firstCommand cdb s).1.2)
  else
    none

section Steps
variable {m : Mmc σ} {s s₁ s₂ : σ} {cdb : Cdb}

theorem runCommand_first_error (h : m.firstAnswer cdb s = none) (log : List (Cdb × Nat)) :
    ∃ e s', m.runCommand (some .read) (List.replicate 64 0) (cdb.setAllocationLength 64) s =
        .ret (.error e, s') ∧
      m.logging.runCommand (some .read) (List.replicate 64 0) (cdb.setAllocationLength 64)
          (s, log) = .ret (.error e, s', log ++ [(cdb.setAllocationLength 64, 64)]) := by
  unfold firstAnswer at h
  split at h
  · cases h
  · rename_i hret
    have hret' : ¬ 0 ≤ (m.runCmd defaultTimeoutMs (cdb.setAllocationLength 64)
        (dataDirection (some .read)) (List.replicate 64 0) s).1.1 := hret
    have herror := runCommand_error (by decide) hret'
      (fun cdb buf _ log => log ++ [(cdb, buf.length)]) log
    rwa [List.length_replicate] at herror

theorem runCommand_first {buf : Bytes} (h : m.firstAnswer cdb s = some buf) :
    m.runCommand (some .read) (List.replicate 64 0) (cdb.setAllocationLength 64) s =
      .ret (.ok buf, (m.firstCommand cdb s).2) := by
  unfold firstAnswer at h
  split at h
  · rename_i hret
    cases h
    exact runCommand_ok (by decide) hret
  · cases h

theorem adaptiveRead_error {e : MmcError}
    (h : m.runCommand (some .read) (List.replicate 64 0) (cdb.setAllocationLength 64) s =
      .ret (.error e, s₁)) (msg : String) (extra : Nat) :
    m.adaptiveRead msg cdb extra s = .ret (.error e, s₁) := by
  simp only [adaptiveRead, List.length_replicate, Act.bind_error h]

section Answered
variable {buf : Bytes}
variable (h : m.runCommand (some .read) (List.replicate 64 0) (cdb.setAllocationLength 64) s =
  .ret (.ok buf, s₁))
include h

theorem length_first : buf.length = 64 := by
  have hsat := m.runCommand_sat s (some .read) (List.replicate 64 0)
    (cdb.setAllocationLength 64) (by decide)
  rw [h] at hsat
  simpa using hsat

/-- The response fits the first buffer. -/
theorem adaptiveRead_first (msg : String) {extra : Nat} (hsize : announced buf + extra ≤ 64) :
    m.adaptiveRead msg cdb extra s = .ret (.ok (buf, announced buf + extra), s₁) := by
  obtain ⟨len, hprefix, hn⟩ := lengthPrefix_eq msg (length_first h)
  simp only [adaptiveRead, List.length_replicate, Act.bind_ok h, hprefix,
    Act.lift_ret_bind_apply, hn, length_first h]
  rw [if_neg (Nat.not_lt_of_le hsize)]
  rfl

/-- The response does not fit: the second command runs on a buffer of its announced size. -/
theorem adaptiveRead_second (msg : String) {extra : Nat} (hsize : 64 < announced buf + extra)
    {r : Except MmcError Bytes}
    (hsecond : m.runCommand (some .read) (resize buf (announced buf + extra) 0)
      ((cdb.setAllocationLength 64).setAllocationLength (announced buf + extra)) s₁ =
        .ret (r, s₂)) :
    m.adaptiveRead msg cdb extra s =
      .ret (r.map fun buf' => (buf', announced buf + extra), s₂) := by
  obtain ⟨len, hprefix, hn⟩ := lengthPrefix_eq msg (length_first h)
  simp only [adaptiveRead, List.length_replicate, Act.bind_ok h, hprefix,
    Act.lift_ret_bind_apply, hn, length_first h, if_pos hsize, length_resize]
  exact Act.bind_pure_ret hsecond _

end Answered

/-- Whatever the device stores, the read returns. The data have the size that the first answer
announces, and only the second command fails after it. -/
theorem adaptiveRead_sat (m : Mmc σ) (s : σ) (cdb : Cdb) (msg : String) {extra : Nat}
    (hextra : extra ≤ 2 ^ 16) :
    (m.adaptiveRead msg cdb extra s).Sat
      (Act.post
        (fun x _ => x.1.length = max 64 x.2 ∧
          ∃ buf, m.firstAnswer cdb s = some buf ∧ x.2 = announced buf + extra)
        fun _ _ => ∀ buf, m.firstAnswer cdb s = some buf → 64 < announced buf + extra)
      fun _ => False := by
  cases hfirst : m.firstAnswer cdb s with
  | none =>
    obtain ⟨e, s', h, _⟩ := runCommand_first_error hfirst []
    rw [adaptiveRead_error h]
    nofun
  | some buf =>
    have hrun := runCommand_first hfirst
    have hlt := announced_lt buf
    by_cases hsize : announced buf + extra ≤ 64
    · rw [adaptiveRead_first hrun msg hsize]
      refine ⟨?_, buf, rfl, rfl⟩
      rw [length_first hrun, Nat.max_eq_left hsize]
    · have hgrow : 64 < announced buf + extra := Nat.lt_of_not_le hsize
      obtain ⟨⟨r, s'⟩, hsecond, hpost⟩ := (m.runCommand_sat (m.firstCommand cdb s).2 (some .read)
        (resize buf (announced buf + extra) 0)
        ((cdb.setAllocationLength 64).setAllocationLength (announced buf + extra))
        (by rw [length_resize]; omega)).exists_ret fun _ => id
      rw [adaptiveRead_second hrun msg hgrow hsecond]
      cases r with
      | ok buf' =>
        refine ⟨?_, buf, rfl, rfl⟩
        have hlen : buf'.length = announced buf + extra := by simpa using hpost
        rw [hlen, Nat.max_eq_right (Nat.le_of_lt hgrow)]
      | error e =>
        intro buf' hbuf'
        cases hbuf'
        exact hgrow

theorem announced_padded {R : Bytes} {n : Nat} (hR : 2 ≤ R.length) (hn : 2 ≤ n) :
    announced (padded R n) = announced R := by
  obtain ⟨n, rfl⟩ := Nat.exists_eq_add_of_le' hn
  rcases R with _ | ⟨b0, _ | ⟨b1, rest⟩⟩
  · cases hR
  · simp at hR
  · rfl

/-- A device that holds a response delivers it with zeros after it, as far as the size that its
length field announces. -/
theorem adaptiveRead_holds (m : Mmc σ) (s : σ) (cdb : Cdb) {R : Bytes} (hm : m.Holds R)
    (hR : 2 ≤ R.length) {extra : Nat} (hsize : announced R + extra < 2 ^ 16) (msg : String) :
    ∃ s', m.adaptiveRead msg cdb extra s =
      .ret (.ok (padded R (max 64 (announced R + extra)), announced R + extra), s') := by
  have hn : announced (padded R 64) = announced R := announced_padded hR (by decide)
  have hfirst : m.firstAnswer cdb s = some (padded R 64) := by
    obtain ⟨hret, hstored⟩ := hm defaultTimeoutMs (cdb.setAllocationLength 64) .read
      (List.replicate 64 0) s
    rw [firstAnswer, firstCommand, if_pos hret, hstored, Cdb.allocationLength_set,
      Nat.mod_eq_of_lt (by decide), overwrite_zeros]
  have hrun := runCommand_first hfirst
  rw [← hn] at hsize ⊢
  by_cases hgrow : 64 < announced (padded R 64) + extra
  · obtain ⟨s', hsecond⟩ := runCommand_holds (s := (m.firstCommand cdb s).2) hm
      (resize (padded R 64) (announced (padded R 64) + extra) 0)
      (by rw [length_resize]; omega) (some .read)
      ((cdb.setAllocationLength 64).setAllocationLength (announced (padded R 64) + extra))
    rw [Cdb.allocationLength_set, Nat.mod_eq_of_lt hsize,
      overwrite_resize_padded R (Nat.le_of_lt hgrow)] at hsecond
    refine ⟨s', ?_⟩
    rw [adaptiveRead_second hrun msg hgrow hsecond, Nat.max_eq_right (Nat.le_of_lt hgrow)]
    rfl
  · refine ⟨(m.firstCommand cdb s).2, ?_⟩
    rw [adaptiveRead_first hrun msg (Nat.le_of_not_lt hgrow),
      Nat.max_eq_left (Nat.le_of_not_lt hgrow)]

theorem readToc_ret {format : ResponseFormat} {r : Except MmcError (Bytes × Nat)} {s' : σ}
    (h : m.adaptiveRead "buffer length is greater than two bytes" format.cdb 4 s = .ret (r, s')) :
    m.readToc format s = .ret ((r.mapError .os).map Prod.fst, s') := by
  rw [readToc_eq]
  exact Act.mapError_bind_pure h _ _

theorem readDiscInformation_ret {kind : DiscInfoKind} {r : Except MmcError (Bytes × Nat)} {s' : σ}
    (h : m.adaptiveRead "initial buffer length is greater than two bytes" kind.cdb 2 s =
      .ret (r, s')) :
    m.readDiscInformation kind s = .ret ((r.mapError .os).map fun x => x.1.take x.2, s') := by
  rw [readDiscInformation_eq]
  exact Act.mapError_bind_pure h _ _

end Steps

section Log

/-- The commands of an adaptive read: the CDB and the length of the buffer. -/
def commands (m : Mmc σ) (cdb : Cdb) (extra : Nat) (s : σ) : List (Cdb × Nat) :=
  let first := (cdb.setAllocationLength 64, 64)
  match m.firstAnswer cdb s with
  | none => [first]
  | some buf =>
    if announced buf + extra ≤ 64 then [first]
    else [first, (first.1.setAllocationLength (announced buf + extra), announced buf + extra)]

/-- Every command allocates the length of the buffer that it fills. -/
def AsksForBuffer (log : List (Cdb × Nat)) : Prop := ∀ x ∈ log, x.1.allocationLength = x.2

instance (log : List (Cdb × Nat)) : Decidable (AsksForBuffer log) :=
  inferInstanceAs (Decidable (∀ x ∈ log, x.1.allocationLength = x.2))

variable (m : Mmc σ) (s : σ)

theorem adaptiveRead_logging (msg : String) (cdb : Cdb) {extra : Nat} (hextra : extra ≤ 2 ^ 16) :
    ∃ r s', m.adaptiveRead msg cdb extra s = .ret (r, s') ∧
      m.logging.adaptiveRead msg cdb extra (s, []) = .ret (r, s', m.commands cdb extra s) := by
  cases hfirst : m.firstAnswer cdb s with
  | none =>
    obtain ⟨e, s', h, hlog⟩ := runCommand_first_error hfirst []
    refine ⟨.error e, s', adaptiveRead_error h msg extra, ?_⟩
    rw [adaptiveRead_error hlog]
    simp only [commands, hfirst]
    rfl
  | some buf =>
    have hrun := runCommand_first hfirst
    have hlogged : m.logging.firstAnswer cdb (s, []) = some buf := hfirst
    have hlt := announced_lt buf
    by_cases hsize : announced buf + extra ≤ 64
    · refine ⟨_, _, adaptiveRead_first hrun msg hsize, ?_⟩
      rw [adaptiveRead_first (runCommand_first hlogged) msg hsize]
      simp only [commands, hfirst, if_pos hsize]
      rfl
    · have hgrow : 64 < announced buf + extra := Nat.lt_of_not_le hsize
      have hlog : m.commands cdb extra s = [(cdb.setAllocationLength 64, 64)] ++
          [((cdb.setAllocationLength 64).setAllocationLength (announced buf + extra),
            (resize buf (announced buf + extra) 0).length)] := by
        simp only [commands, hfirst, if_neg hsize, length_resize]
        rfl
      obtain ⟨r, s', h, hlogs⟩ := runCommand_logging m (m.firstCommand cdb s).2
        [(cdb.setAllocationLength 64, 64)] (some .read) (resize buf (announced buf + extra) 0)
        ((cdb.setAllocationLength 64).setAllocationLength (announced buf + extra))
        (by rw [length_resize]; omega)
      rw [← hlog] at hlogs
      exact ⟨_, s', adaptiveRead_second hrun msg hgrow h,
        adaptiveRead_second (runCommand_first hlogged) msg hgrow hlogs⟩

theorem commands_second_iff (cdb : Cdb) (extra : Nat) :
    AsksForBuffer (m.commands cdb extra s).tail ↔
      ∀ buf, m.firstAnswer cdb s = some buf → announced buf + extra < 2 ^ 16 := by
  cases hfirst : m.firstAnswer cdb s with
  | none => simp [AsksForBuffer, commands, hfirst]
  | some buf =>
    simp only [Option.some.injEq, forall_eq']
    by_cases hsize : announced buf + extra ≤ 64
    · have hone : (m.commands cdb extra s).tail = [] := by
        simp only [commands, hfirst, if_pos hsize, List.tail_cons]
      rw [hone]
      exact ⟨fun _ => by omega, fun _ _ => nofun⟩
    · have htwo : (m.commands cdb extra s).tail =
          [((cdb.setAllocationLength 64).setAllocationLength (announced buf + extra),
            announced buf + extra)] := by
        simp only [commands, hfirst, if_neg hsize, List.tail_cons]
      rw [htwo]
      simp only [AsksForBuffer, List.mem_singleton, forall_eq, Cdb.allocationLength_set]
      omega

theorem readToc_logging (format : ResponseFormat) :
    ∃ r s', m.readToc format s = .ret (r, s') ∧
      m.logging.readToc format (s, []) = .ret (r, s', m.commands format.cdb 4 s) := by
  obtain ⟨r, s', h, hlog⟩ := m.adaptiveRead_logging s "buffer length is greater than two bytes"
    format.cdb (show 4 ≤ 2 ^ 16 by decide)
  exact ⟨_, s', readToc_ret h, readToc_ret hlog⟩

theorem readDiscInformation_logging (kind : DiscInfoKind) :
    ∃ r s', m.readDiscInformation kind s = .ret (r, s') ∧
      m.logging.readDiscInformation kind (s, []) = .ret (r, s', m.commands kind.cdb 2 s) := by
  obtain ⟨r, s', h, hlog⟩ := m.adaptiveRead_logging s
    "initial buffer length is greater than two bytes" kind.cdb (show 2 ≤ 2 ^ 16 by decide)
  exact ⟨_, s', readDiscInformation_ret h, readDiscInformation_ret hlog⟩

/-- The second command asks for less than its buffer exactly when the announced size is too
large for the 16 bits of the allocation length. -/
theorem adaptiveReads_ask_iff (m : Mmc σ) (s : σ) :
    (∀ format, ∃ r s' log, m.readToc format s = .ret (r, s') ∧
        m.logging.readToc format (s, []) = .ret (r, s', log) ∧
        (AsksForBuffer log.tail ↔
          ∀ buf, m.firstAnswer format.cdb s = some buf → announced buf ≤ 65531)) ∧
      ∀ kind, ∃ r s' log, m.readDiscInformation kind s = .ret (r, s') ∧
        m.logging.readDiscInformation kind (s, []) = .ret (r, s', log) ∧
        (AsksForBuffer log.tail ↔
          ∀ buf, m.firstAnswer kind.cdb s = some buf → announced buf ≤ 65533) := by
  constructor
  · intro format
    obtain ⟨r, s', h, hlog⟩ := m.readToc_logging s format
    refine ⟨r, s', _, h, hlog, (m.commands_second_iff s format.cdb 4).trans (forall₂_congr ?_)⟩
    intro buf _
    omega
  · intro kind
    obtain ⟨r, s', h, hlog⟩ := m.readDiscInformation_logging s kind
    refine ⟨r, s', _, h, hlog, (m.commands_second_iff s kind.cdb 2).trans (forall₂_congr ?_)⟩
    intro buf _
    omega

end Log

section Concrete

/-- The largest length field makes `read_toc` ask for three bytes into 65539, and
`read_disc_information` for one byte into 65537. -/
theorem largest_asks_for_little :
    (∃ r s' log, (replying [0xFF, 0xFF]).logging.readToc .cdtext ((), []) = .ret (r, s', log) ∧
        ¬ AsksForBuffer log.tail ∧
        log.tail.map (fun x => (x.1.allocationLength, x.2)) = [(3, 65539)]) ∧
      ∃ r s' log,
        (replying [0xFF, 0xFF]).logging.readDiscInformation .standard ((), []) =
            .ret (r, s', log) ∧
          ¬ AsksForBuffer log.tail ∧
          log.tail.map (fun x => (x.1.allocationLength, x.2)) = [(1, 65537)] := by
  constructor
  · obtain ⟨r, s', _, hlog⟩ := readToc_logging (replying [0xFF, 0xFF]) () .cdtext
    exact ⟨r, s', _, hlog, by decide +kernel, by decide +kernel⟩
  · obtain ⟨r, s', _, hlog⟩ := readDiscInformation_logging (replying [0xFF, 0xFF]) () .standard
    exact ⟨r, s', _, hlog, by decide +kernel, by decide +kernel⟩

end Concrete

end Mmc

end LibcdioRs
