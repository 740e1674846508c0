import LibcdioRs.Shared.Cursor
import LibcdioRs.Shared.Target

/-!
# The read loop of the entry readers

`IsoEntryReader::read` and `UdfEntryReader::read` run the same loop and differ
in how they get the block that holds the current position. The loop is modelled
once, with that difference as its parameter `fetch`.
-/

namespace LibcdioRs

open Rust Cursor Interleave
set_option autoImplicit false

/-- `Iso::BLOCK_SIZE` and `Udf::BLOCK_SIZE` -/
abbrev blockSize : Nat := 2048

abbrev Block : Type := Vector UInt8 blockSize

/-- `io::Error::other` with its text -/
structure IoError where
  text : String
  deriving DecidableEq

/-- What a `read` call works on: the reader's position, the caller's buffer and how much of
it is filled, and the state of the C library. -/
structure ReadState (σ : Type) where
  bytesRead : Nat
  bufRead : Nat
  buf : Bytes
  lib : σ
  deriving DecidableEq

variable {σ : Type}

def onLib {α : Type} (x : Act σ IoError α) : Act (ReadState σ) IoError α := fun st =>
  x st.lib >>= fun r => .ret (r.1, { st with lib := r.2 })

def roundLen (fileSize bytesRead bufRem : Nat) : Nat :=
  min bufRem (min (blockSize - bytesRead % blockSize) (fileSize - bytesRead))

/-- One round of the loop: get the block, then copy what both block and buffer have left. -/
def readRound (fileSize : Nat) (fetch : Nat → Act σ IoError Block) :
    Act (ReadState σ) IoError Unit := do
  let st ← Act.get
  let block ← onLib (fetch st.bytesRead)
  let blockStart := st.bytesRead % blockSize
  let len := roundLen fileSize st.bytesRead (st.buf.length - st.bufRead)
  let src ← Act.lift (slice block.toList blockStart (blockStart + len))
  let buf ← Act.lift (copyFromSlice st.buf st.bufRead (st.bufRead + len) src)
  Act.modify fun st =>
    { st with buf := buf, bufRead := st.bufRead + len, bytesRead := st.bytesRead + len }

def readGuard (fileSize : Nat) (st : ReadState σ) : Bool :=
  st.bytesRead < fileSize && st.bufRead < st.buf.length

/-- Each round fills at least one byte of the buffer, so its length bounds the rounds. -/
def readLoop (fileSize : Nat) (fetch : Nat → Act σ IoError Block) :
    Act (ReadState σ) IoError Nat := fun st =>
  (Act.whileLoop (readGuard fileSize) (readRound fileSize fetch) (st.buf.length + 1) >>= fun _ =>
    Act.get >>= fun st => pure st.bufRead) st

/-- The position that `seek` sets. `size` is the length that the entry declares. -/
def seekPosition (T : Target) (size : UInt64) (bytesRead : Nat) : SeekFrom → Nat
  | .start offset => T.asUsize offset.toNat
  | .fromEnd offset => T.asUsize (saturatingAddSigned 64 size.toNat offset.toInt)
  | .current offset => saturatingAddSigned T.usizeBits bytesRead (T.asIsize offset.toInt)

theorem seekPosition_eq {T : Target} (hT : T.usizeWidth = .w64) {size : UInt64} {bytesRead : Nat}
    {pos : SeekFrom} (h0 : 0 ≤ pos.target size.toNat bytesRead)
    (h1 : pos.target size.toNat bytesRead < 2 ^ 64) :
    seekPosition T size bytesRead pos = (pos.target size.toNat bytesRead).toNat := by
  have hbits := Target.usizeBits_w64 hT
  cases pos with
  | start offset =>
    have h := offset.toNat_lt
    simp only [seekPosition, SeekFrom.target, Target.asUsize, hbits, Int.toNat_natCast]
    exact Nat.mod_eq_of_lt h
  | fromEnd offset =>
    simp only [SeekFrom.target] at h0 h1 ⊢
    simp only [seekPosition, Target.asUsize, hbits, saturatingAddSigned_eq h0 h1]
    exact Nat.mod_eq_of_lt (by omega)
  | current offset =>
    simp only [SeekFrom.target] at h0 h1 ⊢
    have hlo := offset.le_toInt
    have hhi := offset.toInt_lt
    have hcast : T.asIsize offset.toInt = offset.toInt := by
      simp only [Target.asIsize, hbits]
      exact Int.bmod_eq_of_le (by omega) (by omega)
    rw [seekPosition, hcast, hbits, saturatingAddSigned_eq h0 h1]

section Round
variable {fileSize : Nat} {fetch : Nat → Act σ IoError Block}

theorem roundLen_pos {q rem : Nat} (hq : q < fileSize) (hr : 0 < rem) :
    0 < roundLen fileSize q rem := by
  unfold roundLen blockSize
  omega

theorem roundLen_le (fileSize q rem : Nat) : roundLen fileSize q rem ≤ rem := by
  unfold roundLen
  omega

theorem roundLen_in_block (fileSize q rem : Nat) :
    q % blockSize + roundLen fileSize q rem ≤ blockSize := by
  unfold roundLen blockSize
  omega

theorem roundLen_in_file {q : Nat} (hq : q < fileSize) (rem : Nat) :
    q + roundLen fileSize q rem ≤ fileSize := by
  unfold roundLen
  omega

def roundState (fileSize : Nat) (st : ReadState σ) (block : Block) (lib : σ) : ReadState σ :=
  let len := roundLen fileSize st.bytesRead (st.buf.length - st.bufRead)
  { bytesRead := st.bytesRead + len
    bufRead := st.bufRead + len
    buf := st.buf.take st.bufRead ++ (block.toList.drop (st.bytesRead % blockSize)).take len ++
      st.buf.drop (st.bufRead + len)
    lib := lib }

theorem readGuard_iff (st : ReadState σ) :
    readGuard fileSize st = true ↔ st.bytesRead < fileSize ∧ st.bufRead < st.buf.length := by
  simp [readGuard]

theorem readRound_ok {st : ReadState σ} {block : Block} {lib : σ}
    (hg : readGuard fileSize st = true)
    (hf : fetch st.bytesRead st.lib = .ret (.ok block, lib)) :
    readRound fileSize fetch st = .ret (.ok (), roundState fileSize st block lib) := by
  obtain ⟨_, hbuf⟩ := (readGuard_iff st).mp hg
  have hblock := roundLen_in_block fileSize st.bytesRead (st.buf.length - st.bufRead)
  have hrem := roundLen_le fileSize st.bytesRead (st.buf.length - st.bufRead)
  have hlib : onLib (fetch st.bytesRead) st = .ret (.ok block, { st with lib := lib }) := by
    simp [onLib, hf]
  simp only [readRound, Act.get_bind_apply]
  rw [Act.bind_ok hlib, slice_eq (by omega) (by simpa using hblock)]
  rw [Act.lift_ret_bind_apply, copyFromSlice_eq (by omega) (by omega) (by simp; omega)]
  rw [Nat.add_sub_cancel_left]
  simp [roundState]

theorem readRound_error {st : ReadState σ} {e : IoError} {lib : σ}
    (hf : fetch st.bytesRead st.lib = .ret (.error e, lib)) :
    readRound fileSize fetch st = .ret (.error e, { st with lib := lib }) := by
  have hlib : onLib (fetch st.bytesRead) st = .ret (.error e, { st with lib := lib }) := by
    simp [onLib, hf]
  simp only [readRound, Act.get_bind_apply]
  exact Act.bind_error hlib _

theorem readRound_panic {st : ReadState σ} {why : Panic}
    (hf : fetch st.bytesRead st.lib = .panic why) :
    readRound fileSize fetch st = .panic why := by
  have hlib : onLib (fetch st.bytesRead) st = .panic why := by simp [onLib, hf]
  simp only [readRound, Act.get_bind_apply]
  exact Act.bind_panic hlib _

theorem roundState_buf_length {st : ReadState σ} (block : Block) (lib : σ)
    (hbuf : st.bufRead ≤ st.buf.length) :
    (roundState fileSize st block lib).buf.length = st.buf.length := by
  have hblock := roundLen_in_block fileSize st.bytesRead (st.buf.length - st.bufRead)
  have hrem := roundLen_le fileSize st.bytesRead (st.buf.length - st.bufRead)
  simp only [roundState, List.length_append, List.length_take, List.length_drop,
    Vector.length_toList]
  omega

end Round

section Served
variable {F : Bytes} {fetch : Nat → Act σ IoError Block}

/-- `block` is block `k` of the file `F`, as far as the file goes. -/
def IsBlockOf (F : Bytes) (k : Nat) (block : Block) : Prop :=
  ∀ i (h : i < blockSize) (h' : k * blockSize + i < F.length), block[i] = F[k * blockSize + i]

theorem IsBlockOf.take_drop {q len : Nat} {block : Block} (hb : IsBlockOf F (q / blockSize) block)
    (h1 : q % blockSize + len ≤ blockSize) (h2 : q + len ≤ F.length) :
    (block.toList.drop (q % blockSize)).take len = window F q len := by
  apply List.ext_getElem
  · simp [window]
    omega
  · intro i hi hi'
    have hq : q / blockSize * blockSize + q % blockSize = q := Nat.div_add_mod' q blockSize
    have hlen : i < len := by simp only [length_window] at hi'; omega
    have h := hb (q % blockSize + i) (by omega) (by omega)
    simp only [window, List.getElem_take, List.getElem_drop, Vector.getElem_toList]
    rw [h]
    congr 1
    omega

/-- Fetching at `q` delivers the block of `F` that holds `q`, whatever the library's state. -/
def Serves (F : Bytes) (fetch : Nat → Act σ IoError Block) (q : Nat) : Prop :=
  ∀ lib, ∃ block lib', fetch q lib = .ret (.ok block, lib') ∧ IsBlockOf F (q / blockSize) block

structure ReadInv (F : Bytes) (Good : Nat → Prop) (p : Nat) (buf : Bytes) (st : ReadState σ) :
    Prop where
  position : st.bytesRead = p + st.bufRead
  bound : st.bufRead ≤ (window F p buf.length).length
  content : st.buf = window F p st.bufRead ++ buf.drop st.bufRead
  good : ∀ q, p ≤ q → q < st.bytesRead → Good (q / blockSize)

theorem ReadInv.start (Good : Nat → Prop) (p : Nat) (buf : Bytes) (lib : σ) :
    ReadInv F Good p buf ⟨p, 0, buf, lib⟩ where
  position := rfl
  bound := Nat.zero_le _
  content := by simp [window]
  good := by intro q h1 h2; simp at h2; omega

theorem ReadInv.buf_length {Good : Nat → Prop} {p : Nat} {buf : Bytes} {st : ReadState σ}
    (h : ReadInv F Good p buf st) : st.buf.length = buf.length := by
  have hb := h.bound
  rw [length_window] at hb
  rw [h.content, List.length_append, length_window, List.length_drop]
  omega

theorem ReadInv.round {Good : Nat → Prop} {p : Nat} {buf : Bytes} {st : ReadState σ}
    {block : Block} (h : ReadInv F Good p buf st) (lib : σ)
    (hg : readGuard F.length st = true) (hb : IsBlockOf F (st.bytesRead / blockSize) block)
    (hgood : Good (st.bytesRead / blockSize)) :
    ReadInv F Good p buf (roundState F.length st block lib) := by
  obtain ⟨hfile, hbuf⟩ := (readGuard_iff st).mp hg
  have hlen := h.buf_length
  have hpos := h.position
  have hin := roundLen_in_block F.length st.bytesRead (st.buf.length - st.bufRead)
  have hrem := roundLen_le F.length st.bytesRead (st.buf.length - st.bufRead)
  have hend := roundLen_in_file hfile (st.buf.length - st.bufRead)
  refine ⟨?_, ?_, ?_, ?_⟩
  · simp only [roundState]
    omega
  · simp only [roundState, length_window]
    omega
  · have hw : (window F p st.bufRead).length = st.bufRead := by
      rw [length_window]
      omega
    simp only [roundState]
    rw [hb.take_drop hin hend, h.content, List.take_left' hw, ← window_append, hw, ← hpos,
      List.drop_append, hw]
    have hdrop : (window F p st.bufRead).drop
        (st.bufRead + roundLen F.length st.bytesRead (st.buf.length - st.bufRead)) = [] :=
      List.drop_eq_nil_of_le (by omega)
    rw [← h.content, hdrop, List.nil_append, List.drop_drop, Nat.add_sub_cancel_left]
  · intro q h1 h2
    by_cases hq : q < st.bytesRead
    · exact h.good q h1 hq
    · -- the bytes of one round all lie in the block that was fetched
      have hsame : q / blockSize = st.bytesRead / blockSize := by
        simp only [roundState] at h2
        unfold blockSize at *
        omega
      rw [hsame]
      exact hgood

theorem ReadInv.finished {Good : Nat → Prop} {p : Nat} {buf : Bytes} {st : ReadState σ}
    (h : ReadInv F Good p buf st) (hg : readGuard F.length st = false) :
    st.bufRead = (window F p buf.length).length := by
  have hlen := h.buf_length
  have hpos := h.position
  have hbound := h.bound
  have hstop : ¬ (st.bytesRead < F.length ∧ st.bufRead < st.buf.length) := by
    rw [← readGuard_iff, hg]
    simp
  rw [length_window] at hbound ⊢
  omega

/-- A read whose good blocks are served and whose other blocks panic: it either delivers
everything, all of it from good blocks, or panics, and then it needed a bad one. -/
theorem readLoop_sat {Good : Nat → Prop} (p : Nat) (buf : Bytes) (lib : σ)
    (served : ∀ q, p ≤ q → q < F.length → Good (q / blockSize) → Serves F fetch q)
    (stuck : ∀ q, p ≤ q → q < F.length → ¬ Good (q / blockSize) →
      ∀ lib, ∃ why, fetch q lib = .panic why) :
    (readLoop F.length fetch ⟨p, 0, buf, lib⟩).Sat
      (Act.post (fun n st => n = (window F p buf.length).length ∧ st.bytesRead = p + n ∧
          st.buf = overwrite buf (window F p buf.length) ∧
          ∀ q, p ≤ q → q < p + n → Good (q / blockSize))
        fun _ _ => False)
      fun _ => ∃ q, p ≤ q ∧ q < p + (window F p buf.length).length ∧ ¬ Good (q / blockSize) := by
  have round : ∀ st, ReadInv F Good p buf st → readGuard F.length st = true →
      (readRound F.length fetch st).Sat
        (Act.post (fun _ st' => ReadInv F Good p buf st' ∧
          st'.buf.length - st'.bufRead < st.buf.length - st.bufRead) fun _ _ => False)
        fun _ => ∃ q, p ≤ q ∧ q < p + (window F p buf.length).length ∧ ¬ Good (q / blockSize) := by
    intro st hI hg
    obtain ⟨hfile, hbuf⟩ := (readGuard_iff st).mp hg
    have hpos := hI.position
    have hlen := hI.buf_length
    by_cases hgood : Good (st.bytesRead / blockSize)
    · obtain ⟨block, lib', hf, hb⟩ := served _ (by omega) hfile hgood st.lib
      have hprogress : 0 < roundLen F.length st.bytesRead (st.buf.length - st.bufRead) :=
        roundLen_pos hfile (by omega)
      have hnext := hI.round lib' hg hb hgood
      rw [readRound_ok hg hf]
      refine ⟨hnext, ?_⟩
      rw [hnext.buf_length, hlen]
      simp only [roundState]
      omega
    · obtain ⟨why, hf⟩ := stuck _ (by omega) hfile hgood st.lib
      rw [readRound_panic hf]
      exact ⟨st.bytesRead, by omega, by rw [length_window]; omega, hgood⟩
  apply Act.sat_bind (Act.whileLoop_sat round _ _ (ReadInv.start Good p buf lib) (by simp))
  intro _ st ⟨hI, hg⟩
  have hn := hI.finished hg
  have hle : (window F p buf.length).length ≤ buf.length := by
    rw [length_window]
    exact Nat.min_le_left _ _
  have hcontent := hI.content
  rw [hn] at hcontent
  refine ⟨hn, hI.position, ?_, fun q h1 h2 => hI.good q h1 (hI.position ▸ h2)⟩
  rw [hcontent, overwrite_of_le hle, length_window]
  congr 1
  simp only [window, List.take_eq_take_iff, List.length_drop]
  omega

section Outcomes
variable {Good : Nat → Prop} {p : Nat} {buf : Bytes}
variable (served : ∀ q, p ≤ q → q < F.length → Good (q / blockSize) → Serves F fetch q)
variable (stuck : ∀ q, p ≤ q → q < F.length → ¬ Good (q / blockSize) →
  ∀ lib, ∃ why, fetch q lib = .panic why)
include served stuck

theorem readLoop_ok (all : ∀ q, p ≤ q → q < F.length → q < p + buf.length → Good (q / blockSize))
    (lib : σ) :
    ∃ st, readLoop F.length fetch ⟨p, 0, buf, lib⟩ =
        .ret (.ok (window F p buf.length).length, st) ∧
      st.bytesRead = p + (window F p buf.length).length ∧
      st.buf = overwrite buf (window F p buf.length) := by
  have hsat := readLoop_sat p buf lib served stuck
  have hpanic : ∀ _ : Panic,
      ¬ ∃ q, p ≤ q ∧ q < p + (window F p buf.length).length ∧ ¬ Good (q / blockSize) := by
    rintro _ ⟨q, h1, h2, hbad⟩
    rw [length_window] at h2
    exact hbad (all q h1 (by omega) (by omega))
  obtain ⟨⟨res, st⟩, heq, hpost⟩ := hsat.exists_ret hpanic
  cases res with
  | ok n =>
    obtain ⟨rfl, hpos, hbuf, _⟩ := hpost
    exact ⟨st, heq, hpos, hbuf⟩
  | error e => exact hpost.elim

theorem readLoop_panic
    (bad : ∃ q, p ≤ q ∧ q < F.length ∧ q < p + buf.length ∧ ¬ Good (q / blockSize)) (lib : σ) :
    ∃ why, readLoop F.length fetch ⟨p, 0, buf, lib⟩ = .panic why := by
  obtain ⟨q, h1, h2, h3, hbad⟩ := bad
  have hsat := readLoop_sat p buf lib served stuck
  refine Exists.imp ?_ (hsat.exists_panic ?_)
  · rintro why ⟨heq, _⟩
    exact heq
  · rintro ⟨res, st⟩ hr
    cases res with
    | ok n =>
      obtain ⟨hn, _, _, hgood⟩ := hr
      rw [length_window] at hn
      exact hbad (hgood q h1 (by omega))
    | error e => exact hr

end Outcomes

theorem readLoop_served (p : Nat) (buf : Bytes)
    (served : ∀ q, p ≤ q → q < F.length → Serves F fetch q) (lib : σ) :
    ∃ st, readLoop F.length fetch ⟨p, 0, buf, lib⟩ =
        .ret (.ok (window F p buf.length).length, st) ∧
      st.bytesRead = p + (window F p buf.length).length ∧
      st.buf = overwrite buf (window F p buf.length) :=
  @readLoop_ok _ F fetch (fun _ => True) p buf (fun q h1 h2 _ => served q h1 h2)
    (fun _ _ _ h => absurd trivial h) (fun _ _ _ _ => trivial) lib

end Served

/-- One operation of a reader as its user sees it: the answer and the reader's position. -/
def readerOp (read : Nat → Bytes → σ → Exec (Except IoError Nat × ReadState σ))
    (seek : Nat → SeekFrom → Except IoError Nat × Nat) :
    Op UInt8 → Nat → σ → Exec (Obs IoError UInt8 × Nat × σ)
  | .read buf, p, lib => do
    let (res, st) ← read p buf lib
    return (.read res st.buf, st.bytesRead, st.lib)
  | .seek pos, p, lib => .ret (.seek (seek p pos).1, (seek p pos).2, lib)

abbrev fileStep (F : Bytes) : Op UInt8 → Nat → Obs IoError UInt8 × Nat := step F

theorem readerOp_seek_conforms {F : Bytes}
    {read : Nat → Bytes → σ → Exec (Except IoError Nat × ReadState σ)}
    {seek : Nat → SeekFrom → Except IoError Nat × Nat} {pos : SeekFrom} {p : Nat}
    (h : seek p pos = (.ok (pos.target F.length p).toNat, (pos.target F.length p).toNat)) :
    Conforms (readerOp read seek) (fileStep F) (.seek pos) p := by
  intro lib
  exact ⟨lib, by simp [readerOp, h, step]⟩

theorem readerOp_read_conforms {F : Bytes}
    {read : Nat → Bytes → σ → Exec (Except IoError Nat × ReadState σ)}
    {seek : Nat → SeekFrom → Except IoError Nat × Nat} {buf : Bytes} {p : Nat}
    (h : ∀ lib, ∃ st, read p buf lib = .ret (.ok (window F p buf.length).length, st) ∧
      st.bytesRead = p + (window F p buf.length).length ∧
      st.buf = overwrite buf (window F p buf.length)) :
    Conforms (readerOp read seek) (fileStep F) (.read buf) p := by
  intro lib
  obtain ⟨st, heq, hpos, hbuf⟩ := h lib
  refine ⟨st.lib, ?_⟩
  simp [readerOp, heq, hpos, hbuf, step]

end LibcdioRs
