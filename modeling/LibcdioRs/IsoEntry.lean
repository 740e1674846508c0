import LibcdioRs.EntryReader

/-!
# Reading an ISO 9660 entry

`IsoEntryReader` over the C function `iso9660_iso_seek_read`. The abstract view
is a cursor over the file's bytes: the sectors from the entry's first one on,
as far as the entry's size goes.
-/

namespace LibcdioRs

open Rust Cursor Interleave
set_option autoImplicit false

/-- The fields of `iso9660_stat_s` that the reader uses. -/
structure IsoEntry where
  totalSize : UInt64
  lsn : Int32

structure IsoEntryReader where
  bytesRead : Nat
  entry : IsoEntry

def IsoEntry.reader (entry : IsoEntry) : IsoEntryReader := ⟨0, entry⟩

/-- `iso9660_iso_seek_read` for one block at the given sector: the returned count and what
the block holds afterwards. -/
structure IsoLib (σ : Type) where
  seekRead : Int32 → σ → (Int × Block) × σ

variable {σ : Type}

namespace IsoEntryReader

/-- The part of the loop of `read` that gets the block. The cast of the block index to `i32`
drops its high bits. -/
def fetch (T : Target) (L : IsoLib σ) (entry : IsoEntry) (bytesRead : Nat) :
    Act σ IoError Block := do
  let lsn ← Act.lift (T.addI32 entry.lsn (.ofNat (bytesRead / blockSize)))
  let (ret, block) ← Act.call (L.seekRead lsn)
  if ret ≠ blockSize then
    Act.fail ⟨"error reading block at lsn: " ++ toString lsn⟩
  else
    pure block

def read (T : Target) (L : IsoLib σ) (r : IsoEntryReader) (buf : Bytes) (lib : σ) :
    Exec (Except IoError Nat × ReadState σ) :=
  readLoop (T.asUsize r.entry.totalSize.toNat) (fetch T L r.entry) ⟨r.bytesRead, 0, buf, lib⟩

def seek (T : Target) (r : IsoEntryReader) (pos : SeekFrom) : Except IoError Nat × IsoEntryReader :=
  let bytesRead := seekPosition T r.entry.totalSize r.bytesRead pos
  (.ok bytesRead, { r with bytesRead := bytesRead })

def op (T : Target) (L : IsoLib σ) (entry : IsoEntry) :
    Op UInt8 → Nat → σ → Exec (Obs IoError UInt8 × Nat × σ) :=
  readerOp (fun p => read T L ⟨p, entry⟩) fun p pos =>
    ((seek T ⟨p, entry⟩ pos).1, (seek T ⟨p, entry⟩ pos).2.bytesRead)

end IsoEntryReader

def IsoEntry.blocks (entry : IsoEntry) : Nat :=
  (entry.totalSize.toNat + (blockSize - 1)) / blockSize

/-- The bytes of the entry: byte `i` is byte `i % 2048` of sector `lsn + i / 2048`. -/
def IsoEntry.file (entry : IsoEntry) (disc : Int → Block) : Bytes :=
  (List.range entry.totalSize.toNat).map fun i =>
    (disc (entry.lsn.toInt + (i / blockSize : Nat))).get ⟨i % blockSize, Nat.mod_lt _ (by decide)⟩

/-- Every single-block read succeeds and stores the fixed contents of its sector. -/
structure IsoLib.Reads (L : IsoLib σ) (disc : Int → Block) : Prop where
  count : ∀ lsn s, (L.seekRead lsn s).1.1 = blockSize
  block : ∀ lsn s, (L.seekRead lsn s).1.2 = disc lsn.toInt

def IsoLib.ofDisc (disc : Int → Block) : IsoLib Unit :=
  ⟨fun lsn s => ((blockSize, disc lsn.toInt), s)⟩

theorem IsoLib.ofDisc_reads (disc : Int → Block) : (IsoLib.ofDisc disc).Reads disc :=
  ⟨fun _ _ => rfl, fun _ _ => rfl⟩

@[simp] theorem IsoEntry.length_file (entry : IsoEntry) (disc : Int → Block) :
    (entry.file disc).length = entry.totalSize.toNat := by
  simp [IsoEntry.file]

theorem IsoEntry.isBlockOf_file (entry : IsoEntry) (disc : Int → Block) (k : Nat) :
    IsBlockOf (entry.file disc) k (disc (entry.lsn.toInt + k)) := by
  intro i h h'
  have hdiv : (k * blockSize + i) / blockSize = k := by
    rw [Nat.mul_comm, Nat.mul_add_div (by decide), Nat.div_eq_of_lt h, Nat.add_zero]
  have hmod : (k * blockSize + i) % blockSize = i := by
    rw [Nat.mul_comm, Nat.mul_add_mod, Nat.mod_eq_of_lt h]
  simp only [IsoEntry.file, List.getElem_map, List.getElem_range, hdiv, hmod]
  rfl

section Addressing
variable {T : Target} {L : IsoLib σ} {disc : Int → Block} {entry : IsoEntry}

/-- Block indices that the code can turn into a sector number: all of them where overflow
wraps, those that an `i32` holds where it is checked. -/
def IndexFits (T : Target) (k : Nat) : Prop := T.overflowChecks = true → k < 2 ^ 31

theorem lsn_add_toInt {k : Nat} (h : entry.lsn.toInt + k < 2 ^ 31) :
    (entry.lsn + .ofNat k).toInt = entry.lsn.toInt + k := by
  have hlo := entry.lsn.le_toInt
  have hsum : (entry.lsn.toInt + k).bmod (2 ^ 32) = entry.lsn.toInt + k :=
    Int.bmod_eq_of_le (by omega) (by omega)
  rw [Int32.toInt_add, Int32.toInt_ofNat', Int.add_bmod_bmod]
  exact hsum

theorem addI32_lsn {k : Nat} (h : entry.lsn.toInt + k < 2 ^ 31) (hk : IndexFits T k) :
    T.addI32 entry.lsn (.ofNat k) = .ret (entry.lsn + .ofNat k) := by
  apply T.addI32_eq
  intro hc
  rw [lsn_add_toInt h, Int32.toInt_ofNat_of_lt (hk hc)]

theorem addI32_lsn_panic {k : Nat} (h : entry.lsn.toInt + k < 2 ^ 31) (hk : ¬ IndexFits T k) :
    T.addI32 entry.lsn (.ofNat k) = .panic .overflow := by
  have hk' : T.overflowChecks = true ∧ 2 ^ 31 ≤ k := by
    unfold IndexFits at hk
    push Not at hk
    exact hk
  have hlo := entry.lsn.le_toInt
  apply T.addI32_panic hk'.1
  rw [lsn_add_toInt h, Int32.toInt_ofNat']
  have hcast : (k : Int).bmod Int32.size < ((Int32.size : Int) + 1) / 2 := Int.bmod_lt (by decide)
  have hhalf : ((Int32.size : Int) + 1) / 2 = 2 ^ 31 := by decide
  omega

theorem lsn_add_lt (hfit : entry.lsn.toInt + entry.blocks < 2 ^ 31) {q : Nat}
    (hq : q < entry.totalSize.toNat) : entry.lsn.toInt + (q / blockSize : Nat) < 2 ^ 31 := by
  unfold IsoEntry.blocks blockSize at hfit
  unfold blockSize
  omega

theorem fetch_serves (hL : L.Reads disc) {q : Nat}
    (h : entry.lsn.toInt + (q / blockSize : Nat) < 2 ^ 31) (hk : IndexFits T (q / blockSize)) :
    Serves (entry.file disc) (IsoEntryReader.fetch T L entry) q := by
  intro lib
  have hcount := hL.count (entry.lsn + .ofNat (q / blockSize)) lib
  have hblock := hL.block (entry.lsn + .ofNat (q / blockSize)) lib
  refine ⟨disc (entry.lsn.toInt + (q / blockSize : Nat)),
    (L.seekRead (entry.lsn + .ofNat (q / blockSize)) lib).2, ?_, entry.isBlockOf_file disc _⟩
  rw [lsn_add_toInt h] at hblock
  simp only [IsoEntryReader.fetch, addI32_lsn h hk, Act.lift_ret_bind_apply, Act.call_bind_apply,
    hcount, hblock, ne_eq, not_true_eq_false, if_false]
  rfl

theorem fetch_panic {q : Nat} (h : entry.lsn.toInt + (q / blockSize : Nat) < 2 ^ 31)
    (hk : ¬ IndexFits T (q / blockSize)) (lib : σ) :
    ∃ why, IsoEntryReader.fetch T L entry q lib = .panic why := by
  refine ⟨.overflow, ?_⟩
  simp only [IsoEntryReader.fetch, addI32_lsn_panic h hk, Act.lift_panic_bind_apply]

def BlockIndexFits (T : Target) (F : Bytes) : Op UInt8 → Nat → Prop
  | .read buf, p => ∀ q, p ≤ q → q < F.length → q < p + buf.length → IndexFits T (q / blockSize)
  | .seek _, _ => True

section Steps
variable (hfit : entry.lsn.toInt + entry.blocks < 2 ^ 31)
include hfit

theorem fetch_served (hL : L.Reads disc) (q : Nat) (hq : q < (entry.file disc).length)
    (hk : IndexFits T (q / blockSize)) :
    Serves (entry.file disc) (IsoEntryReader.fetch T L entry) q := by
  rw [entry.length_file] at hq
  exact fetch_serves hL (lsn_add_lt hfit hq) hk

theorem fetch_stuck (q : Nat) (hq : q < (entry.file disc).length)
    (hk : ¬ IndexFits T (q / blockSize)) (lib : σ) :
    ∃ why, IsoEntryReader.fetch T L entry q lib = .panic why := by
  rw [entry.length_file] at hq
  exact fetch_panic (lsn_add_lt hfit hq) hk lib

variable (hT : T.usizeWidth = .w64) (hL : L.Reads disc)
include hT hL

theorem op_conforms (o : Op UInt8) (p : Nat) (hr : InRange 64 (entry.file disc) o p)
    (hk : BlockIndexFits T (entry.file disc) o p) :
    Conforms (IsoEntryReader.op T L entry) (fileStep (entry.file disc)) o p := by
  cases o with
  | read buf =>
    apply readerOp_read_conforms
    intro lib
    have h := readLoop_ok (fun q _ hq => fetch_served hfit hL q hq)
      (fun q _ hq => fetch_stuck hfit q hq) hk lib
    rw [entry.length_file] at h
    simpa only [IsoEntryReader.read, Target.asUsize_u64 hT] using h
  | seek pos =>
    obtain ⟨h0, h1⟩ := hr
    apply readerOp_seek_conforms
    rw [entry.length_file] at h0 h1 ⊢
    simp only [IsoEntryReader.seek, seekPosition_eq hT h0 h1]

theorem op_stuck (o : Op UInt8) (p : Nat) (lib : σ)
    (hk : ¬ BlockIndexFits T (entry.file disc) o p) :
    ∃ why, IsoEntryReader.op T L entry o p lib = .panic why := by
  cases o with
  | read buf =>
    have hbad : ∃ q, p ≤ q ∧ q < (entry.file disc).length ∧ q < p + buf.length ∧
        ¬ IndexFits T (q / blockSize) := by
      unfold BlockIndexFits at hk
      push Not at hk
      exact hk
    obtain ⟨why, h⟩ := readLoop_panic (fun q _ hq => fetch_served hfit hL q hq)
      (fun q _ hq => fetch_stuck hfit q hq) hbad lib
    rw [entry.length_file] at h
    refine ⟨why, ?_⟩
    simp [IsoEntryReader.op, readerOp, IsoEntryReader.read, Target.asUsize_u64 hT, h]
  | seek pos => exact absurd trivial hk

/-- A reader run from its start answers as a cursor over the file does exactly when no read
needs a block whose index the build cannot add to the first sector; and how the buffers are
cut makes no difference to what the reads deliver. -/
theorem run_eq_cursor_iff (lib : σ) :
    (∀ os, Allowed (fileStep (entry.file disc)) (InRange 64 (entry.file disc)) os
        entry.reader.bytesRead →
      ((∃ lib', run (IsoEntryReader.op T L entry) os entry.reader.bytesRead lib =
          .ret ((solo (fileStep (entry.file disc)) os 0).1,
            (solo (fileStep (entry.file disc)) os 0).2, lib')) ↔
        Allowed (fileStep (entry.file disc)) (BlockIndexFits T (entry.file disc)) os 0)) ∧
    ∀ (bufs : List Bytes) (p : Nat),
      Allowed (fileStep (entry.file disc)) (BlockIndexFits T (entry.file disc))
        (bufs.map .read) p →
      ∃ obs p' lib', run (IsoEntryReader.op T L entry) (bufs.map .read) p lib =
          .ret (obs, p', lib') ∧
        obs.flatMap delivered = window (entry.file disc) p (bufs.map List.length).sum := by
  have step := op_conforms hfit hT hL
  constructor
  · intro os hr
    apply run_eq_solo_iff step _ os 0 lib hr
    intro o p lib _ hk r hret
    obtain ⟨why, h⟩ := op_stuck hfit hT hL o p lib hk
    rw [h] at hret
    cases hret
  · intro bufs p hk
    have hboth : Allowed (fileStep (entry.file disc))
        (fun o q => InRange 64 (entry.file disc) o q ∧ BlockIndexFits T (entry.file disc) o q)
        (bufs.map .read) p := by
      apply Allowed.imp _ p hk
      intro o ho q hq
      obtain ⟨buf, _, rfl⟩ := List.mem_map.mp ho
      exact ⟨trivial, hq⟩
    obtain ⟨lib', h⟩ := run_eq_solo (fun o q h => step o q h.1 h.2) _ _ lib hboth
    exact ⟨_, _, lib', h, solo_reads _ bufs p⟩

end Steps

end Addressing

section Concrete

def zeroBlock : Block := Vector.replicate blockSize 0

def wideFile : IsoEntry := ⟨0x400_0000_0001, Int32.minValue⟩

/-- The sectors of `wideFile` are all below 2^31, and yet a checked build cannot reach the
last one: block index 2^31 becomes negative. -/
theorem wideFile_read_panics :
    wideFile.lsn.toInt + wideFile.blocks < 2 ^ 31 ∧
    Allowed (fileStep (wideFile.file fun _ => zeroBlock))
      (InRange 64 (wideFile.file fun _ => zeroBlock))
      [.seek (.start 0x400_0000_0000), .read [7]] 0 ∧
    run (IsoEntryReader.op ⟨.w64, .w64, true⟩ (.ofDisc fun _ => zeroBlock) wideFile)
      [.seek (.start 0x400_0000_0000), .read [7]] wideFile.reader.bytesRead () =
        .panic .overflow := by
  refine ⟨by decide, ⟨?_, trivial, trivial⟩, rfl⟩
  exact ⟨Int.natCast_nonneg _, by decide⟩

def shortFile : IsoEntry := ⟨5000, 27⟩

def shortBytes : Bytes := shortFile.file fun _ => zeroBlock

def shortRun : List (Op UInt8) := [.read [1, 2, 3], .seek (.fromEnd (-2)), .read [4, 5, 6]]

theorem shortFile_run_eq_cursor :
    ∃ lib', run (IsoEntryReader.op ⟨.w64, .w64, true⟩ (.ofDisc fun _ => zeroBlock) shortFile)
        shortRun shortFile.reader.bytesRead () =
      .ret ((solo (fileStep shortBytes) shortRun 0).1, (solo (fileStep shortBytes) shortRun 0).2,
        lib') := by
  have hlen : shortBytes.length = 5000 := shortFile.length_file _
  have hindex : ∀ q, q < shortBytes.length → q / blockSize < 2 ^ 31 := by
    intro q hq
    unfold blockSize
    omega
  have hrange : Allowed (fileStep shortBytes) (InRange 64 shortBytes) shortRun 0 := by
    simp only [shortRun, Allowed, InRange, SeekFrom.target, hlen]
    decide
  have hfits : Allowed (fileStep shortBytes) (BlockIndexFits ⟨.w64, .w64, true⟩ shortBytes)
      shortRun 0 :=
    ⟨fun q _ hq _ _ => hindex q hq, trivial, fun q _ hq _ _ => hindex q hq, trivial⟩
  exact ((run_eq_cursor_iff (by decide) rfl (IsoLib.ofDisc_reads _) ()).1 _ hrange).mpr hfits

end Concrete

end LibcdioRs
