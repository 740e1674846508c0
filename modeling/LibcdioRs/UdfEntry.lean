import LibcdioRs.EntryReader

/-!
# Reading a UDF entry

`UdfEntryReader` over the C functions `udf_setpos` and `udf_read_block`. All
readers of one `Udf` share the position that these functions move; a reader is
safe because it sets that position anew before every block.
-/

namespace LibcdioRs

open Rust Cursor Interleave
set_option autoImplicit false

/-- An entry: the handle `udf_dirent_s` and the length that `udf_get_file_length` gives. -/
structure UdfEntry (E : Type) where
  entry : E
  fileLength : UInt64

structure UdfEntryReader (E : Type) where
  bytesRead : Nat
  entry : UdfEntry E

def UdfEntry.reader {E : Type} (entry : UdfEntry E) : UdfEntryReader E := ⟨0, entry⟩

/-- The C functions, on the state of the `udf_t` that all entries point to. `readBlock` reads
one block: the returned count and what the block holds afterwards. -/
structure UdfLib (E σ : Type) where
  setpos : E → Int → σ → Int × σ
  readBlock : E → σ → (Int × Block) × σ

variable {E ι σ : Type}

namespace UdfEntryReader

def setPosition (T : Target) (L : UdfLib E σ) (entry : UdfEntry E) (blockNum : Nat) :
    Act σ IoError Unit := do
  let offset ← Act.lift (T.usize (blockNum * blockSize))
  match T.tryOffT offset with
  | none => Act.lift (.panic (.expect "block's byte offset should fit an `off_t`"))
  | some offset =>
    let _ ← Act.call (L.setpos entry.entry offset)

/-- The part of the loop of `read` that gets the block. -/
def fetch (T : Target) (L : UdfLib E σ) (entry : UdfEntry E) (bytesRead : Nat) :
    Act σ IoError Block := do
  let blockNum := bytesRead / blockSize
  setPosition T L entry blockNum
  let (ret, block) ← Act.call (L.readBlock entry.entry)
  if ret ≠ blockSize then
    Act.fail ⟨"error reading udf block number: " ++ toString blockNum⟩
  else
    pure block

def read (T : Target) (L : UdfLib E σ) (r : UdfEntryReader E) (buf : Bytes) (lib : σ) :
    Exec (Except IoError Nat × ReadState σ) :=
  (onLib (setPosition T L r.entry 0) >>= fun _ =>
    readLoop (T.asUsize r.entry.fileLength.toNat) (fetch T L r.entry)) ⟨r.bytesRead, 0, buf, lib⟩

def seek (T : Target) (r : UdfEntryReader E) (pos : SeekFrom) :
    Except IoError Nat × UdfEntryReader E :=
  let bytesRead := seekPosition T r.entry.fileLength r.bytesRead pos
  (.ok bytesRead, { r with bytesRead := bytesRead })

def op (T : Target) (L : UdfLib E σ) (entry : UdfEntry E) :
    Op UInt8 → Nat → σ → Exec (Obs IoError UInt8 × Nat × σ) :=
  readerOp (fun p => read T L ⟨p, entry⟩) fun p pos =>
    ((seek T ⟨p, entry⟩ pos).1, (seek T ⟨p, entry⟩ pos).2.bytesRead)

end UdfEntryReader

/-- All entries share one position: `setpos` sets it, and reading an entry's block delivers
the block of that entry's file that starts at it. Where a read leaves it is not known. -/
structure UdfLib.SharesPosition (L : UdfLib E σ) (position : σ → Int) (file : E → Bytes) :
    Prop where
  setpos : ∀ e off s, position (L.setpos e off s).2 = off
  count : ∀ e s, (L.readBlock e s).1.1 = blockSize
  block : ∀ e s (k : Nat), position s = k * blockSize → IsBlockOf (file e) k (L.readBlock e s).1.2

theorem setPosition_apply {T : Target} (L : UdfLib E σ) (entry : UdfEntry E) {k : Nat}
    (husize : k * blockSize < 2 ^ T.usizeBits)
    (hoff : k * blockSize < 2 ^ (T.offTWidth.bits - 1)) (lib : σ) :
    UdfEntryReader.setPosition T L entry k lib =
      .ret (.ok (), (L.setpos entry.entry (k * blockSize : Nat) lib).2) := by
  simp only [UdfEntryReader.setPosition, T.usize_eq husize, Act.lift_ret_bind_apply,
    T.tryOffT_eq hoff, Act.call_bind_apply]
  rfl

theorem setPosition_zero (T : Target) (L : UdfLib E σ) (entry : UdfEntry E) (lib : σ) :
    UdfEntryReader.setPosition T L entry 0 lib = .ret (.ok (), (L.setpos entry.entry 0 lib).2) :=
  setPosition_apply L entry (k := 0) (by rw [Nat.zero_mul]; exact Nat.two_pow_pos _)
    (by rw [Nat.zero_mul]; exact Nat.two_pow_pos _) lib

theorem UdfEntryReader.read_eq (T : Target) (L : UdfLib E σ) (entry : UdfEntry E) (p : Nat)
    (buf : Bytes) (lib : σ) :
    UdfEntryReader.read T L ⟨p, entry⟩ buf lib =
      readLoop (T.asUsize entry.fileLength.toNat) (UdfEntryReader.fetch T L entry)
        ⟨p, 0, buf, (L.setpos entry.entry 0 lib).2⟩ := by
  have hzero : onLib (UdfEntryReader.setPosition T L entry 0) ⟨p, 0, buf, lib⟩ =
      .ret (.ok (), ⟨p, 0, buf, (L.setpos entry.entry 0 lib).2⟩) := by
    simp only [onLib, setPosition_zero]
    rfl
  exact Act.bind_ok hzero _

section Sharing
variable {T : Target} {L : UdfLib E σ} {position : σ → Int} {file : E → Bytes}
variable (hT : T.usizeWidth = .w64) (hoff : T.offTWidth = .w64)
include hT hoff

theorem udf_fetch_serves (hL : L.SharesPosition position file) (entry : UdfEntry E) {q : Nat}
    (hq : q < 2 ^ 63) : Serves (file entry.entry) (UdfEntryReader.fetch T L entry) q := by
  intro lib
  have hk := Nat.div_mul_le_self q blockSize
  have husize : q / blockSize * blockSize < 2 ^ T.usizeBits := by
    rw [Target.usizeBits_w64 hT]
    omega
  have hoffT : q / blockSize * blockSize < 2 ^ (T.offTWidth.bits - 1) := by
    rw [hoff]
    exact Nat.lt_of_le_of_lt hk hq
  let lib₁ := (L.setpos entry.entry (q / blockSize * blockSize : Nat) lib).2
  have hpos : position lib₁ = (q / blockSize : Nat) * blockSize := by
    rw [hL.setpos]
    exact Int.natCast_mul _ _
  refine ⟨(L.readBlock entry.entry lib₁).1.2, (L.readBlock entry.entry lib₁).2, ?_,
    hL.block _ _ _ hpos⟩
  simp only [UdfEntryReader.fetch, Act.bind_ok (setPosition_apply L entry husize hoffT lib),
    Act.call_bind_apply]
  rw [if_neg (fun h => h (hL.count entry.entry lib₁))]
  rfl

theorem udf_op_conforms (hL : L.SharesPosition position file) {entry : UdfEntry E}
    (hlen : (file entry.entry).length = entry.fileLength.toNat)
    (hfit : entry.fileLength.toNat < 2 ^ 63) (o : Op UInt8) (p : Nat)
    (hr : InRange 64 (file entry.entry) o p) :
    Conforms (UdfEntryReader.op T L entry) (fileStep (file entry.entry)) o p := by
  cases o with
  | read buf =>
    apply readerOp_read_conforms
    intro lib
    have h := readLoop_served p buf
      (fun q _ hq => udf_fetch_serves hT hoff hL entry (by omega))
      (L.setpos entry.entry 0 lib).2
    rw [hlen] at h
    simpa only [UdfEntryReader.read_eq, Target.asUsize_u64 hT] using h
  | seek pos =>
    obtain ⟨h0, h1⟩ := hr
    apply readerOp_seek_conforms
    rw [hlen] at h0 h1 ⊢
    simp only [UdfEntryReader.seek, seekPosition_eq hT h0 h1]

/-- Any number of readers of one `Udf`, in any order of calls: each of them answers as it
would alone, over a private copy of its file. -/
theorem interleaved_readers_eq_solo [DecidableEq ι] (hL : L.SharesPosition position file)
    (entries : ι → UdfEntry E)
    (hlen : ∀ i, (file (entries i).entry).length = (entries i).fileLength.toNat)
    (hfit : ∀ i, (entries i).fileLength.toNat < 2 ^ 63) (sched : List (ι × Op UInt8)) (lib : σ)
    (hr : ∀ i, Allowed (fileStep (file (entries i).entry)) (InRange 64 (file (entries i).entry))
      (ofAgent i sched) (entries i).reader.bytesRead) :
    ∃ log ps lib', runAll (fun i => UdfEntryReader.op T L (entries i)) sched
        (fun i => (entries i).reader.bytesRead) lib = .ret (log, ps, lib') ∧
      ∀ i, solo (fileStep (file (entries i).entry)) (ofAgent i sched) 0 =
        (ofAgent i log, ps i) :=
  runAll_eq_solo (fun i o p h => udf_op_conforms hT hoff hL (hlen i) (hfit i) o p h) sched _ lib hr

end Sharing

section Concrete

def UdfLib.ofFiles (file : E → Bytes) : UdfLib E Int where
  setpos _ offset _ := (0, offset)
  readBlock e position :=
    ((blockSize, .ofFn fun i => (file e).getD (position.toNat + i) 0), position + blockSize)

theorem UdfLib.ofFiles_shares (file : E → Bytes) :
    (UdfLib.ofFiles file).SharesPosition id file where
  setpos _ _ _ := rfl
  count _ _ := rfl
  block e s k hs := by
    intro i h h'
    have hpos : s.toNat = k * blockSize := by
      simp only [id] at hs
      omega
    simp [UdfLib.ofFiles, hpos, h']

def twoFiles (large : Bool) : Bytes := if large then List.replicate 3000 1 else [1, 2, 3]

def threeReaders (i : Fin 3) : UdfEntry Bool := if i = 2 then ⟨false, 3⟩ else ⟨true, 3000⟩

def mixedCalls : List (Fin 3 × Op UInt8) :=
  [(0, .read [0, 0]), (2, .read [0]), (1, .seek (.start 2999)), (0, .read [0]), (1, .read [0, 0]),
    (2, .read [0, 0, 0])]

theorem mixedCalls_eq_solo :
    ∃ log ps lib', runAll (fun i => UdfEntryReader.op ⟨.w64, .w64, true⟩ (.ofFiles twoFiles)
        (threeReaders i)) mixedCalls (fun i => (threeReaders i).reader.bytesRead) 77 =
          .ret (log, ps, lib') ∧
      ∀ i, solo (fileStep (twoFiles (threeReaders i).entry)) (ofAgent i mixedCalls) 0 =
        (ofAgent i log, ps i) := by
  have hlen : ∀ i, (twoFiles (threeReaders i).entry).length =
      (threeReaders i).fileLength.toNat := by
    decide +kernel
  refine interleaved_readers_eq_solo rfl rfl (UdfLib.ofFiles_shares twoFiles) threeReaders hlen
    (by decide) mixedCalls 77 ?_
  intro i
  match i with
  | 0 => exact ⟨trivial, trivial, trivial⟩
  | 1 => exact ⟨⟨Int.natCast_nonneg _, by decide⟩, trivial, trivial⟩
  | 2 => exact ⟨trivial, trivial, trivial⟩

end Concrete

end LibcdioRs
