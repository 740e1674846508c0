import LibcdioRs.Seeking
import LibcdioRs.UdfExtents
import LibcdioRs.BlockAddresses

/-!
# Large files on a 32-bit target

The casts between the 64-bit lengths and offsets and a 32-bit `usize` drop the
high bits. What is lost shows in the positions that seeks set, and in how much
of a file is read.
-/

namespace LibcdioRs

open Rust Cursor
set_option autoImplicit false

variable {E σ : Type}

/-- The answer to a seek is an error, or it is the target and so is the position afterwards. -/
def SeekExact (size p : Nat) (pos : SeekFrom) (res : Except IoError Nat) (p' : Nat) : Prop :=
  (∃ e, res = .error e) ∨ ∃ n, res = .ok n ∧ n = pos.target size p ∧ p' = pos.target size p

/-- Reading to the end is an error, or it delivers as many bytes as the file has. -/
def LengthExact (size : Nat) (r : Exec (Except IoError Bytes)) : Prop :=
  (∃ e, r = .ret (.error e)) ∨ ∃ bs, r = .ret (.ok bs) ∧ bs.length = size

section Reading
variable {N size : Nat} {fetch : Nat → Act σ IoError Block} {Good : Nat → Prop}
variable {read : Nat → Bytes → σ → Exec (Except IoError Nat × ReadState σ)} {bufs : Nat → Bytes}

/-- Where a block that is not good makes the read panic, the right number of bytes is delivered
exactly when the loop's bound is the file's length and all blocks are good. -/
theorem lengthExact_iff (hread : RunsLoop read N fetch) (hf : Fetches N fetch Good False True)
    (hbufs : ∀ i, bufs i ≠ []) {fuel : Nat} (hfuel : N < fuel) (lib : σ) :
    LengthExact size (readToEnd read bufs fuel 0 0 lib) ↔
      N = size ∧ ∀ q, q < N → Good (q / blockSize) := by
  have hsat := readToEnd_counts hread hf hbufs fuel 0 0 lib hfuel
  constructor
  · intro hexact
    rcases hexact with ⟨e, he⟩ | ⟨bs, hbs, hsize⟩
    · rw [he] at hsat
      rcases hsat with ⟨bs, hbs, _⟩ | ⟨_, hfalse, _⟩
      · cases hbs
      · exact hfalse.elim
    · rw [hbs] at hsat
      rcases hsat with ⟨bs', heq, hcount, hnone⟩ | ⟨_, hfalse, _⟩
      · cases heq
        refine ⟨hcount.symm.trans hsize, ?_⟩
        intro q hq
        by_contra hbad
        exact hnone ⟨q, Nat.zero_le q, hq, hbad⟩
      · exact hfalse.elim
  · intro hsize
    rcases hsize with ⟨rfl, hgood⟩
    have hnone : ¬ NeedsBad N Good 0 := by
      intro hneeds
      rcases hneeds with ⟨q, _, hq, hbad⟩
      exact hbad (hgood q hq)
    obtain ⟨r, hr, hpost⟩ := hsat.exists_ret fun _ h => hnone h.2
    rcases hpost with ⟨bs, rfl, hcount, _⟩ | ⟨_, hfalse, _⟩
    · exact .inr ⟨bs, hr, hcount⟩
    · exact hfalse.elim

end Reading

section Blocks
variable {T : Target}

theorem asksLib_fetches {fileSize : Nat} {fetch : Nat → Act σ IoError Block}
    {addressable : Nat → Bool} {call : Nat → σ → Bool × σ}
    (h : AsksLib fileSize fetch addressable call) (hcall : ∀ k s, (call k s).1 = true) :
    Fetches fileSize fetch (fun k => addressable k = true) False True where
  good q hq ha lib := by
    obtain ⟨block, hb⟩ := h.ok q lib hq ha (hcall _ _)
    exact ⟨block, _, hb⟩
  bad q hq ha lib := .inr ⟨trivial, h.panic q lib hq (Bool.eq_false_iff.mpr ha)⟩

theorem lsnFits_iff {entry : IsoEntry} {k : Nat} (hk : k < 2 ^ 31) :
    LsnFits T entry k = true ↔ (T.overflowChecks = true → entry.lsn.toInt + k < 2 ^ 31) := by
  have hcast : (Int32.ofNat k).toInt = k := Int32.toInt_ofNat_of_lt hk
  simp only [LsnFits, Bool.or_eq_true, Bool.not_eq_true', beq_iff_eq, hcast]
  constructor
  · intro hfits hc
    rcases hfits with hno | hsum
    · exact absurd hno (by rw [hc]; decide)
    · rw [← hsum]
      exact Int32.toInt_lt _
  · intro h
    cases hc : T.overflowChecks with
    | false => exact .inl rfl
    | true => exact .inr (lsn_add_toInt (h hc))

theorem lsnFits_all_iff {entry : IsoEntry} (hsize : entry.totalSize.toNat < 2 ^ 32) :
    (∀ q, q < entry.totalSize.toNat → LsnFits T entry (q / blockSize) = true) ↔
      (T.overflowChecks = true → entry.lsn.toInt + entry.blocks ≤ 2 ^ 31) := by
  have hlsn := entry.lsn.toInt_lt
  unfold IsoEntry.blocks blockSize
  constructor
  · intro h hc
    by_cases hempty : entry.totalSize.toNat = 0
    · omega
    · have hlast := (lsnFits_iff (by omega)).mp (h (entry.totalSize.toNat - 1) (by omega)) hc
      omega
  · intro h q hq
    apply (lsnFits_iff (by omega)).mpr
    intro hc
    have hall := h hc
    omega

end Blocks

section Narrow
variable {T : Target} (hT : T.usizeWidth = .w32)
include hT

theorem asUsize_eq_iff (n : Nat) : T.asUsize n = n ↔ n < 2 ^ 32 := by
  rw [Target.asUsize, Target.usizeBits_w32 hT]
  omega

theorem seekExact_iff {size : UInt64} {p : Nat} {pos : SeekFrom} (hp : p < 2 ^ 32)
    (h0 : 0 ≤ pos.target size.toNat p) :
    SeekExact size.toNat p pos (.ok (seekPosition T size p pos)) (seekPosition T size p pos) ↔
      FitsUsize size.toNat p pos := by
  rw [← seekPosition_eq_target_iff hT hp h0]
  constructor
  · intro hseek
    rcases hseek with ⟨e, he⟩ | ⟨n, hn, _, hpos⟩
    · cases he
    · exact hpos
  · intro hpos
    exact .inr ⟨_, rfl, hpos, hpos⟩

theorem iso_lengthExact_iff {L : IsoLib σ} (hL : ∀ lsn s, (L.seekRead lsn s).1.1 = blockSize)
    (entry : IsoEntry) {bufs : Nat → Bytes} (hbufs : ∀ i, bufs i ≠ []) {fuel : Nat}
    (hfuel : entry.totalSize.toNat < fuel) (lib : σ) :
    LengthExact entry.totalSize.toNat
        (readToEnd (fun p => IsoEntryReader.read T L ⟨p, entry⟩) bufs fuel 0 0 lib) ↔
      entry.totalSize.toNat < 2 ^ 32 ∧
        (T.overflowChecks = true → entry.lsn.toInt + entry.blocks ≤ 2 ^ 31) := by
  have hle := T.asUsize_le entry.totalSize.toNat
  have hreads : ∀ k s, (L.readsBlock entry k s).1 = true := by
    intro k s
    exact beq_iff_eq.mpr (hL _ s)
  have hloop : RunsLoop (fun p => IsoEntryReader.read T L ⟨p, entry⟩)
      (T.asUsize entry.totalSize.toNat) (IsoEntryReader.fetch T L entry) := by
    intro p buf lib
    exact ⟨lib, rfl⟩
  rw [lengthExact_iff hloop (asksLib_fetches (iso_asksLib L entry _) hreads) hbufs (by omega) lib,
    asUsize_eq_iff hT]
  apply and_congr_right
  intro hsize
  rw [(asUsize_eq_iff hT _).mpr hsize]
  exact lsnFits_all_iff hsize

theorem udf_lengthExact_iff {L : UdfLib E σ} (hL : ∀ e s, (L.readBlock e s).1.1 = blockSize)
    (entry : UdfEntry E) {bufs : Nat → Bytes} (hbufs : ∀ i, bufs i ≠ []) {fuel : Nat}
    (hfuel : entry.fileLength.toNat < fuel) (lib : σ) :
    LengthExact entry.fileLength.toNat
        (readToEnd (fun p => UdfEntryReader.read T L ⟨p, entry⟩) bufs fuel 0 0 lib) ↔
      entry.fileLength.toNat < 2 ^ 32 ∧
        entry.fileLength.toNat ≤ 2 ^ (T.offTWidth.bits - 1) := by
  have hle := T.asUsize_le entry.fileLength.toNat
  have hreads : ∀ k s, (L.readsBlock entry k s).1 = true := by
    intro k s
    exact beq_iff_eq.mpr (hL entry.entry _)
  rw [lengthExact_iff (udf_runsLoop T L entry) (asksLib_fetches (udf_asksLib L entry) hreads) hbufs
    (by omega) lib, asUsize_eq_iff hT]
  apply and_congr_right
  intro hsize
  rw [(asUsize_eq_iff hT _).mpr hsize]
  exact offsetFits_iff

/-- On a 32-bit target a seek goes to its target exactly when the target is a position and the
offset of a relative seek an `isize`; and a file is read in full exactly when its length is below
2^32 and the addresses of its blocks can be computed. -/
theorem large_files_iff (iso : IsoEntry) (udf : UdfEntry E) :
    (∀ p pos, p < 2 ^ 32 → 0 ≤ pos.target iso.totalSize.toNat p →
      (SeekExact iso.totalSize.toNat p pos (IsoEntryReader.seek T ⟨p, iso⟩ pos).1
          (IsoEntryReader.seek T ⟨p, iso⟩ pos).2.bytesRead ↔
        FitsUsize iso.totalSize.toNat p pos)) ∧
    (∀ p pos, p < 2 ^ 32 → 0 ≤ pos.target udf.fileLength.toNat p →
      (SeekExact udf.fileLength.toNat p pos (UdfEntryReader.seek T ⟨p, udf⟩ pos).1
          (UdfEntryReader.seek T ⟨p, udf⟩ pos).2.bytesRead ↔
        FitsUsize udf.fileLength.toNat p pos)) ∧
    (∀ (L : IsoLib σ), (∀ lsn s, (L.seekRead lsn s).1.1 = blockSize) →
      ∀ bufs, (∀ i, bufs i ≠ []) → ∀ fuel, iso.totalSize.toNat < fuel → ∀ lib,
        (LengthExact iso.totalSize.toNat (readToEnd (fun p => IsoEntryReader.read T L ⟨p, iso⟩)
            bufs fuel 0 iso.reader.bytesRead lib) ↔
          iso.totalSize.toNat < 2 ^ 32 ∧
            (T.overflowChecks = true → iso.lsn.toInt + iso.blocks ≤ 2 ^ 31))) ∧
    ∀ (L : UdfLib E σ), (∀ e s, (L.readBlock e s).1.1 = blockSize) →
      ∀ bufs, (∀ i, bufs i ≠ []) → ∀ fuel, udf.fileLength.toNat < fuel → ∀ lib,
        (LengthExact udf.fileLength.toNat (readToEnd (fun p => UdfEntryReader.read T L ⟨p, udf⟩)
            bufs fuel 0 udf.reader.bytesRead lib) ↔
          udf.fileLength.toNat < 2 ^ 32 ∧
            udf.fileLength.toNat ≤ 2 ^ (T.offTWidth.bits - 1)) := by
  refine ⟨?_, ?_, ?_, ?_⟩
  · intro p pos hp h0
    exact seekExact_iff hT hp h0
  · intro p pos hp h0
    exact seekExact_iff hT hp h0
  · intro L hL bufs hbufs fuel hfuel lib
    exact iso_lengthExact_iff hT hL iso hbufs hfuel lib
  · intro L hL bufs hbufs fuel hfuel lib
    exact udf_lengthExact_iff hT hL udf hbufs hfuel lib

end Narrow

section Concrete

theorem smallFile_exact :
    SeekExact 3000 5 (.current 10) (IsoEntryReader.seek ⟨.w32, .w32, true⟩ ⟨5, ⟨3000, 16⟩⟩
        (.current 10)).1 15 ∧
      LengthExact 3000 (readToEnd (fun p => UdfEntryReader.read ⟨.w32, .w32, true⟩ silentUdf
        ⟨p, ⟨(), 3000⟩⟩) (fun _ => [0, 0]) 3001 0 0 ()) := by
  have h := large_files_iff (σ := Unit) (T := ⟨.w32, .w32, true⟩) rfl ⟨3000, 16⟩
    (⟨(), 3000⟩ : UdfEntry Unit)
  constructor
  · exact (h.1 5 (.current 10) (by decide) (by decide)).mpr ⟨by decide, by decide, by decide⟩
  · refine (h.2.2.2 silentUdf (fun _ _ => rfl) (fun _ => [0, 0]) ?_ 3001 (by decide) ()).mpr
      (by decide)
    intro i
    exact List.cons_ne_nil _ _

/-- Files of 4 GiB: a seek to their end goes to the start, and reading them delivers nothing. -/
theorem fourGiB_truncated :
    (IsoEntryReader.seek ⟨.w32, .w32, true⟩ ⟨0, ⟨0x1_0000_0000, 16⟩⟩ (.fromEnd 0)).1 = .ok 0 ∧
    (UdfEntryReader.seek ⟨.w32, .w32, true⟩ ⟨0, ⟨(), 0x1_0000_0000⟩⟩ (.fromEnd 0)).1 = .ok 0 ∧
    readToEnd (fun p => IsoEntryReader.read ⟨.w32, .w32, true⟩ (.ofDisc fun _ => zeroBlock)
      ⟨p, ⟨0x1_0000_0000, 16⟩⟩) (fun _ => [7]) 1 0 0 () = .ret (.ok []) ∧
    readToEnd (fun p => UdfEntryReader.read ⟨.w32, .w32, true⟩ silentUdf
      ⟨p, ⟨(), 0x1_0000_0000⟩⟩) (fun _ => [7]) 1 0 0 () = .ret (.ok []) := by
  decide +kernel

end Concrete

end LibcdioRs
