import LibcdioRs.AskedBlocks

/-!
# The addresses of the blocks that are read

A block that is asked for has an address in the C library's integers, and the
code computes it without a check. Which blocks a read gets to depends on its
position, its buffer and the block reads that fail before them.
-/

namespace LibcdioRs

open Rust Cursor Interleave
set_option autoImplicit false

variable {E σ : Type}

section Reach
variable {fileSize : Nat} {addressable : Nat → Bool} {call : Nat → σ → Bool × σ}

/-- A read needs only addressable blocks, or it fails at one of them before it gets to another
one. -/
def StaysAddressable (fileSize : Nat) (addressable : Nat → Bool) (call : Nat → σ → Bool × σ)
    (st : ReadState σ) : Prop :=
  (∀ k ∈ blocksUpTo st.bytesRead (readLimit fileSize st), addressable k = true) ∨
    false ∈ answersFrom fileSize addressable call st

variable {st : ReadState σ} (hbuf : st.bufRead ≤ st.buf.length)
include hbuf

theorem staysAddressable_stop (hg : readGuard fileSize st = false) :
    StaysAddressable fileSize addressable call st := by
  left
  rw [blocksUpTo_stop hbuf hg]
  intro k hk
  cases hk

variable (hg : readGuard fileSize st = true)
include hg

theorem not_staysAddressable (ha : addressable (st.bytesRead / blockSize) = false) :
    ¬ StaysAddressable fileSize addressable call st := by
  have hlim := (readGuard_eq_true_iff st hbuf).mp hg
  intro hstays
  rcases hstays with h | h
  · rw [blocksUpTo_cons hlim] at h
    exact Bool.false_ne_true (ha.symm.trans (h _ List.mem_cons_self))
  · rw [answersFrom_unaddressable hbuf hg ha] at h
    cases h

variable (ha : addressable (st.bytesRead / blockSize) = true)
include ha

theorem staysAddressable_fails (hc : (call (st.bytesRead / blockSize) st.lib).1 = false) :
    StaysAddressable fileSize addressable call st := by
  right
  rw [answersFrom_next zeroBlock hbuf hg ha, hc]
  exact List.mem_cons_self

theorem staysAddressable_next (block : Block)
    (hc : (call (st.bytesRead / blockSize) st.lib).1 = true) :
    StaysAddressable fileSize addressable call st ↔
      StaysAddressable fileSize addressable call
        (roundState fileSize st block (call (st.bytesRead / blockSize) st.lib).2) := by
  have hblocks := blocksUpTo_next block (call (st.bytesRead / blockSize) st.lib).2 hbuf hg
  rw [StaysAddressable, StaysAddressable, hblocks, answersFrom_next block hbuf hg ha, hc]
  simp [ha]

end Reach

section Returns
variable {fileSize : Nat} {fetch : Nat → Act σ IoError Block}
variable {addressable : Nat → Bool} {call : Nat → σ → Bool × σ}

theorem whileLoop_returns_iff (h : AsksLib fileSize fetch addressable call) :
    ∀ fuel (st : ReadState σ), st.bufRead ≤ st.buf.length → st.buf.length - st.bufRead < fuel →
      ((∃ r, Act.whileLoop (readGuard fileSize) (readRound fileSize fetch) fuel st = .ret r) ↔
        StaysAddressable fileSize addressable call st) := by
  intro fuel
  induction fuel with
  | zero => intro st _ hlt; omega
  | succ fuel ih =>
    intro st hbuf hfuel
    cases hg : readGuard fileSize st with
    | false =>
      rw [Act.whileLoop_stop hg]
      exact iff_of_true ⟨_, rfl⟩ (staysAddressable_stop hbuf hg)
    | true =>
      obtain ⟨hfile, _⟩ := (readGuard_iff st).mp hg
      cases ha : addressable (st.bytesRead / blockSize) with
      | false =>
        obtain ⟨why, hf⟩ := h.panic _ st.lib hfile ha
        rw [Act.whileLoop_panic hg (readRound_panic hf)]
        refine iff_of_false ?_ (not_staysAddressable hbuf hg ha)
        intro hret
        rcases hret with ⟨r, hr⟩
        cases hr
      | true =>
        cases hc : (call (st.bytesRead / blockSize) st.lib).1 with
        | false =>
          obtain ⟨e, hf⟩ := h.error _ st.lib hfile ha hc
          rw [Act.whileLoop_error hg (readRound_error hf)]
          exact iff_of_true ⟨_, rfl⟩ (staysAddressable_fails hbuf hg ha hc)
        | true =>
          obtain ⟨block, hf⟩ := h.ok _ st.lib hfile ha hc
          obtain ⟨hbuf₁, hroom₁, _⟩ :=
            roundState_room block (call (st.bytesRead / blockSize) st.lib).2 hg
          rw [Act.whileLoop_next hg (readRound_ok hg hf),
            staysAddressable_next hbuf hg ha block hc]
          exact ih _ hbuf₁ (by omega)

theorem readLoop_returns_iff (h : AsksLib fileSize fetch addressable call) (p : Nat) (buf : Bytes)
    (lib : σ) :
    (∃ r, readLoop fileSize fetch ⟨p, 0, buf, lib⟩ = .ret r) ↔
      StaysAddressable fileSize addressable call ⟨p, 0, buf, lib⟩ := by
  rw [← whileLoop_returns_iff h (buf.length + 1) ⟨p, 0, buf, lib⟩ (Nat.zero_le _)
    (Nat.lt_succ_self _)]
  unfold readLoop
  constructor
  · intro hret
    rcases hret with ⟨r, hr⟩
    cases hw : Act.whileLoop (readGuard fileSize) (readRound fileSize fetch) (buf.length + 1)
        ⟨p, 0, buf, lib⟩ with
    | ret x => exact ⟨x, rfl⟩
    | panic why => rw [Act.bind_panic hw] at hr; cases hr
    | spin => simp [Act.bind_apply, Act.bind, hw] at hr
  · rintro ⟨⟨r, st⟩, hw⟩
    cases r with
    | ok a => exact ⟨_, Act.bind_ok hw _⟩
    | error e => exact ⟨_, Act.bind_error hw _⟩

end Returns

section Congruence
variable {fileSize : Nat} {fetch fetch' : Nat → Act σ IoError Block}
variable {addressable : Nat → Bool} {call : Nat → σ → Bool × σ}

/-- Two ways to fetch a block that agree on the addressable ones make no difference to a read
that stays with them. -/
theorem readLoop_congr (agree : ∀ q lib, q < fileSize → addressable (q / blockSize) = true →
      fetch q lib = fetch' q lib)
    (h : AsksLib fileSize fetch' (fun _ => true) call) (p : Nat) (buf : Bytes) (lib : σ)
    (hstays : StaysAddressable fileSize addressable call ⟨p, 0, buf, lib⟩) :
    readLoop fileSize fetch ⟨p, 0, buf, lib⟩ = readLoop fileSize fetch' ⟨p, 0, buf, lib⟩ := by
  have hloop : ∀ fuel (st : ReadState σ), st.bufRead ≤ st.buf.length →
      StaysAddressable fileSize addressable call st →
      Act.whileLoop (readGuard fileSize) (readRound fileSize fetch) fuel st =
        Act.whileLoop (readGuard fileSize) (readRound fileSize fetch') fuel st := by
    intro fuel
    induction fuel with
    | zero => intro st _ _; rfl
    | succ fuel ih =>
      intro st hbuf hst
      cases hg : readGuard fileSize st with
      | false => rw [Act.whileLoop_stop hg, Act.whileLoop_stop hg]
      | true =>
        obtain ⟨hfile, _⟩ := (readGuard_iff st).mp hg
        cases ha : addressable (st.bytesRead / blockSize) with
        | false => exact absurd hst (not_staysAddressable hbuf hg ha)
        | true =>
          have hsame := agree st.bytesRead st.lib hfile ha
          cases hc : (call (st.bytesRead / blockSize) st.lib).1 with
          | false =>
            obtain ⟨e, hf⟩ := h.error _ st.lib hfile rfl hc
            rw [Act.whileLoop_error hg (readRound_error (hsame.trans hf)),
              Act.whileLoop_error hg (readRound_error hf)]
          | true =>
            obtain ⟨block, hf⟩ := h.ok _ st.lib hfile rfl hc
            obtain ⟨hbuf₁, _⟩ :=
              roundState_room block (call (st.bytesRead / blockSize) st.lib).2 hg
            rw [Act.whileLoop_next hg (readRound_ok hg (hsame.trans hf)),
              Act.whileLoop_next hg (readRound_ok hg hf)]
            exact ih _ hbuf₁ ((staysAddressable_next hbuf hg ha block hc).mp hst)
  simp only [readLoop, Act.bind_apply, Act.bind]
  rw [hloop (buf.length + 1) ⟨p, 0, buf, lib⟩ (Nat.zero_le _) hstays]

end Congruence

section Udf
variable (T : Target) (L : UdfLib E σ) (entry : UdfEntry E)

/-- An operation that asks for no block whose offset an `off_t` cannot hold. -/
def UdfEntryReader.StaysInOffT : Op UInt8 → Nat → σ → Prop
  | .read buf, p, lib =>
    StaysAddressable (T.asUsize entry.fileLength.toNat) (OffsetFits T) (L.readsBlock entry)
      ⟨p, 0, buf, (L.setpos entry.entry 0 lib).2⟩
  | .seek _, _, _ => True

theorem udf_op_returns_iff (o : Op UInt8) (p : Nat) (lib : σ) :
    (∃ r, UdfEntryReader.op T L entry o p lib = .ret r) ↔
      UdfEntryReader.StaysInOffT T L entry o p lib := by
  cases o with
  | seek pos => exact iff_of_true ⟨_, rfl⟩ trivial
  | read buf =>
    rw [UdfEntryReader.StaysInOffT, ← readLoop_returns_iff (udf_asksLib L entry),
      ← UdfEntryReader.read_eq]
    simp only [UdfEntryReader.op, readerOp]
    cases hr : UdfEntryReader.read T L ⟨p, entry⟩ buf lib with
    | ret x => exact iff_of_true ⟨_, rfl⟩ ⟨x, rfl⟩
    | panic why => simp
    | spin => simp

/-- A run of a reader panics exactly when one of its reads gets to a block whose offset does not
fit an `off_t`. -/
theorem udf_run_returns_iff (os : List (Op UInt8)) (lib : σ) :
    (∃ r, run (UdfEntryReader.op T L entry) os entry.reader.bytesRead lib = .ret r) ↔
      AllowedBy (UdfEntryReader.op T L entry) (UdfEntryReader.StaysInOffT T L entry) os
        entry.reader.bytesRead lib :=
  run_returns_iff (udf_op_returns_iff T L entry) os _ lib

section Concrete

def silentUdf : UdfLib Unit Unit := ⟨fun _ _ s => (0, s), fun _ s => ((blockSize, zeroBlock), s)⟩

/-- A file that claims to be longer than 2^63 bytes. -/
theorem hugeFile_read_panics :
    run (UdfEntryReader.op ⟨.w64, .w64, true⟩ silentUdf ⟨(), 0xFFFF_FFFF_FFFF_FFFF⟩)
      [.seek (.start 0x8000_0000_0000_0000), .read [7]] 0 () =
        .panic (.expect "block's byte offset should fit an `off_t`") := by
  rfl

end Concrete

end Udf

/-- The C function on sectors with integers for their numbers. -/
def IsoLib.ofSectors (disc : Int → σ → (Int × Block) × σ) : IsoLib σ := ⟨fun lsn => disc lsn.toInt⟩

namespace IsoEntryReader

/-- What `fetch` is meant to do: the sector number is computed in the integers. -/
def exactFetch (disc : Int → σ → (Int × Block) × σ) (entry : IsoEntry) (bytesRead : Nat) :
    Act σ IoError Block := do
  let lsn := entry.lsn.toInt + (bytesRead / blockSize : Nat)
  let (ret, block) ← Act.call (disc lsn)
  if ret ≠ blockSize then
    Act.fail ⟨"error reading block at lsn: " ++ toString lsn⟩
  else
    pure block

def exactRead (T : Target) (disc : Int → σ → (Int × Block) × σ) (r : IsoEntryReader) (buf : Bytes)
    (lib : σ) : Exec (Except IoError Nat × ReadState σ) :=
  readLoop (T.asUsize r.entry.totalSize.toNat) (exactFetch disc r.entry)
    ⟨r.bytesRead, 0, buf, lib⟩

def exactOp (T : Target) (disc : Int → σ → (Int × Block) × σ) (entry : IsoEntry) :
    Op UInt8 → Nat → σ → Exec (Obs IoError UInt8 × Nat × σ) :=
  readerOp (fun p => exactRead T disc ⟨p, entry⟩) fun p pos =>
    ((seek T ⟨p, entry⟩ pos).1, (seek T ⟨p, entry⟩ pos).2.bytesRead)

end IsoEntryReader

/-- The sector of block `k` has a number that an `i32` holds, and a build that checks overflow
can also compute it. -/
def SectorFits (T : Target) (entry : IsoEntry) (k : Nat) : Bool :=
  entry.lsn.toInt + k < 2 ^ 31 && (!T.overflowChecks || decide (k < 2 ^ 31))

def sectorRead (disc : Int → σ → (Int × Block) × σ) (entry : IsoEntry) (k : Nat) (lib : σ) :
    Bool × σ :=
  ((disc (entry.lsn.toInt + k) lib).1.1 == blockSize, (disc (entry.lsn.toInt + k) lib).2)

section Iso
variable (T : Target) (disc : Int → σ → (Int × Block) × σ) (entry : IsoEntry)

theorem sectorFits_iff (k : Nat) :
    SectorFits T entry k = true ↔ entry.lsn.toInt + k < 2 ^ 31 ∧ IndexFits T k := by
  unfold SectorFits IndexFits
  cases T.overflowChecks <;> simp

theorem fetch_eq_exact {q : Nat} (h : SectorFits T entry (q / blockSize) = true) (lib : σ) :
    IsoEntryReader.fetch T (.ofSectors disc) entry q lib =
      IsoEntryReader.exactFetch disc entry q lib := by
  obtain ⟨hlsn, hindex⟩ := (sectorFits_iff T entry _).mp h
  simp only [IsoEntryReader.fetch, addI32_lsn hlsn hindex, Act.lift_ret_bind_apply,
    IsoLib.ofSectors, Act.call_bind_apply, lsn_add_toInt hlsn, IsoEntryReader.exactFetch]
  rw [← lsn_add_toInt hlsn]
  rfl

theorem exact_asksLib (fileSize : Nat) :
    AsksLib fileSize (IsoEntryReader.exactFetch disc entry) (fun _ => true)
      (sectorRead disc entry) where
  ok q s _ _ hc := by
    have hcount := beq_iff_eq.mp hc
    refine ⟨(disc (entry.lsn.toInt + (q / blockSize : Nat)) s).1.2, ?_⟩
    simp only [IsoEntryReader.exactFetch, Act.call_bind_apply, hcount]
    rfl
  error q s _ _ hc := by
    have hcount := beq_eq_false_iff_ne.mp hc
    simp only [IsoEntryReader.exactFetch, Act.call_bind_apply, if_pos hcount]
    exact ⟨_, rfl⟩
  panic q s _ ha := nomatch ha

/-- An operation that asks for no sector whose number the code cannot compute. -/
def IsoEntryReader.StaysInI32 : Op UInt8 → Nat → σ → Prop
  | .read buf, p, lib =>
    StaysAddressable (T.asUsize entry.totalSize.toNat) (SectorFits T entry)
      (sectorRead disc entry) ⟨p, 0, buf, lib⟩
  | .seek _, _, _ => True

theorem iso_op_eq_exact (o : Op UInt8) (p : Nat) (lib : σ)
    (h : IsoEntryReader.StaysInI32 T disc entry o p lib) :
    IsoEntryReader.op T (.ofSectors disc) entry o p lib =
      IsoEntryReader.exactOp T disc entry o p lib := by
  cases o with
  | seek pos => rfl
  | read buf =>
    have hread : IsoEntryReader.read T (.ofSectors disc) ⟨p, entry⟩ buf lib =
        IsoEntryReader.exactRead T disc ⟨p, entry⟩ buf lib := by
      apply readLoop_congr _ (exact_asksLib disc entry _) p buf lib h
      intro q lib _ hq
      exact fetch_eq_exact T disc entry hq lib
    simp only [IsoEntryReader.op, IsoEntryReader.exactOp, readerOp, hread]

/-- The disc that also keeps the numbers of the sectors that it is asked for. -/
def recording (lsn : Int) (s : σ × List Int) : (Int × Block) × (σ × List Int) :=
  ((disc lsn s.1).1, (disc lsn s.1).2, s.2 ++ [lsn])

/-- The sectors of the blocks of an operation, up to the first one that cannot be read. -/
def IsoEntryReader.sectors : Op UInt8 → Nat → σ → List Int
  | .read buf, p, lib =>
    (askedFrom (T.asUsize entry.totalSize.toNat) (sectorRead disc entry) ⟨p, 0, buf, lib⟩).map
      fun k : Nat => entry.lsn.toInt + k
  | .seek _, _, _ => []

/-- The operation asks for its sectors and for no others. -/
def IsoEntryReader.AsksForSectors (o : Op UInt8) (p : Nat) (s : σ × List Int) : Prop :=
  ∃ r p' lib', op T (.ofSectors disc) entry o p s.1 = .ret (r, p', lib') ∧
    op T (.ofSectors (recording disc)) entry o p s =
      .ret (r, p', lib', s.2 ++ sectors T disc entry o p s.1)

theorem exactFetch_notes :
    Notes (fun k : Nat => entry.lsn.toInt + k) (IsoEntryReader.exactFetch disc entry)
      (IsoEntryReader.exactFetch (recording disc) entry) := by
  intro q s log
  have hrecord : (recording disc (entry.lsn.toInt + (q / blockSize : Nat)) (s, log)).1 =
      (disc (entry.lsn.toInt + (q / blockSize : Nat)) s).1 := rfl
  simp only [IsoEntryReader.exactFetch, Act.call_bind_apply, hrecord]
  by_cases hcount : (disc (entry.lsn.toInt + (q / blockSize : Nat)) s).1.1 = blockSize
  · simp only [if_neg (not_not_intro hcount)]
    rfl
  · simp only [if_pos hcount]
    rfl

theorem answers_recording (ks : List Nat) :
    ∀ lib log, answers (sectorRead (recording disc) entry) ks (lib, log) =
      answers (sectorRead disc entry) ks lib := by
  induction ks with
  | nil => exact fun _ _ => rfl
  | cons k ks ih =>
    intro lib log
    exact congrArg (List.cons _) (ih _ _)

theorem staysInI32_recording {o : Op UInt8} {p : Nat} {lib : σ}
    (h : IsoEntryReader.StaysInI32 T disc entry o p lib) (log : List Int) :
    IsoEntryReader.StaysInI32 T (recording disc) entry o p (lib, log) := by
  cases o with
  | seek pos => trivial
  | read buf =>
    rcases h with h | h
    · exact .inl h
    · right
      rw [answersFrom, answers_recording]
      exact h

theorem iso_op_asks {o : Op UInt8} {p : Nat} {lib : σ}
    (h : IsoEntryReader.StaysInI32 T disc entry o p lib) (log : List Int) :
    IsoEntryReader.AsksForSectors T disc entry o p (lib, log) := by
  unfold IsoEntryReader.AsksForSectors
  rw [iso_op_eq_exact T disc entry o p lib h, iso_op_eq_exact T (recording disc) entry o p
    (lib, log) (staysInI32_recording T disc entry h log)]
  cases o with
  | seek pos =>
    refine ⟨_, _, _, rfl, ?_⟩
    rw [IsoEntryReader.sectors, List.append_nil]
    rfl
  | read buf =>
    obtain ⟨r, st, hread, hread'⟩ := readLoop_asked (exact_asksLib disc entry _)
      (exactFetch_notes disc entry) p buf lib log
    refine ⟨.read r st.buf, st.bytesRead, st.lib, ?_, ?_⟩
    · simp only [IsoEntryReader.exactOp, readerOp, IsoEntryReader.exactRead]
      rw [hread]
      rfl
    · simp only [IsoEntryReader.exactOp, readerOp, IsoEntryReader.exactRead]
      rw [hread']
      rfl

/-- Each operation of such a run asks for its sectors and for no others. -/
theorem iso_run_asks (os : List (Op UInt8)) (p : Nat) (lib : σ) (log : List Int)
    (h : AllowedBy (IsoEntryReader.exactOp T disc entry)
      (IsoEntryReader.StaysInI32 T disc entry) os p lib) :
    AllowedBy (IsoEntryReader.op T (.ofSectors (recording disc)) entry)
      (IsoEntryReader.AsksForSectors T disc entry) os p (lib, log) := by
  refine AllowedBy.transfer Prod.fst ?_ os p (lib, log) h
  rintro o p ⟨lib, log⟩ ho
  have hasks := iso_op_asks T disc entry ho log
  refine ⟨hasks, ?_⟩
  intro r p' s' hop
  obtain ⟨r₁, p₁, lib₁, hplain, hrecord⟩ := hasks
  rw [hrecord] at hop
  cases hop
  rw [← iso_op_eq_exact T disc entry o p lib ho]
  exact hplain

end Iso

/-- A disc of readable sectors that keeps the numbers of those that it is asked for. -/
def recordSectors (lsn : Int) (log : List Int) : (Int × Block) × List Int :=
  ((blockSize, zeroBlock), log ++ [lsn])

theorem fetch_exact_iff (T : Target) (entry : IsoEntry) (q : Nat) :
    (∀ (disc : Int → List Int → (Int × Block) × List Int) (lib : List Int),
      IsoEntryReader.fetch T (.ofSectors disc) entry q lib =
        IsoEntryReader.exactFetch disc entry q lib) ↔ SectorFits T entry (q / blockSize) = true := by
  constructor
  · intro h
    have hlog := h recordSectors []
    have hexact : IsoEntryReader.exactFetch recordSectors entry q [] =
        .ret (.ok zeroBlock, [entry.lsn.toInt + (q / blockSize : Nat)]) := rfl
    rw [hexact] at hlog
    have hlsn : entry.lsn.toInt + (q / blockSize : Nat) < 2 ^ 31 := by
      rcases T.addI32_cases entry.lsn (.ofNat (q / blockSize)) with hadd | hadd
      · have hcode : IsoEntryReader.fetch T (.ofSectors recordSectors) entry q [] =
            .ret (.ok zeroBlock, [(entry.lsn + .ofNat (q / blockSize)).toInt]) := by
          simp only [IsoEntryReader.fetch, hadd, Act.lift_ret_bind_apply]
          rfl
        rw [hcode] at hlog
        simp only [Exec.ret.injEq, Prod.mk.injEq, List.cons.injEq] at hlog
        rw [← hlog.2.1]
        exact Int32.toInt_lt _
      · simp only [IsoEntryReader.fetch, hadd, Act.lift_panic_bind_apply] at hlog
        cases hlog
    apply (sectorFits_iff T entry _).mpr
    refine ⟨hlsn, ?_⟩
    by_contra hindex
    simp only [IsoEntryReader.fetch, addI32_lsn_panic hlsn hindex,
      Act.lift_panic_bind_apply] at hlog
    cases hlog
  · intro h disc lib
    exact fetch_eq_exact T disc entry h lib

/-- The sector numbers are right in every run whose reads get to no sector whose number cannot be
computed, and for a single block exactly when its number can be. Each operation of such a run asks
for the sectors of its blocks and for no others. -/
theorem sectors_exact (T : Target) (disc : Int → σ → (Int × Block) × σ) (entry : IsoEntry) :
    (∀ os lib, AllowedBy (IsoEntryReader.exactOp T disc entry)
        (IsoEntryReader.StaysInI32 T disc entry) os entry.reader.bytesRead lib →
      run (IsoEntryReader.op T (.ofSectors disc) entry) os entry.reader.bytesRead lib =
        run (IsoEntryReader.exactOp T disc entry) os entry.reader.bytesRead lib ∧
      ∀ log, AllowedBy (IsoEntryReader.op T (.ofSectors (recording disc)) entry)
        (IsoEntryReader.AsksForSectors T disc entry) os entry.reader.bytesRead (lib, log)) ∧
    ∀ q, (∀ (disc : Int → List Int → (Int × Block) × List Int) (lib : List Int),
      IsoEntryReader.fetch T (.ofSectors disc) entry q lib =
        IsoEntryReader.exactFetch disc entry q lib) ↔ SectorFits T entry (q / blockSize) = true := by
  constructor
  · intro os lib h
    refine ⟨run_congr (iso_op_eq_exact T disc entry) os _ lib h, ?_⟩
    intro log
    exact iso_run_asks T disc entry os _ lib log h
  · exact fetch_exact_iff T entry

section Concrete

theorem shortFile_sectors_exact :
    run (IsoEntryReader.op ⟨.w64, .w64, true⟩ (.ofSectors recordSectors) shortFile)
        [.seek (.start 4000), .read [1, 2, 3]] 0 [] =
      run (IsoEntryReader.exactOp ⟨.w64, .w64, true⟩ recordSectors shortFile)
        [.seek (.start 4000), .read [1, 2, 3]] 0 [] ∧
    AllowedBy
      (IsoEntryReader.op ⟨.w64, .w64, true⟩ (.ofSectors (recording recordSectors)) shortFile)
      (IsoEntryReader.AsksForSectors ⟨.w64, .w64, true⟩ recordSectors shortFile)
      [.seek (.start 4000), .read [1, 2, 3]] 0 ([], []) := by
  have hstays : AllowedBy (IsoEntryReader.exactOp ⟨.w64, .w64, true⟩ recordSectors shortFile)
      (IsoEntryReader.StaysInI32 ⟨.w64, .w64, true⟩ recordSectors shortFile)
      [.seek (.start 4000), .read [1, 2, 3]] 0 [] := by
    refine ⟨trivial, ?_⟩
    intro r p lib h
    cases h
    refine ⟨.inl (by decide), ?_⟩
    intro r p lib h
    trivial
  obtain ⟨hrun, hasks⟩ :=
    (sectors_exact ⟨.w64, .w64, true⟩ recordSectors shortFile).1 _ _ hstays
  exact ⟨hrun, hasks []⟩

/-- A read across the end of the second block. -/
example : IsoEntryReader.sectors ⟨.w64, .w64, true⟩ recordSectors shortFile (.read [1, 2, 3])
    4095 [] = [28, 29] := by
  decide

def topFile : IsoEntry := ⟨4096, Int32.maxValue⟩

/-- The second block of a file that starts at the last sector number: a checked build panics, and
another one asks for sector -2^31. -/
theorem topFile_read_wraps :
    run (IsoEntryReader.op ⟨.w64, .w64, true⟩ (.ofSectors recordSectors) topFile)
      [.seek (.start 2048), .read [7]] 0 [] = .panic .overflow ∧
    IsoEntryReader.read ⟨.w64, .w64, false⟩ (.ofSectors recordSectors) ⟨2048, topFile⟩ [7] [] =
      .ret (.ok 1, ⟨2049, 1, [0], [-2 ^ 31]⟩) ∧
    IsoEntryReader.exactRead ⟨.w64, .w64, false⟩ recordSectors ⟨2048, topFile⟩ [7] [] =
      .ret (.ok 1, ⟨2049, 1, [0], [2 ^ 31]⟩) := by
  refine ⟨rfl, ?_, ?_⟩ <;> decide +kernel

end Concrete

end LibcdioRs
