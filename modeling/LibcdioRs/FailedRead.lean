import LibcdioRs.IsoEntry
import LibcdioRs.UdfEntry

/-!
# What a failed read consumes

A read moves the position after every block. When a later block cannot be read,
the position has already passed the earlier ones, although the call delivers
nothing. Which block reads succeed is decided by the C library alone.
-/

namespace LibcdioRs

open Rust
set_option autoImplicit false

variable {E σ : Type}

def blocksUpTo (p lim : Nat) : List Nat :=
  if p < lim then List.range' (p / blockSize) ((lim - 1) / blockSize + 1 - p / blockSize) else []

def answers (call : Nat → σ → Bool × σ) : List Nat → σ → List Bool
  | [], _ => []
  | k :: ks, s => (call k s).1 :: answers call ks (call k s).2

/-- The first block read of the call fails, or none does. -/
def FailsFirstOrNever (rs : List Bool) : Prop := ∀ rest, rs = true :: rest → false ∉ rest

/-- `fetch` asks the library for the block of a position below `fileSize`, and panics where
that block cannot be addressed. -/
structure AsksLib (fileSize : Nat) (fetch : Nat → Act σ IoError Block) (addressable : Nat → Bool)
    (call : Nat → σ → Bool × σ) : Prop where
  ok : ∀ q s, q < fileSize → addressable (q / blockSize) = true →
    (call (q / blockSize) s).1 = true →
      ∃ block, fetch q s = .ret (.ok block, (call (q / blockSize) s).2)
  error : ∀ q s, q < fileSize → addressable (q / blockSize) = true →
    (call (q / blockSize) s).1 = false →
      ∃ e, fetch q s = .ret (.error e, (call (q / blockSize) s).2)
  panic : ∀ q s, q < fileSize → addressable (q / blockSize) = false →
    ∃ why, fetch q s = .panic why

theorem blocksUpTo_of_le {p lim : Nat} (h : lim ≤ p) : blocksUpTo p lim = [] :=
  if_neg (by omega)

theorem blocksUpTo_cons {q lim : Nat} (h : q < lim) :
    blocksUpTo q lim =
      q / blockSize :: blocksUpTo (q + min (lim - q) (blockSize - q % blockSize)) lim := by
  have hdiv : q / blockSize ≤ (lim - 1) / blockSize := Nat.div_le_div_right (by omega)
  have hcount : (lim - 1) / blockSize + 1 - q / blockSize =
      (lim - 1) / blockSize - q / blockSize + 1 := by omega
  rw [blocksUpTo, if_pos h, hcount, List.range'_succ]
  congr 1
  by_cases hlast : lim - q ≤ blockSize - q % blockSize
  · have hsame : (lim - 1) / blockSize = q / blockSize := by
      unfold blockSize at *
      omega
    rw [blocksUpTo_of_le (by omega), hsame, Nat.sub_self, List.range'_zero]
  · have hnext : (q + min (lim - q) (blockSize - q % blockSize)) / blockSize =
        q / blockSize + 1 := by
      unfold blockSize at *
      omega
    rw [blocksUpTo, if_pos (by omega), hnext]
    congr 1
    omega

section Loop
variable {fileSize : Nat} {fetch : Nat → Act σ IoError Block}
variable {addressable : Nat → Bool} {call : Nat → σ → Bool × σ}

def readLimit (fileSize : Nat) (st : ReadState σ) : Nat :=
  min fileSize (st.bytesRead + (st.buf.length - st.bufRead))

def answersFrom (fileSize : Nat) (addressable : Nat → Bool) (call : Nat → σ → Bool × σ)
    (st : ReadState σ) : List Bool :=
  answers call ((blocksUpTo st.bytesRead (readLimit fileSize st)).takeWhile addressable) st.lib

theorem readGuard_eq_true_iff (st : ReadState σ) (hbuf : st.bufRead ≤ st.buf.length) :
    readGuard fileSize st = true ↔ st.bytesRead < readLimit fileSize st := by
  rw [readGuard_iff, readLimit]
  omega

theorem roundState_room {st : ReadState σ} (block : Block) (lib : σ)
    (hg : readGuard fileSize st = true) :
    (roundState fileSize st block lib).bufRead ≤ (roundState fileSize st block lib).buf.length ∧
      (roundState fileSize st block lib).buf.length - (roundState fileSize st block lib).bufRead <
        st.buf.length - st.bufRead ∧
      st.bytesRead < (roundState fileSize st block lib).bytesRead := by
  obtain ⟨hfile, hroom⟩ := (readGuard_iff st).mp hg
  have hprogress := roundLen_pos hfile (Nat.sub_pos_of_lt hroom)
  have hrem := roundLen_le fileSize st.bytesRead (st.buf.length - st.bufRead)
  rw [roundState_buf_length block lib (by omega)]
  simp only [roundState]
  omega

theorem roundState_limit {st : ReadState σ} (block : Block) (lib : σ)
    (hbuf : st.bufRead ≤ st.buf.length) :
    readLimit fileSize (roundState fileSize st block lib) = readLimit fileSize st := by
  have hrem := roundLen_le fileSize st.bytesRead (st.buf.length - st.bufRead)
  simp only [readLimit, roundState_buf_length block lib hbuf]
  simp only [roundState]
  omega

theorem blocksUpTo_stop {st : ReadState σ} (hbuf : st.bufRead ≤ st.buf.length)
    (hg : readGuard fileSize st = false) :
    blocksUpTo st.bytesRead (readLimit fileSize st) = [] := by
  have hlim : ¬ st.bytesRead < readLimit fileSize st := by
    rw [← readGuard_eq_true_iff st hbuf, hg]
    exact Bool.false_ne_true
  exact blocksUpTo_of_le (Nat.le_of_not_lt hlim)

theorem answersFrom_stop {st : ReadState σ} (hbuf : st.bufRead ≤ st.buf.length)
    (hg : readGuard fileSize st = false) : answersFrom fileSize addressable call st = [] := by
  rw [answersFrom, blocksUpTo_stop hbuf hg]
  rfl

theorem answersFrom_unaddressable {st : ReadState σ} (hbuf : st.bufRead ≤ st.buf.length)
    (hg : readGuard fileSize st = true) (ha : addressable (st.bytesRead / blockSize) = false) :
    answersFrom fileSize addressable call st = [] := by
  have hlim := (readGuard_eq_true_iff st hbuf).mp hg
  rw [answersFrom, blocksUpTo_cons hlim, List.takeWhile_cons, ha]
  rfl

theorem blocksUpTo_next {st : ReadState σ} (block : Block) (lib : σ)
    (hbuf : st.bufRead ≤ st.buf.length) (hg : readGuard fileSize st = true) :
    blocksUpTo st.bytesRead (readLimit fileSize st) =
      st.bytesRead / blockSize :: blocksUpTo (roundState fileSize st block lib).bytesRead
        (readLimit fileSize (roundState fileSize st block lib)) := by
  have hlim := (readGuard_eq_true_iff st hbuf).mp hg
  have hlen : roundLen fileSize st.bytesRead (st.buf.length - st.bufRead) =
      min (readLimit fileSize st - st.bytesRead) (blockSize - st.bytesRead % blockSize) := by
    simp only [roundLen, readLimit]
    omega
  rw [blocksUpTo_cons hlim, roundState_limit block lib hbuf, ← hlen]
  rfl

theorem answersFrom_next {st : ReadState σ} (block : Block) (hbuf : st.bufRead ≤ st.buf.length)
    (hg : readGuard fileSize st = true) (ha : addressable (st.bytesRead / blockSize) = true) :
    answersFrom fileSize addressable call st =
      (call (st.bytesRead / blockSize) st.lib).1 ::
        answersFrom fileSize addressable call
          (roundState fileSize st block (call (st.bytesRead / blockSize) st.lib).2) := by
  rw [answersFrom, blocksUpTo_next block _ hbuf hg, List.takeWhile_cons, ha, if_pos rfl, answers,
    answersFrom]
  rfl

theorem readLoop_error_iff {st st' : ReadState σ} {e : IoError} :
    readLoop fileSize fetch st = .ret (.error e, st') ↔
      Act.whileLoop (readGuard fileSize) (readRound fileSize fetch) (st.buf.length + 1) st =
        .ret (.error e, st') := by
  unfold readLoop
  constructor
  · intro heq
    cases hw : Act.whileLoop (readGuard fileSize) (readRound fileSize fetch)
        (st.buf.length + 1) st with
    | ret r =>
      obtain ⟨r, s⟩ := r
      cases r with
      | ok a => rw [Act.bind_ok hw] at heq; cases heq
      | error e' => rw [Act.bind_error hw] at heq; cases heq; rfl
    | panic why => rw [Act.bind_panic hw] at heq; cases heq
    | spin => simp [Act.bind_apply, Act.bind, hw] at heq
  · intro hw
    exact Act.bind_error hw _

section Asking
variable (h : AsksLib fileSize fetch addressable call)
include h

/-- The loop ends with an error exactly when one of its block reads fails, and its position
only grows. -/
theorem whileLoop_error_iff : ∀ fuel (st : ReadState σ), st.bufRead ≤ st.buf.length →
    st.buf.length - st.bufRead < fuel →
    ((∃ e st', Act.whileLoop (readGuard fileSize) (readRound fileSize fetch) fuel st =
        .ret (.error e, st')) ↔ false ∈ answersFrom fileSize addressable call st) ∧
      ∀ e st', Act.whileLoop (readGuard fileSize) (readRound fileSize fetch) fuel st =
        .ret (.error e, st') → st.bytesRead ≤ st'.bytesRead := by
  intro fuel
  induction fuel with
  | zero => intro st _ hlt; omega
  | succ fuel ih =>
    intro st hbuf hfuel
    cases hg : readGuard fileSize st with
    | false =>
      rw [Act.whileLoop_stop hg, answersFrom_stop hbuf hg]
      simp
    | true =>
      obtain ⟨hfile, hroom⟩ := (readGuard_iff st).mp hg
      cases ha : addressable (st.bytesRead / blockSize) with
      | false =>
        obtain ⟨why, hf⟩ := h.panic _ st.lib hfile ha
        rw [Act.whileLoop_panic hg (readRound_panic hf), answersFrom_unaddressable hbuf hg ha]
        simp
      | true =>
        cases hc : (call (st.bytesRead / blockSize) st.lib).1 with
        | false =>
          obtain ⟨e, hf⟩ := h.error _ st.lib hfile ha hc
          rw [Act.whileLoop_error hg (readRound_error hf),
            answersFrom_next zeroBlock hbuf hg ha, hc]
          refine ⟨⟨fun _ => List.mem_cons_self, fun _ => ⟨_, _, rfl⟩⟩, ?_⟩
          intro e' st' heq
          cases heq
          exact Nat.le_refl _
        | true =>
          obtain ⟨block, hf⟩ := h.ok _ st.lib hfile ha hc
          let st₁ := roundState fileSize st block (call (st.bytesRead / blockSize) st.lib).2
          obtain ⟨hbuf₁, hroom₁, hpos₁⟩ :=
            roundState_room block (call (st.bytesRead / blockSize) st.lib).2 hg
          have hnext := ih st₁ hbuf₁ (by simp only [st₁]; omega)
          rw [Act.whileLoop_next hg (readRound_ok hg hf), answersFrom_next block hbuf hg ha, hc]
          refine ⟨by simpa using hnext.1, ?_⟩
          intro e' st' heq
          have hge := hnext.2 e' st' heq
          simp only [st₁] at hge
          omega

theorem readLoop_keeps_position_iff (p : Nat) (buf : Bytes) (lib : σ) :
    (∀ e st, readLoop fileSize fetch ⟨p, 0, buf, lib⟩ = .ret (.error e, st) → st.bytesRead = p) ↔
      FailsFirstOrNever (answersFrom fileSize addressable call ⟨p, 0, buf, lib⟩) := by
  let st₀ : ReadState σ := ⟨p, 0, buf, lib⟩
  have hbuf : st₀.bufRead ≤ st₀.buf.length := Nat.zero_le _
  have hloop := whileLoop_error_iff h (buf.length + 1) st₀ hbuf (Nat.lt_succ_self _)
  simp only [readLoop_error_iff]
  cases hg : readGuard fileSize st₀ with
  | false =>
    rw [answersFrom_stop hbuf hg, Act.whileLoop_stop hg]
    simp [FailsFirstOrNever]
  | true =>
    obtain ⟨hfile, hroom⟩ := (readGuard_iff st₀).mp hg
    cases ha : addressable (p / blockSize) with
    | false =>
      obtain ⟨why, hf⟩ := h.panic _ lib hfile ha
      rw [answersFrom_unaddressable hbuf hg ha, Act.whileLoop_panic hg (readRound_panic hf)]
      simp [FailsFirstOrNever]
    | true =>
      cases hc : (call (p / blockSize) lib).1 with
      | false =>
        obtain ⟨e, hf⟩ := h.error _ lib hfile ha hc
        rw [answersFrom_next zeroBlock hbuf hg ha, hc, Act.whileLoop_error hg (readRound_error hf)]
        simp [FailsFirstOrNever]
      | true =>
        obtain ⟨block, hf⟩ := h.ok _ lib hfile ha hc
        -- the first round moves the position, so only an error after it can break the contract
        let st₁ := roundState fileSize st₀ block (call (p / blockSize) lib).2
        obtain ⟨hbuf₁, hroom₁, hpos₁⟩ := roundState_room block (call (p / blockSize) lib).2 hg
        have hrest := whileLoop_error_iff h buf.length st₁ hbuf₁ hroom₁
        rw [answersFrom_next block hbuf hg ha, hc, Act.whileLoop_next hg (readRound_ok hg hf)]
        constructor
        · rintro hkeep rest heq hmem
          obtain ⟨_, rfl⟩ := List.cons.inj heq
          obtain ⟨e, st', herr⟩ := hrest.1.mpr hmem
          have hge := hrest.2 e st' herr
          rw [hkeep e st' herr] at hge
          exact absurd hpos₁ (Nat.not_lt_of_le hge)
        · intro hnone e st' herr
          exact absurd (hrest.1.mp ⟨e, st', herr⟩) (hnone _ rfl)

end Asking

end Loop

section Readers
variable {T : Target}

def LsnFits (T : Target) (entry : IsoEntry) (k : Nat) : Bool :=
  !T.overflowChecks || (entry.lsn + .ofNat k).toInt == entry.lsn.toInt + (Int32.ofNat k).toInt

def IsoLib.readsBlock (L : IsoLib σ) (entry : IsoEntry) (k : Nat) (lib : σ) : Bool × σ :=
  ((L.seekRead (entry.lsn + .ofNat k) lib).1.1 == blockSize,
    (L.seekRead (entry.lsn + .ofNat k) lib).2)

def OffsetFits (T : Target) (k : Nat) : Bool := k * blockSize < 2 ^ (T.offTWidth.bits - 1)

def UdfLib.readsBlock (L : UdfLib E σ) (entry : UdfEntry E) (k : Nat) (lib : σ) : Bool × σ :=
  let lib := (L.setpos entry.entry (k * blockSize : Nat) lib).2
  ((L.readBlock entry.entry lib).1.1 == blockSize, (L.readBlock entry.entry lib).2)

theorem addI32_of_lsnFits {entry : IsoEntry} {k : Nat} (h : LsnFits T entry k = true) :
    T.addI32 entry.lsn (.ofNat k) = .ret (entry.lsn + .ofNat k) := by
  apply T.addI32_eq
  intro hchecks
  simpa [LsnFits, hchecks] using h

theorem iso_asksLib (L : IsoLib σ) (entry : IsoEntry) (fileSize : Nat) :
    AsksLib fileSize (IsoEntryReader.fetch T L entry) (LsnFits T entry)
      (L.readsBlock entry) where
  ok q s _ ha hc := by
    refine ⟨(L.seekRead (entry.lsn + .ofNat (q / blockSize)) s).1.2, ?_⟩
    have hcount := beq_iff_eq.mp hc
    simp only [IsoEntryReader.fetch, addI32_of_lsnFits ha, Act.lift_ret_bind_apply,
      Act.call_bind_apply, hcount]
    rfl
  error q s _ ha hc := by
    have hcount := beq_eq_false_iff_ne.mp hc
    simp only [IsoEntryReader.fetch, addI32_of_lsnFits ha, Act.lift_ret_bind_apply,
      Act.call_bind_apply, if_pos hcount]
    exact ⟨_, rfl⟩
  panic q s _ ha := by
    have hadd : T.addI32 entry.lsn (.ofNat (q / blockSize)) = .panic .overflow := by
      simp only [LsnFits, Bool.or_eq_false_iff, Bool.not_eq_false', beq_eq_false_iff_ne] at ha
      exact T.addI32_panic ha.1 ha.2
    simp only [IsoEntryReader.fetch, hadd, Act.lift_panic_bind_apply]
    exact ⟨_, rfl⟩

theorem blockOffset_lt {q n : Nat} (hq : q < T.asUsize n) :
    q / blockSize * blockSize < 2 ^ T.usizeBits := by
  have hk := Nat.div_mul_le_self q blockSize
  have hn : T.asUsize n < 2 ^ T.usizeBits := Nat.mod_lt _ (Nat.two_pow_pos _)
  omega

theorem udf_asksLib (L : UdfLib E σ) (entry : UdfEntry E) :
    AsksLib (T.asUsize entry.fileLength.toNat) (UdfEntryReader.fetch T L entry) (OffsetFits T)
      (L.readsBlock entry) where
  ok q s hq ha hc := by
    have hset := setPosition_apply L entry (blockOffset_lt hq) (of_decide_eq_true ha) s
    have hcount := beq_iff_eq.mp hc
    simp only [UdfEntryReader.fetch, Act.bind_ok hset, Act.call_bind_apply]
    rw [if_neg fun hne => hne hcount]
    exact ⟨_, rfl⟩
  error q s hq ha hc := by
    have hset := setPosition_apply L entry (blockOffset_lt hq) (of_decide_eq_true ha) s
    have hcount := beq_eq_false_iff_ne.mp hc
    simp only [UdfEntryReader.fetch, Act.bind_ok hset, Act.call_bind_apply]
    rw [if_pos hcount]
    exact ⟨_, rfl⟩
  panic q s hq ha := by
    have hnone : T.tryOffT (q / blockSize * blockSize) = none := if_neg (of_decide_eq_false ha)
    have hset : UdfEntryReader.setPosition T L entry (q / blockSize) s =
        .panic (.expect "block's byte offset should fit an `off_t`") := by
      simp only [UdfEntryReader.setPosition, T.usize_eq (blockOffset_lt hq),
        Act.lift_ret_bind_apply, hnone, Act.lift_panic]
    simp only [UdfEntryReader.fetch]
    exact ⟨_, Act.bind_panic hset _⟩

/-- A read that fails leaves the position where it was exactly when the first block read of
the call fails, or none does; for both readers. -/
theorem failed_read_keeps_position_iff (T : Target) :
    (∀ (L : IsoLib σ) (entry : IsoEntry) (p : Nat) (buf : Bytes) (lib : σ),
      (∀ e st, IsoEntryReader.read T L ⟨p, entry⟩ buf lib = .ret (.error e, st) →
        st.bytesRead = p) ↔
      FailsFirstOrNever (answersFrom (T.asUsize entry.totalSize.toNat) (LsnFits T entry)
        (L.readsBlock entry) ⟨p, 0, buf, lib⟩)) ∧
    ∀ (L : UdfLib E σ) (entry : UdfEntry E) (p : Nat) (buf : Bytes) (lib : σ),
      (∀ e st, UdfEntryReader.read T L ⟨p, entry⟩ buf lib = .ret (.error e, st) →
        st.bytesRead = p) ↔
      FailsFirstOrNever (answersFrom (T.asUsize entry.fileLength.toNat) (OffsetFits T)
        (L.readsBlock entry) ⟨p, 0, buf, (L.setpos entry.entry 0 lib).2⟩) := by
  constructor
  · intro L entry p buf lib
    exact readLoop_keeps_position_iff (iso_asksLib L entry _) p buf lib
  · intro L entry p buf lib
    simp only [UdfEntryReader.read_eq]
    exact readLoop_keeps_position_iff (udf_asksLib L entry) p buf _

end Readers

section Concrete

def twoBlocks : IsoEntry := ⟨4096, 0⟩

def twoBlocksUdf : UdfEntry Unit := ⟨(), 4096⟩

def IsoLib.badSecond : IsoLib Unit :=
  ⟨fun lsn s => ((if lsn = 0 then blockSize else 0, zeroBlock), s)⟩

def UdfLib.badSecond : UdfLib Unit Int where
  setpos _ offset _ := (0, offset)
  readBlock _ position := ((if position = 0 then blockSize else 0, zeroBlock), position)

/-- Both readers fail to read the second block and lose the last byte of the first one. -/
theorem badSecond_read_loses_byte :
    IsoEntryReader.read ⟨.w64, .w64, true⟩ .badSecond ⟨2047, twoBlocks⟩ [7, 7] () =
      .ret (.error ⟨"error reading block at lsn: 1"⟩, ⟨2048, 1, [0, 7], ()⟩) ∧
    UdfEntryReader.read ⟨.w64, .w64, true⟩ .badSecond ⟨2047, twoBlocksUdf⟩ [7, 7] 0 =
      .ret (.error ⟨"error reading udf block number: 1"⟩, ⟨2048, 1, [0, 7], 2048⟩) := by
  decide +kernel

end Concrete

end LibcdioRs
