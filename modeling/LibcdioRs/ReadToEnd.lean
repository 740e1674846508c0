import LibcdioRs.EntryReader

/-!
# Reading a file to its end

Reads into a sequence of buffers, up to the first one that delivers nothing.
The loop of a single read is looked at here without the contents of the blocks:
how far it gets depends only on which blocks can be fetched.
-/

namespace LibcdioRs

open Rust Cursor
set_option autoImplicit false

variable {σ : Type}

/-- Read until `Ok(0)`, and collect what the reads deliver. The fuel bounds the calls. -/
def readToEnd (read : Nat → Bytes → σ → Exec (Except IoError Nat × ReadState σ))
    (bufs : Nat → Bytes) : Nat → Nat → Nat → σ → Exec (Except IoError Bytes)
  | 0, _, _, _ => .spin
  | fuel + 1, i, p, lib => do
    match ← read p (bufs i) lib with
    | (.error e, _) => return .error e
    | (.ok 0, _) => return .ok []
    | (.ok n, st) =>
      let rest ← readToEnd read bufs fuel (i + 1) st.bytesRead st.lib
      return rest.map (st.buf.take n ++ ·)

/-- A call of `read` runs the loop, after it has done something to the library's state alone. -/
def RunsLoop (read : Nat → Bytes → σ → Exec (Except IoError Nat × ReadState σ)) (fileSize : Nat)
    (fetch : Nat → Act σ IoError Block) : Prop :=
  ∀ p buf lib, ∃ lib', read p buf lib = readLoop fileSize fetch ⟨p, 0, buf, lib'⟩

section Steps
variable {read : Nat → Bytes → σ → Exec (Except IoError Nat × ReadState σ)} {bufs : Nat → Bytes}
variable {i p : Nat} {lib : σ}

theorem readToEnd_stop {st : ReadState σ} (h : read p (bufs i) lib = .ret (.ok 0, st))
    (fuel : Nat) : readToEnd read bufs (fuel + 1) i p lib = .ret (.ok []) := by
  simp only [readToEnd, h, Exec.ret_bind]
  rfl

theorem readToEnd_next {st : ReadState σ} {n : Nat} (hn : n ≠ 0)
    (h : read p (bufs i) lib = .ret (.ok n, st)) (fuel : Nat) :
    readToEnd read bufs (fuel + 1) i p lib =
      readToEnd read bufs fuel (i + 1) st.bytesRead st.lib >>= fun rest =>
        .ret (rest.map (st.buf.take n ++ ·)) := by
  obtain ⟨n, rfl⟩ := Nat.exists_eq_succ_of_ne_zero hn
  simp only [readToEnd, h, Exec.ret_bind]
  rfl

theorem readToEnd_error {st : ReadState σ} {e : IoError}
    (h : read p (bufs i) lib = .ret (.error e, st)) (fuel : Nat) :
    readToEnd read bufs (fuel + 1) i p lib = .ret (.error e) := by
  simp only [readToEnd, h, Exec.ret_bind]
  rfl

theorem readToEnd_panic {why : Panic} (h : read p (bufs i) lib = .panic why) (fuel : Nat) :
    readToEnd read bufs (fuel + 1) i p lib = .panic why := by
  simp only [readToEnd, h, Exec.panic_bind]

end Steps

section Served
variable {F : Bytes} {fetch : Nat → Act σ IoError Block}
variable {read : Nat → Bytes → σ → Exec (Except IoError Nat × ReadState σ)} {bufs : Nat → Bytes}

/-- Where every block is served, the reads deliver the file from the first position on. -/
theorem readToEnd_served (hread : RunsLoop read F.length fetch)
    (served : ∀ q, q < F.length → Serves F fetch q) (hbufs : ∀ i, bufs i ≠ []) :
    ∀ fuel i p lib, F.length - p < fuel →
      readToEnd read bufs fuel i p lib = .ret (.ok (F.drop p)) := by
  intro fuel
  induction fuel with
  | zero => intro i p lib hfuel; omega
  | succ fuel ih =>
    intro i p lib hfuel
    obtain ⟨lib', hloop⟩ := hread p (bufs i) lib
    obtain ⟨st, hst, hpos, hbuf⟩ := readLoop_served p (bufs i) (fun q _ hq => served q hq) lib'
    rw [hst] at hloop
    have hroom : 0 < (bufs i).length := List.length_pos_of_ne_nil (hbufs i)
    have hcount := length_window F p (bufs i).length
    by_cases hend : F.length ≤ p
    · have hzero : (window F p (bufs i).length).length = 0 := by omega
      rw [hzero] at hloop
      rw [readToEnd_stop hloop, List.drop_eq_nil_of_le hend]
    · have hne : (window F p (bufs i).length).length ≠ 0 := by omega
      have hle : (window F p (bufs i).length).length ≤ (bufs i).length := by omega
      have hrest := ih (i + 1) st.bytesRead st.lib (by omega)
      rw [readToEnd_next hne hloop, hrest, Exec.ret_bind, hbuf, overwrite_of_le hle,
        List.take_left, hpos, ← window_append_drop F p (bufs i).length]
      rfl

end Served

section Counted
variable {N : Nat} {fetch : Nat → Act σ IoError Block} {Good : Nat → Prop} {E Z : Prop}

/-- A fetch of a good block succeeds; a fetch of another one ends with an error, which implies
`E`, or with a panic, which implies `Z`. -/
structure Fetches (N : Nat) (fetch : Nat → Act σ IoError Block) (Good : Nat → Prop) (E Z : Prop) :
    Prop where
  good : ∀ q, q < N → Good (q / blockSize) → ∀ lib,
    ∃ block lib', fetch q lib = .ret (.ok block, lib')
  bad : ∀ q, q < N → ¬ Good (q / blockSize) → ∀ lib,
    (E ∧ ∃ e lib', fetch q lib = .ret (.error e, lib')) ∨ (Z ∧ ∃ why, fetch q lib = .panic why)

/-- How far a read has come, whatever the blocks contain. -/
structure Advanced (N : Nat) (Good : Nat → Prop) (p : Nat) (buf : Bytes) (st : ReadState σ) :
    Prop where
  position : st.bytesRead = p + st.bufRead
  bound : st.bufRead ≤ min buf.length (N - p)
  length : st.buf.length = buf.length
  good : ∀ q, p ≤ q → q < st.bytesRead → Good (q / blockSize)

def NeedsBad (N : Nat) (Good : Nat → Prop) (p : Nat) : Prop :=
  ∃ q, p ≤ q ∧ q < N ∧ ¬ Good (q / blockSize)

theorem Advanced.round {p : Nat} {buf : Bytes} {st : ReadState σ} (h : Advanced N Good p buf st)
    (block : Block) (lib : σ) (hg : readGuard N st = true)
    (hgood : Good (st.bytesRead / blockSize)) :
    Advanced N Good p buf (roundState N st block lib) := by
  obtain ⟨hfile, hroom⟩ := (readGuard_iff st).mp hg
  have hpos := h.position
  have hlen := h.length
  have hin := roundLen_in_block N st.bytesRead (st.buf.length - st.bufRead)
  have hrem := roundLen_le N st.bytesRead (st.buf.length - st.bufRead)
  have hend := roundLen_in_file hfile (st.buf.length - st.bufRead)
  constructor
  · simp only [roundState]
    omega
  · simp only [roundState]
    omega
  · rw [roundState_buf_length block lib (by omega), hlen]
  · intro q h1 h2
    by_cases hq : q < st.bytesRead
    · exact h.good q h1 hq
    · have hsame : q / blockSize = st.bytesRead / blockSize := by
        simp only [roundState] at h2
        unfold blockSize at *
        omega
      rw [hsame]
      exact hgood

/-- A read delivers all that it can, or it needs a block that is not good. -/
theorem readLoop_counts (hf : Fetches N fetch Good E Z) (p : Nat) (buf : Bytes) (lib : σ) :
    (readLoop N fetch ⟨p, 0, buf, lib⟩).Sat
      (Act.post (fun n st => n = min buf.length (N - p) ∧ st.bytesRead = p + n ∧
          st.buf.length = buf.length ∧ ∀ q, p ≤ q → q < p + n → Good (q / blockSize))
        fun _ _ => E ∧ NeedsBad N Good p)
      fun _ => Z ∧ NeedsBad N Good p := by
  have round : ∀ st, Advanced N Good p buf st → readGuard N st = true →
      (readRound N fetch st).Sat
        (Act.post (fun _ st' => Advanced N Good p buf st' ∧
          st'.buf.length - st'.bufRead < st.buf.length - st.bufRead)
          fun _ _ => E ∧ NeedsBad N Good p)
        fun _ => Z ∧ NeedsBad N Good p := by
    intro st hst hg
    obtain ⟨hfile, hroom⟩ := (readGuard_iff st).mp hg
    have hpos := hst.position
    have hlen := hst.length
    by_cases hgood : Good (st.bytesRead / blockSize)
    · obtain ⟨block, lib', hfetch⟩ := hf.good _ hfile hgood st.lib
      have hprogress : 0 < roundLen N st.bytesRead (st.buf.length - st.bufRead) :=
        roundLen_pos hfile (by omega)
      have hnext := hst.round block lib' hg hgood
      rw [readRound_ok hg hfetch]
      refine ⟨hnext, ?_⟩
      rw [hnext.length, hlen]
      simp only [roundState]
      omega
    · have hneeds : NeedsBad N Good p := ⟨st.bytesRead, by omega, hfile, hgood⟩
      rcases hf.bad _ hfile hgood st.lib with ⟨hE, e, lib', herr⟩ | ⟨hZ, why, hpanic⟩
      · rw [readRound_error herr]
        exact ⟨hE, hneeds⟩
      · rw [readRound_panic hpanic]
        exact ⟨hZ, hneeds⟩
  have hstart : Advanced N Good p buf (⟨p, 0, buf, lib⟩ : ReadState σ) := by
    refine ⟨rfl, Nat.zero_le _, rfl, ?_⟩
    intro q h1 h2
    exact absurd h2 (Nat.not_lt_of_le h1)
  apply Act.sat_bind (Act.whileLoop_sat round _ _ hstart (by simp))
  rintro _ st ⟨hst, hg⟩
  have hpos := hst.position
  have hlen := hst.length
  have hbound := hst.bound
  have hstop : ¬ (st.bytesRead < N ∧ st.bufRead < st.buf.length) := by
    rw [← readGuard_iff, hg]
    simp
  refine ⟨by omega, hpos, hlen, ?_⟩
  intro q h1 h2
  exact hst.good q h1 (by omega)

variable {read : Nat → Bytes → σ → Exec (Except IoError Nat × ReadState σ)} {bufs : Nat → Bytes}

/-- What is left of the file is read to its end, or it holds a block that is not good. -/
theorem readToEnd_counts (hread : RunsLoop read N fetch) (hf : Fetches N fetch Good E Z)
    (hbufs : ∀ i, bufs i ≠ []) :
    ∀ fuel i p lib, N - p < fuel → (readToEnd read bufs fuel i p lib).Sat
      (fun r => (∃ bs, r = .ok bs ∧ bs.length = N - p ∧ ¬ NeedsBad N Good p) ∨
        (∃ e, r = .error e) ∧ E ∧ NeedsBad N Good p)
      fun _ => Z ∧ NeedsBad N Good p := by
  intro fuel
  induction fuel with
  | zero => intro i p lib hfuel; omega
  | succ fuel ih =>
    intro i p lib hfuel
    obtain ⟨lib', hloop⟩ := hread p (bufs i) lib
    have hroom : 0 < (bufs i).length := List.length_pos_of_ne_nil (hbufs i)
    have hsat := readLoop_counts hf p (bufs i) lib'
    rw [← hloop] at hsat
    cases hr : read p (bufs i) lib with
    | panic why =>
      rw [hr] at hsat
      rw [readToEnd_panic hr]
      exact hsat
    | spin => rw [hr] at hsat; exact hsat.elim
    | ret r =>
      obtain ⟨r, st⟩ := r
      rw [hr] at hsat
      cases r with
      | error e =>
        rw [readToEnd_error hr]
        exact .inr ⟨⟨e, rfl⟩, hsat⟩
      | ok n =>
        obtain ⟨hn, hpos, hlen, hgood⟩ := hsat
        by_cases hzero : n = 0
        · subst hzero
          rw [readToEnd_stop hr]
          refine .inl ⟨[], rfl, by rw [List.length_nil]; omega, ?_⟩
          intro hneeds
          rcases hneeds with ⟨q, h1, h2, _⟩
          omega
        · have hneeds : NeedsBad N Good st.bytesRead ↔ NeedsBad N Good p := by
            constructor
            · intro hneeds₁
              rcases hneeds₁ with ⟨q, h1, h2, hbad⟩
              exact ⟨q, by omega, h2, hbad⟩
            · intro hneeds₁
              rcases hneeds₁ with ⟨q, h1, h2, hbad⟩
              refine ⟨q, ?_, h2, hbad⟩
              by_contra hlt
              exact hbad (hgood q h1 (by omega))
          have hrest := ih (i + 1) st.bytesRead st.lib (by omega)
          rw [hneeds] at hrest
          rw [readToEnd_next hzero hr]
          cases hrec : readToEnd read bufs fuel (i + 1) st.bytesRead st.lib with
          | panic why =>
            rw [hrec] at hrest
            exact hrest
          | spin => rw [hrec] at hrest; exact hrest.elim
          | ret rest =>
            rw [hrec] at hrest
            rcases hrest with ⟨bs, rfl, hbs, hnone⟩ | ⟨⟨e, rfl⟩, hE, hneeds⟩
            · refine .inl ⟨st.buf.take n ++ bs, rfl, ?_, hnone⟩
              rw [List.length_append, List.length_take]
              omega
            · exact .inr ⟨⟨e, rfl⟩, hE, hneeds⟩

end Counted

end LibcdioRs
