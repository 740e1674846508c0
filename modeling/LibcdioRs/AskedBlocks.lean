import LibcdioRs.FailedRead

/-!
# The blocks that a read asks for

A read asks for the blocks of its range in their order, up to the first one that
cannot be read. A library that keeps account of what it is asked for shows which
blocks these are; otherwise the account makes no difference.
-/

namespace LibcdioRs

open Rust
set_option autoImplicit false

variable {σ X : Type}

def asked (call : Nat → σ → Bool × σ) : List Nat → σ → List Nat
  | [], _ => []
  | k :: ks, s => k :: if (call k s).1 then asked call ks (call k s).2 else []

def askedFrom (fileSize : Nat) (call : Nat → σ → Bool × σ) (st : ReadState σ) : List Nat :=
  asked call (blocksUpTo st.bytesRead (readLimit fileSize st)) st.lib

def ReadState.noting (st : ReadState σ) (log : List X) : ReadState (σ × List X) :=
  ⟨st.bytesRead, st.bufRead, st.buf, st.lib, log⟩

/-- `fetch'` does what `fetch` does, and notes the block that it asks for. -/
def Notes (note : Nat → X) (fetch : Nat → Act σ IoError Block)
    (fetch' : Nat → Act (σ × List X) IoError Block) : Prop :=
  ∀ q s log, fetch' q (s, log) =
    fetch q s >>= fun r => .ret (r.1, r.2, log ++ [note (q / blockSize)])

section Loop
variable {fileSize : Nat} {call : Nat → σ → Bool × σ} {st : ReadState σ}
variable (hbuf : st.bufRead ≤ st.buf.length)
include hbuf

theorem askedFrom_stop (hg : readGuard fileSize st = false) : askedFrom fileSize call st = [] := by
  rw [askedFrom, blocksUpTo_stop hbuf hg]
  rfl

variable (hg : readGuard fileSize st = true)
include hg

theorem askedFrom_fails (hc : (call (st.bytesRead / blockSize) st.lib).1 = false) :
    askedFrom fileSize call st = [st.bytesRead / blockSize] := by
  rw [askedFrom, blocksUpTo_next zeroBlock st.lib hbuf hg, asked, hc]
  rfl

theorem askedFrom_next (block : Block)
    (hc : (call (st.bytesRead / blockSize) st.lib).1 = true) :
    askedFrom fileSize call st = st.bytesRead / blockSize ::
      askedFrom fileSize call
        (roundState fileSize st block (call (st.bytesRead / blockSize) st.lib).2) := by
  rw [askedFrom, blocksUpTo_next block (call (st.bytesRead / blockSize) st.lib).2 hbuf hg, asked,
    hc, if_pos rfl]
  rfl

end Loop

section Noting
variable {fileSize : Nat} {call : Nat → σ → Bool × σ} {note : Nat → X}
variable {fetch : Nat → Act σ IoError Block} {fetch' : Nat → Act (σ × List X) IoError Block}

theorem Notes.ret (hn : Notes note fetch fetch') {q : Nat} {s s' : σ}
    {r : Except IoError Block} (hf : fetch q s = .ret (r, s')) (log : List X) :
    fetch' q (s, log) = .ret (r, s', log ++ [note (q / blockSize)]) := by
  rw [hn, hf]
  rfl

theorem whileLoop_asked (h : AsksLib fileSize fetch (fun _ => true) call)
    (hn : Notes note fetch fetch') :
    ∀ fuel (st : ReadState σ) (log : List X), st.bufRead ≤ st.buf.length →
      st.buf.length - st.bufRead < fuel →
      ∃ r st', Act.whileLoop (readGuard fileSize) (readRound fileSize fetch) fuel st =
          .ret (r, st') ∧
        Act.whileLoop (readGuard fileSize) (readRound fileSize fetch') fuel (st.noting log) =
          .ret (r, st'.noting (log ++ (askedFrom fileSize call st).map note)) := by
  intro fuel
  induction fuel with
  | zero => intro st log _ hlt; omega
  | succ fuel ih =>
    intro st log hbuf hfuel
    cases hg : readGuard fileSize st with
    | false =>
      refine ⟨_, _, Act.whileLoop_stop hg fuel, ?_⟩
      have hg' : readGuard fileSize (st.noting log) = false := hg
      rw [Act.whileLoop_stop hg', askedFrom_stop hbuf hg, List.map_nil, List.append_nil]
    | true =>
      have hg' : readGuard fileSize (st.noting log) = true := hg
      obtain ⟨hfile, _⟩ := (readGuard_iff st).mp hg
      cases hc : (call (st.bytesRead / blockSize) st.lib).1 with
      | false =>
        obtain ⟨e, hf⟩ := h.error _ st.lib hfile rfl hc
        refine ⟨_, _, Act.whileLoop_error hg (readRound_error hf) fuel, ?_⟩
        have hround : readRound fileSize fetch' (st.noting log) = .ret (.error e, _) :=
          readRound_error (hn.ret hf log)
        rw [Act.whileLoop_error hg' hround, askedFrom_fails hbuf hg hc]
        rfl
      | true =>
        obtain ⟨block, hf⟩ := h.ok _ st.lib hfile rfl hc
        obtain ⟨hbuf₁, hroom₁, _⟩ :=
          roundState_room block (call (st.bytesRead / blockSize) st.lib).2 hg
        obtain ⟨r, st', hrun, hrun'⟩ := ih
          (roundState fileSize st block (call (st.bytesRead / blockSize) st.lib).2)
          (log ++ [note (st.bytesRead / blockSize)]) hbuf₁ (by omega)
        refine ⟨r, st', ?_, ?_⟩
        · rw [Act.whileLoop_next hg (readRound_ok hg hf)]
          exact hrun
        · have hround := readRound_ok hg' (hn.ret hf log)
          rw [askedFrom_next hbuf hg block hc, List.map_cons, List.append_cons,
            Act.whileLoop_next hg' hround]
          exact hrun'

/-- A read from `p` on asks for these blocks and no others. -/
theorem readLoop_asked (h : AsksLib fileSize fetch (fun _ => true) call)
    (hn : Notes note fetch fetch') (p : Nat) (buf : Bytes) (lib : σ) (log : List X) :
    ∃ r st', readLoop fileSize fetch ⟨p, 0, buf, lib⟩ = .ret (r, st') ∧
      readLoop fileSize fetch' ⟨p, 0, buf, lib, log⟩ =
        .ret (r, st'.noting (log ++ (askedFrom fileSize call ⟨p, 0, buf, lib⟩).map note)) := by
  obtain ⟨r, st', hrun, hrun'⟩ := whileLoop_asked h hn (buf.length + 1) ⟨p, 0, buf, lib⟩ log
    (Nat.zero_le _) (Nat.lt_succ_self _)
  cases r with
  | ok a => exact ⟨_, _, Act.bind_ok hrun _, Act.bind_ok hrun' _⟩
  | error e => exact ⟨_, _, Act.bind_error hrun _, Act.bind_error hrun' _⟩

end Noting

end LibcdioRs
