import LibcdioRs.Clients

/-!
# Threads that use the crate

Each thread runs a client of the crate, all of them on one libcdio. No type of the
crate is `Send`, so that a thread keeps its values to itself. Whatever the clients
do and however their steps interleave: `CDIO_INIT_LOCK` keeps apart the functions
that libcdio does not allow at the same time, the log handler is set before all
else, no thread panics or waits forever, and in the end nothing is left.
-/

namespace LibcdioRs

open Rust Foreign
set_option autoImplicit false

variable {ι α : Type} {codes : ReturnCodes} {flags : Drive.CapabilityFlags} {bound : Nat}
variable {clients : ι → Client α}

abbrev CrateSystem (ι α : Type) : Type := System ι LibCall LibCall.Reply Handle Object α

def startClients (codes : ReturnCodes) (flags : Drive.CapabilityFlags) (bound : Nat)
    (clients : ι → Client α) : CrateSystem ι α :=
  System.start fun i => (clients i).main codes flags bound

/-- The states that some interleaving of the threads leads to. -/
def CrateReachable [DecidableEq ι] (codes : ReturnCodes) (flags : Drive.CapabilityFlags)
    (bound : Nat) (clients : ι → Client α) (sys : CrateSystem ι α) : Prop :=
  (startClients codes flags bound clients).Reachable (libcdio bound) sys

/-- What holds of a thread at its end: it has nothing left, and its result is one that it could
have had alone. -/
def Ended (codes : ReturnCodes) (flags : Drive.CapabilityFlags) (bound : Nat)
    (clients : ι → Client α) (i : ι) (a : α) (l : Known) : Prop :=
  Idle [] l ∧
    Prog.Outcome (rules bound) ((clients i).main codes flags bound) Local.initial a l

def CrateGood (codes : ReturnCodes) (flags : Drive.CapabilityFlags) (bound : Nat)
    (clients : ι → Client α) (own : ι → Known) (sys : CrateSystem ι α) : Prop :=
  Good (libcdio bound) LibCall.role logClosure (Ended codes flags bound clients) own sys

theorem idle_nil {l : Known} (h : Idle [] l) : l.phase = .free ∧ l.memory = Heap.empty := by
  obtain ⟨ready, hl, _⟩ := h
  exact ⟨hl.phase, hl.owns.eq_empty⟩

theorem startClients_good (hc : ∀ i, (clients i).Quiet) :
    CrateGood codes flags bound clients (fun _ => Local.initial)
      (startClients codes flags bound clients) :=
  Good.start fun i => (Client.main_sat (hc i)).outcome

variable [DecidableEq ι] {sys : CrateSystem ι α}

theorem CrateReachable.good (hc : ∀ i, (clients i).Quiet)
    (h : CrateReachable codes flags bound clients sys) :
    ∃ own, CrateGood codes flags bound clients own sys :=
  (startClients_good hc).reachable (libcdio_local bound) h

/-- A client that opens a drive, and has it dropped when it ends. -/
def openDrive : Client (Option (Option Ptr)) := .call (.method .driveNew) .ret

theorem openDrive_quiet : openDrive.Quiet := fun _ => trivial

theorem CrateReachable.canStep (hc : ∀ i, (clients i).Quiet)
    (h : CrateReachable codes flags bound clients sys) {i : ι}
    (hi : ∀ a, ¬ (sys.threads i).Done a) : ∃ j, sys.CanStep (libcdio bound) j := by
  obtain ⟨own, hgood⟩ := h.good hc
  exact hgood.progress (libcdio_answers bound) (libcdio_local bound)
    (fun _ _ _ hl => (idle_nil hl.1).1) hi

/-- When all threads have ended, the lock is free and nothing of libcdio is left. -/
theorem CrateReachable.nothing_left (hc : ∀ i, (clients i).Quiet)
    (h : CrateReachable codes flags bound clients sys)
    (hdone : ∀ i, ∃ a, (sys.threads i).Done a) : sys.memory = Heap.empty ∧ sys.holder = none := by
  obtain ⟨own, hgood⟩ := h.good hc
  refine ⟨hgood.memory_empty hdone fun _ _ _ hl => (idle_nil hl.1).2, ?_⟩
  cases hh : sys.holder with
  | none => rfl
  | some i =>
    have hlocked := (hgood.holder i).mp hh
    obtain ⟨a, ha⟩ := hdone i
    have hended : Ended codes flags bound clients i a (own i) := hgood.meets ha
    have hfree := (idle_nil hended.1).1
    rw [hfree] at hlocked
    cases hlocked

/-- In the run `run` some thread steps whenever one can. It may be a different one each time:
no fairness is asked for. -/
def Runs (bound : Nat) (run : Nat → CrateSystem ι α) : Prop :=
  ∀ n, (∃ i, (run n).Step (libcdio bound) i (run (n + 1))) ∨
    (∀ i, ¬ (run n).CanStep (libcdio bound) i) ∧ run (n + 1) = run n

theorem exists_runs (start : CrateSystem ι α) : ∃ run, run 0 = start ∧ Runs bound run := by
  classical
  let next : CrateSystem ι α → CrateSystem ι α := fun sys =>
    if h : ∃ sys' i, sys.Step (libcdio bound) i sys' then h.choose else sys
  refine ⟨fun n => next^[n] start, rfl, ?_⟩
  intro n
  beta_reduce
  rw [Function.iterate_succ_apply']
  by_cases h : ∃ sys' i, (next^[n] start).Step (libcdio bound) i sys'
  · left
    simp only [next, dif_pos h]
    exact h.choose_spec
  · right
    refine ⟨fun i hi => ?_, dif_neg h⟩
    obtain ⟨sys', hstep⟩ := hi
    exact h ⟨sys', i, hstep⟩

theorem Runs.reachable {run : Nat → CrateSystem ι α} (hrun : Runs bound run)
    (h0 : run 0 = startClients codes flags bound clients) (n : Nat) :
    CrateReachable codes flags bound clients (run n) := by
  induction n with
  | zero =>
    rw [h0]
    exact .refl
  | succ n ih =>
    rcases hrun n with hstep | ⟨_, hsame⟩
    · exact .tail ih hstep
    · rw [hsame]
      exact ih

theorem Runs.stops [Finite ι] {run : Nat → CrateSystem ι α} (hrun : Runs bound run) :
    ∃ n, ∀ i, ¬ (run n).CanStep (libcdio bound) i := by
  by_contra hgo
  have hwf := System.step_wellFounded (ι := ι) (α := α) (libcdio bound)
  have : IsWellFounded _ _ := ⟨hwf⟩
  obtain ⟨n, hn⟩ := WellFounded.not_rel_apply_succ
    (r := fun t s : CrateSystem ι α => ∃ i, s.Step (libcdio bound) i t) run
  rcases hrun n with hstep | ⟨hstuck, _⟩
  · exact hn hstep
  · exact hgo ⟨n, hstuck⟩

theorem Runs.all_done [Finite ι] (hc : ∀ i, (clients i).Quiet) {run : Nat → CrateSystem ι α}
    (hrun : Runs bound run) (h0 : run 0 = startClients codes flags bound clients) :
    ∃ n, ∀ i, ∃ a, ((run n).threads i).Done a := by
  obtain ⟨n, hstuck⟩ := hrun.stops
  refine ⟨n, fun i => ?_⟩
  by_contra hi
  obtain ⟨j, hj⟩ := (hrun.reachable h0 n).canStep hc (not_exists.mp hi)
  exact hstuck j hj

end LibcdioRs
