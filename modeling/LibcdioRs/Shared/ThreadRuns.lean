import Mathlib.Data.DFinsupp.WellFounded
import LibcdioRs.Shared.Threads

/-!
# Runs of threads

What `Good` says about every state of a run: no two threads are inside guarded
functions, the mutex is never poisoned, the library is set up before all else.
Some thread can always go on, and no run goes on forever, so that all threads
end; what none of them has then does not exist any more.
-/

namespace Foreign

open Rust
set_option autoImplicit false

variable {ι F H V α : Type} {R : F → Type}
variable {A : Api F R H V} {role : F → Role} {closure : List F}
variable {Q : ι → α → Local F (Heap H V) → Prop}

def System.Inside (sys : System ι F R H V α) (i : ι) (f : F) : Prop :=
  ∃ next, sys.threads i = .inside f next

def Thread.Done (t : Thread F R α) (a : α) : Prop := t = .running (.ret a)

/-- The thread has panicked or is about to, or its loop has run out of fuel. -/
def Thread.Failed : Thread F R α → Prop
  | .running (.panic _) => True
  | .running .spin => True
  | .panicked => True
  | _ => False

/-- What no interleaving may break. -/
structure System.Safe (A : Api F R H V) (role : F → Role) (closure : List F)
    (sys : System ι F R H V α) : Prop where
  exclusive : ∀ i j f g, sys.Inside i f → sys.Inside j g →
    role f = .guarded → role g = .guarded → i = j
  allowed : ∀ i f, sys.Inside i f → A.allowed f sys.memory
  setupFirst : ∀ i f, sys.Inside i f → role f ≠ .setup →
    ∃ j rest, sys.calls = closure.map (Prod.mk j) ++ rest ∧ ∀ x ∈ rest, role x.2 ≠ .setup
  unpoisoned : sys.poisoned = false
  unfailed : ∀ i, ¬ (sys.threads i).Failed

section Good
variable {own : ι → Local F (Heap H V)} {sys : System ι F R H V α}

theorem Good.inside (h : Good A role closure Q own sys) {i : ι} {f : F} (hi : sys.Inside i f) :
    MayCall (role f) (own i) ∧ A.allowed f (own i).memory := by
  obtain ⟨next, ht⟩ := hi
  exact (h.meets ht).1

theorem Good.exclusive (h : Good A role closure Q own sys) {i j : ι} {f g : F}
    (hi : sys.Inside i f) (hj : sys.Inside j g) (hf : role f = .guarded)
    (hg : role g = .guarded) : i = j := by
  have hmi := (h.inside hi).1
  have hmj := (h.inside hj).1
  rw [hf] at hmi
  rw [hg] at hmj
  have hhi := (h.holder i).mpr hmi.1
  have hhj := (h.holder j).mpr hmj.1
  exact Option.some.inj (hhi.symm.trans hhj)

theorem Good.unfailed (h : Good A role closure Q own sys) (i : ι) : ¬ (sys.threads i).Failed := by
  intro hf
  have hm := h.threads i
  cases ht : sys.threads i with
  | inside f next => rw [ht] at hf; exact hf
  | panicked => rw [ht] at hm; exact hm
  | running x =>
    rw [ht] at hf hm
    cases x with
    | ret a => exact hf
    | panic why => exact hm
    | spin => exact hm
    | call c next => exact hf

theorem Good.safe (hA : A.Local) (h : Good A role closure Q own sys) :
    sys.Safe A role closure where
  exclusive i j f g hi hj hf hg := h.exclusive hi hj hf hg
  allowed i f hi := hA.allowed (h.parts.within i) (h.inside hi).2
  setupFirst i f hi hf := by
    have ho := h.once
    rw [h.late (h.inside hi).1 hf] at ho
    exact ho.2
  unpoisoned := h.sound
  unfailed := h.unfailed

/-- When all threads have ended and none has kept an object, the memory is empty. -/
theorem Good.memory_empty (h : Good A role closure Q own sys)
    (hdone : ∀ i, ∃ a, (sys.threads i).Done a) (hQ : ∀ i a l, Q i a l → l.memory = Heap.empty) :
    sys.memory = Heap.empty := by
  funext x
  by_contra hx
  obtain ⟨i, hi⟩ := h.parts.cover x hx
  obtain ⟨a, ha⟩ := hdone i
  have hm := h.meets ha
  rw [hQ i a _ hm] at hi
  exact Heap.not_live_empty x hi

end Good

section Progress
variable [DecidableEq ι]

/-- Every allowed call has some reply. -/
def Api.Answers (A : Api F R H V) : Prop :=
  ∀ f s, A.allowed f s → ∃ r s', A.contract.effect f s r s'

def System.CanStep (A : Api F R H V) (sys : System ι F R H V α) (i : ι) : Prop :=
  ∃ sys', sys.Step A i sys'

variable {own : ι → Local F (Heap H V)} {sys : System ι F R H V α}

/-- A thread waits only for the mutex, or for the closure that another thread runs. -/
theorem Good.canStep_or (hA : A.Answers) (hl : A.Local) (h : Good A role closure Q own sys) (i : ι)
    (hi : ∀ a, ¬ (sys.threads i).Done a) :
    sys.CanStep A i ∨ (own i).phase = .free ∧
      ((∃ j, sys.holder = some j) ∨ ∃ j, sys.once = .running j) := by
  have hm := h.threads i
  cases ht : sys.threads i with
  | panicked => rw [ht] at hm; exact hm.elim
  | inside f next =>
    rw [ht] at hm
    obtain ⟨⟨_, hf⟩, _⟩ := hm
    obtain ⟨r, m, he⟩ := hA f sys.memory (hl.allowed (h.parts.within i) hf)
    exact .inl ⟨_, .leave ht fun _ => he⟩
  | running x =>
    rw [ht] at hm
    cases x with
    | ret a => exact absurd ht (hi a)
    | panic why => exact hm.elim
    | spin => exact hm.elim
    | call c next =>
      cases c with
      | unlock => exact .inl ⟨_, .unlock ht⟩
      | onceDone => exact .inl ⟨_, .onceDone ht⟩
      | foreign f => exact .inl ⟨_, .enter ht⟩
      | lock =>
        cases hh : sys.holder with
        | none => exact .inl ⟨_, .lock ht hh⟩
        | some j => exact .inr ⟨hm.1, .inl ⟨j, rfl⟩⟩
      | once =>
        cases ho : sys.once with
        | incomplete => exact .inl ⟨_, .onceRun ht ho⟩
        | complete => exact .inl ⟨_, .onceSkip ht ho⟩
        | poisoned => exact .inl ⟨_, .onceFail ht ho⟩
        | running j => exact .inr ⟨hm.1, .inr ⟨j, rfl⟩⟩

/-- No deadlock: whoever the others wait for is not waiting. -/
theorem Good.progress (hA : A.Answers) (hl : A.Local) (h : Good A role closure Q own sys)
    (hQ : ∀ i a l, Q i a l → l.phase = .free) {i : ι} (hi : ∀ a, ¬ (sys.threads i).Done a) :
    ∃ j, sys.CanStep A j := by
  have hbusy : ∀ j, (own j).phase ≠ .free → sys.CanStep A j := by
    intro j hj
    have hnot : ∀ a, ¬ (sys.threads j).Done a := fun a ha => hj (hQ j a _ (h.meets ha))
    rcases h.canStep_or hA hl j hnot with hstep | hwait
    · exact hstep
    · exact absurd hwait.1 hj
  rcases h.canStep_or hA hl i hi with hstep | hwait
  · exact ⟨i, hstep⟩
  · rcases hwait.2 with hheld | hrun
    · obtain ⟨j, hj⟩ := hheld
      refine ⟨j, hbusy j ?_⟩
      rw [(h.holder j).mp hj]
      nofun
    · obtain ⟨j, hj⟩ := hrun
      have ho := h.once
      rw [hj] at ho
      obtain ⟨⟨done, hphase, _⟩, _⟩ := ho
      refine ⟨j, hbusy j ?_⟩
      beta_reduce at hphase
      rw [hphase]
      nofun

end Progress

section Termination

/-- What one thread may become in a step. -/
inductive Thread.After : Thread F R α → Thread F R α → Prop where
  | reply {c : Cmd F} {next : Cmd.Reply R c → Prog (Cmd F) (Cmd.Reply R) α} (r : Cmd.Reply R c) :
      After (.running (next r)) (.running (.call c next))
  | enter {f : F} {next : R f → Prog (Cmd F) (Cmd.Reply R) α} :
      After (.inside f next) (.running (.call (.foreign f) next))
  | leave {f : F} {next : R f → Prog (Cmd F) (Cmd.Reply R) α} (r : R f) :
      After (.running (next r)) (.inside f next)
  | fail {c : Cmd F} {next : Cmd.Reply R c → Prog (Cmd F) (Cmd.Reply R) α} {why : Panic} :
      After (.running (.panic why)) (.running (.call c next))
  | unwind {why : Panic} : After .panicked (.running (.panic why))

theorem Thread.acc_panic (why : Panic) :
    Acc Thread.After (.running (.panic why) : Thread F R α) := by
  refine ⟨_, ?_⟩
  intro t ht
  cases ht
  exact ⟨_, nofun⟩

theorem Thread.acc_running (x : Prog (Cmd F) (Cmd.Reply R) α) :
    Acc Thread.After (.running x : Thread F R α) := by
  induction x with
  | ret a => exact ⟨_, nofun⟩
  | panic why => exact acc_panic why
  | spin => exact ⟨_, nofun⟩
  | call c next ih =>
    refine ⟨_, ?_⟩
    intro t ht
    cases ht with
    | reply r => exact ih r
    | fail => exact acc_panic _
    | enter =>
      refine ⟨_, ?_⟩
      intro t' ht'
      cases ht' with
      | leave r => exact ih r

theorem Thread.after_wellFounded : WellFounded (Thread.After : Thread F R α → _ → Prop) := by
  refine ⟨?_⟩
  intro t
  cases t with
  | running x => exact acc_running x
  | panicked => exact ⟨_, nofun⟩
  | inside f next =>
    refine ⟨_, ?_⟩
    intro t ht
    cases ht with
    | leave r => exact acc_running (next r)

variable [DecidableEq ι]

theorem System.Step.after {sys sys' : System ι F R H V α} {i : ι} (hs : sys.Step A i sys') :
    ∃ t, Thread.After t (sys.threads i) ∧ sys'.threads = Function.update sys.threads i t := by
  cases hs with
  | lock ht _ => exact ⟨_, ht ▸ .reply (c := .lock) sys.poisoned, rfl⟩
  | unlock ht => exact ⟨_, ht ▸ .reply (c := .unlock) (), rfl⟩
  | onceRun ht _ => exact ⟨_, ht ▸ .reply (c := .once) true, rfl⟩
  | onceSkip ht _ => exact ⟨_, ht ▸ .reply (c := .once) false, rfl⟩
  | onceFail ht _ => exact ⟨_, ht ▸ .fail, rfl⟩
  | onceDone ht => exact ⟨_, ht ▸ .reply (c := .onceDone) (), rfl⟩
  | enter ht => exact ⟨_, ht ▸ .enter, rfl⟩
  | leave ht _ => exact ⟨_, ht ▸ .leave _, rfl⟩
  | unwind ht => exact ⟨_, ht ▸ .unwind, rfl⟩

/-- No run goes on forever: every step uses up a part of the program of its thread. -/
theorem System.step_wellFounded [Finite ι] (A : Api F R H V) :
    WellFounded fun sys' sys : System ι F R H V α => ∃ i, sys.Step A i sys' := by
  have hlex := Pi.Lex.wellFounded (WellOrderingRel : ι → ι → Prop)
    (s := fun _ => (Thread.After : Thread F R α → Thread F R α → Prop))
    fun _ => Thread.after_wellFounded
  apply Subrelation.wf _ (InvImage.wf System.threads hlex)
  intro sys' sys hs
  obtain ⟨i, hi⟩ := hs
  obtain ⟨t, ht, hthreads⟩ := hi.after
  refine ⟨i, ?_, ?_⟩
  · intro j hj
    have hne : j ≠ i := by
      rintro rfl
      exact irrefl_of (r := WellOrderingRel) j hj
    rw [hthreads, Function.update_of_ne hne]
  · rw [hthreads, Function.update_self]
    exact ht

end Termination

end Foreign
