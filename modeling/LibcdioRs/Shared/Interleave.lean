import LibcdioRs.Shared.Exec

/-!
# Agents that share a hidden state

`spec` says how one agent answers an operation from its own local state alone.
An implementation also reads and writes a state `S` that all agents share. If
every single step answers as `spec` does whatever the shared state is, then no
interleaving lets an agent notice the others.
-/

namespace Interleave

open Rust
set_option autoImplicit false

variable {ι O R L S X : Type}

def solo (spec : O → L → R × L) : List O → L → List R × L
  | [], l => ([], l)
  | o :: os, l => ((spec o l).1 :: (solo spec os (spec o l).2).1, (solo spec os (spec o l).2).2)

/-- Each operation is allowed in the local state in which it is issued. -/
def Allowed (spec : O → L → R × L) (ok : O → L → Prop) : List O → L → Prop
  | [], _ => True
  | o :: os, l => ok o l ∧ Allowed spec ok os (spec o l).2

/-- The implementation of one agent, run on its own operations. -/
def run (impl : O → L → S → Exec (R × L × S)) : List O → L → S → Exec (List R × L × S)
  | [], l, s => .ret ([], l, s)
  | o :: os, l, s => do
    let (r, l, s) ← impl o l s
    let (rs, l, s) ← run impl os l s
    return (r :: rs, l, s)

/-- One step answers as `spec` does, whatever the shared state is. -/
def Conforms (impl : O → L → S → Exec (R × L × S)) (spec : O → L → R × L)
    (o : O) (l : L) : Prop :=
  ∀ s, ∃ s', impl o l s = .ret ((spec o l).1, (spec o l).2, s')

theorem run_cons {impl : O → L → S → Exec (R × L × S)} {o : O} {l l' : L} {s s' : S} {r : R}
    (h : impl o l s = .ret (r, l', s')) (os : List O) :
    run impl (o :: os) l s = run impl os l' s' >>= fun x => .ret (r :: x.1, x.2) := by
  simp only [run, h, Exec.ret_bind]
  rfl

theorem Allowed.imp {spec : O → L → R × L} {ok ok' : O → L → Prop} {os : List O}
    (h : ∀ o ∈ os, ∀ l, ok o l → ok' o l) :
    ∀ l, Allowed spec ok os l → Allowed spec ok' os l := by
  induction os with
  | nil => exact fun _ _ => trivial
  | cons o os ih =>
    intro l ⟨ho, hos⟩
    exact ⟨h o List.mem_cons_self l ho, ih (fun o ho => h o (List.mem_cons_of_mem _ ho)) _ hos⟩

theorem run_eq_solo {impl : O → L → S → Exec (R × L × S)} {spec : O → L → R × L}
    {ok : O → L → Prop} (step : ∀ o l, ok o l → Conforms impl spec o l) :
    ∀ os l s, Allowed spec ok os l →
      ∃ s', run impl os l s = .ret ((solo spec os l).1, (solo spec os l).2, s') := by
  intro os
  induction os with
  | nil => intro l s _; exact ⟨s, rfl⟩
  | cons o os ih =>
    intro l s ⟨ho, hos⟩
    obtain ⟨s₁, h₁⟩ := step o l ho s
    obtain ⟨s₂, h₂⟩ := ih (spec o l).2 s₁ hos
    refine ⟨s₂, ?_⟩
    rw [run_cons h₁, h₂]
    rfl

/-- Where the steps that are not allowed never return, conformance of a run is exactly
allowedness of its steps. -/
theorem run_eq_solo_iff {impl : O → L → S → Exec (R × L × S)} {spec : O → L → R × L}
    {legal ok : O → L → Prop}
    (step : ∀ o l, legal o l → ok o l → Conforms impl spec o l)
    (stuck : ∀ o l s, legal o l → ¬ ok o l → ∀ r, impl o l s ≠ .ret r) :
    ∀ os l s, Allowed spec legal os l →
      ((∃ s', run impl os l s = .ret ((solo spec os l).1, (solo spec os l).2, s')) ↔
        Allowed spec ok os l) := by
  intro os
  induction os with
  | nil => intro l s _; exact ⟨fun _ => trivial, fun _ => ⟨s, rfl⟩⟩
  | cons o os ih =>
    intro l s ⟨ho, hos⟩
    by_cases hok : ok o l
    · obtain ⟨s₁, h₁⟩ := step o l ho hok s
      have hrest := ih (spec o l).2 s₁ hos
      rw [run_cons h₁]
      constructor
      · intro hrun
        rcases hrun with ⟨s', h⟩
        refine ⟨hok, hrest.mp ?_⟩
        cases hr : run impl os (spec o l).2 s₁ with
        | ret x =>
          rw [hr] at h
          simp only [Exec.ret_bind, solo, Exec.ret.injEq, Prod.mk.injEq, List.cons.injEq,
            true_and] at h
          exact ⟨s', by rw [← h.1, ← h.2]⟩
        | panic why => simp [hr] at h
        | spin => simp [hr] at h
      · intro hall
        rcases hall with ⟨_, h⟩
        obtain ⟨s₂, h₂⟩ := hrest.mpr h
        exact ⟨s₂, by rw [h₂]; rfl⟩
    · constructor
      · intro hrun
        rcases hrun with ⟨s', h⟩
        exfalso
        cases hi : impl o l s with
        | ret r => exact stuck o l s ho hok r hi
        | panic why => simp [run, hi] at h
        | spin => simp [run, hi] at h
      · exact fun h => absurd h.1 hok

/-- Each operation is allowed in the states in which the implementation issues it. -/
def AllowedBy (impl : O → L → S → Exec (R × L × S)) (ok : O → L → S → Prop) :
    List O → L → S → Prop
  | [], _, _ => True
  | o :: os, l, s =>
    ok o l s ∧ ∀ r l' s', impl o l s = .ret (r, l', s') → AllowedBy impl ok os l' s'

/-- If a single step returns exactly when it is allowed, so does a run. -/
theorem run_returns_iff {impl : O → L → S → Exec (R × L × S)} {ok : O → L → S → Prop}
    (step : ∀ o l s, (∃ r, impl o l s = .ret r) ↔ ok o l s) :
    ∀ os l s, (∃ r, run impl os l s = .ret r) ↔ AllowedBy impl ok os l s := by
  intro os
  induction os with
  | nil =>
    intro l s
    exact iff_of_true ⟨_, rfl⟩ trivial
  | cons o os ih =>
    intro l s
    by_cases ho : ok o l s
    · obtain ⟨⟨r, l', s'⟩, hi⟩ := (step o l s).mpr ho
      have hrest := ih l' s'
      rw [run_cons hi]
      constructor
      · intro hrun
        rcases hrun with ⟨y, hy⟩
        refine ⟨ho, ?_⟩
        intro r₁ l₁ s₁ heq
        rw [hi] at heq
        cases heq
        apply hrest.mp
        cases hr : run impl os l' s' with
        | ret z => exact ⟨z, rfl⟩
        | panic why => rw [hr] at hy; cases hy
        | spin => rw [hr] at hy; cases hy
      · intro hall
        rcases hall with ⟨_, hnext⟩
        obtain ⟨z, hz⟩ := hrest.mpr (hnext r l' s' hi)
        exact ⟨_, by rw [hz]; rfl⟩
    · refine iff_of_false ?_ fun h => ho h.1
      intro hrun
      rcases hrun with ⟨y, hy⟩
      apply ho
      apply (step o l s).mp
      cases hi : impl o l s with
      | ret x => exact ⟨x, rfl⟩
      | panic why => simp [run, hi] at hy
      | spin => simp [run, hi] at hy

/-- A run does the same as another one whose steps it imitates where they are allowed. -/
theorem run_congr {impl impl' : O → L → S → Exec (R × L × S)} {ok : O → L → S → Prop}
    (step : ∀ o l s, ok o l s → impl o l s = impl' o l s) :
    ∀ os l s, AllowedBy impl' ok os l s → run impl os l s = run impl' os l s := by
  intro os
  induction os with
  | nil => intro l s _; rfl
  | cons o os ih =>
    rintro l s ⟨ho, hos⟩
    have hstep := step o l s ho
    cases hi : impl' o l s with
    | ret x =>
      obtain ⟨r, l', s'⟩ := x
      rw [hi] at hstep
      rw [run_cons hstep, run_cons hi, ih l' s' (hos r l' s' hi)]
    | panic why => simp only [run, hstep, hi, Exec.panic_bind]
    | spin => simp only [run, hstep, hi, Exec.spin_bind]

/-- What is allowed in the states of one run carries over to a run of another implementation that
`view` sees as that run. -/
theorem AllowedBy.transfer {S' : Type} {impl : O → L → S → Exec (R × L × S)}
    {impl' : O → L → S' → Exec (R × L × S')} {ok : O → L → S → Prop} {ok' : O → L → S' → Prop}
    (view : S' → S)
    (step : ∀ o l s, ok o l (view s) → ok' o l s ∧
      ∀ r l' s', impl' o l s = .ret (r, l', s') → impl o l (view s) = .ret (r, l', view s')) :
    ∀ os l s, AllowedBy impl ok os l (view s) → AllowedBy impl' ok' os l s := by
  intro os
  induction os with
  | nil => exact fun _ _ _ => trivial
  | cons o os ih =>
    rintro l s ⟨ho, hos⟩
    obtain ⟨hok, hview⟩ := step o l s ho
    refine ⟨hok, ?_⟩
    intro r l' s' hi
    exact ih l' s' (hos r l' (view s') (hview r l' s' hi))

def ofAgent [DecidableEq ι] (i : ι) (log : List (ι × X)) : List X :=
  log.filterMap fun x => if x.1 = i then some x.2 else none

def runAll [DecidableEq ι] (impl : ι → O → L → S → Exec (R × L × S)) :
    List (ι × O) → (ι → L) → S → Exec (List (ι × R) × (ι → L) × S)
  | [], ls, s => .ret ([], ls, s)
  | (i, o) :: rest, ls, s => do
    let (r, l, s) ← impl i o (ls i) s
    let (rs, ls, s) ← runAll impl rest (Function.update ls i l) s
    return ((i, r) :: rs, ls, s)

section Agents
variable [DecidableEq ι]

@[simp] theorem ofAgent_cons_self (i : ι) (x : X) (log : List (ι × X)) :
    ofAgent i ((i, x) :: log) = x :: ofAgent i log := by
  simp [ofAgent]

theorem ofAgent_cons_of_ne {i j : ι} (h : j ≠ i) (x : X) (log : List (ι × X)) :
    ofAgent i ((j, x) :: log) = ofAgent i log := by
  simp [ofAgent, h]

/-- No agent notices the others: its part of any interleaving is its run alone. -/
theorem runAll_eq_solo {impl : ι → O → L → S → Exec (R × L × S)} {spec : ι → O → L → R × L}
    {ok : ι → O → L → Prop} (step : ∀ i o l, ok i o l → Conforms (impl i) (spec i) o l) :
    ∀ sched ls s, (∀ i, Allowed (spec i) (ok i) (ofAgent i sched) (ls i)) →
      ∃ log ls' s', runAll impl sched ls s = .ret (log, ls', s') ∧
        ∀ i, solo (spec i) (ofAgent i sched) (ls i) = (ofAgent i log, ls' i) := by
  intro sched
  induction sched with
  | nil => intro ls s _; exact ⟨[], ls, s, rfl, fun i => rfl⟩
  | cons entry sched ih =>
    obtain ⟨i, o⟩ := entry
    intro ls s hall
    have hi := hall i
    rw [ofAgent_cons_self] at hi
    obtain ⟨s₁, h₁⟩ := step i o (ls i) hi.1 s
    have hnext : ∀ j, Allowed (spec j) (ok j) (ofAgent j sched)
        (Function.update ls i (spec i o (ls i)).2 j) := by
      intro j
      by_cases hj : i = j
      · subst hj; rw [Function.update_self]; exact hi.2
      · rw [Function.update_of_ne (Ne.symm hj), ← ofAgent_cons_of_ne hj o sched]
        exact hall j
    obtain ⟨log, ls', s₂, h₂, hsolo⟩ := ih _ s₁ hnext
    refine ⟨(i, (spec i o (ls i)).1) :: log, ls', s₂, ?_, ?_⟩
    · simp only [runAll, h₁, Exec.ret_bind, h₂]
      rfl
    · intro j
      by_cases hj : i = j
      · subst hj
        have h := hsolo i
        rw [Function.update_self] at h
        rw [ofAgent_cons_self, ofAgent_cons_self, solo, h]
      · have h := hsolo j
        rw [Function.update_of_ne (Ne.symm hj)] at h
        rw [ofAgent_cons_of_ne hj, ofAgent_cons_of_ne hj, h]

end Agents

end Interleave
