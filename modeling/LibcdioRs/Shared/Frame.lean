import LibcdioRs.Shared.Exec

/-!
# What code does to its state

`Leads I J x` says that `x`, started in a state with `I`, is in one with `J` when
it returns, if it does, with a value or with an error. `Keeps I x` is the case of
code that leaves things as they are. Code that is put together from parts keeps
what its parts keep.
-/

namespace Rust

set_option autoImplicit false

namespace Act
variable {σ ε ε' α β : Type} {I J : σ → Prop}

structure Leads (I J : σ → Prop) (x : Act σ ε α) : Prop where
  after : ∀ {s r s'}, I s → x s = .ret (r, s') → J s'

abbrev Keeps (I : σ → Prop) (x : Act σ ε α) : Prop := Leads I I x

namespace Leads
variable {x : Act σ ε α}

theorem call {f : σ → α × σ} (h : ∀ s, I s → J (f s).2) : Leads I J (Act.call f : Act σ ε α) := by
  refine ⟨?_⟩
  intro s r s' hs hx
  cases hx
  exact h s hs

theorem panic (why : Panic) : Leads I J (Act.lift (.panic why) : Act σ ε α) :=
  ⟨fun _ h => by cases h⟩

/-- When the first part ends with an error, the second is not run. -/
theorem bind {f : α → Act σ ε β} (hx : Leads I J x) (hf : ∀ a, Keeps J (f a)) :
    Leads I J (x >>= f) := by
  refine ⟨?_⟩
  intro s r s' hs h
  rw [bind_apply, Act.bind] at h
  cases hxs : x s with
  | ret p =>
    obtain ⟨a, t⟩ := p
    have ht := hx.after hs hxs
    rw [hxs] at h
    cases a with
    | ok a => exact (hf a).after ht h
    | error e => cases h; exact ht
  | panic why => rw [hxs] at h; cases h
  | spin => rw [hxs] at h; cases h

theorem mapError {f : ε → ε'} (hx : Leads I J x) : Leads I J (Act.mapError f x) := by
  refine ⟨?_⟩
  intro s r s' hs h
  rw [Act.mapError] at h
  cases hxs : x s with
  | ret p =>
    rw [hxs] at h
    cases h
    exact hx.after hs hxs
  | panic why => rw [hxs] at h; cases h
  | spin => rw [hxs] at h; cases h

theorem ite {c : Prop} [Decidable c] {y : Act σ ε α} (hx : Leads I J x) (hy : Leads I J y) :
    Leads I J (if c then x else y) := by
  split
  · exact hx
  · exact hy

end Leads

namespace Keeps
variable {x : Act σ ε α}

theorem of_same (h : ∀ s r s', x s = .ret (r, s') → s' = s) : Keeps I x := by
  refine ⟨?_⟩
  intro s r s' hs hx
  rw [h s r s' hx]
  exact hs

theorem pure (a : α) : Keeps I (Pure.pure a : Act σ ε α) := by
  apply of_same
  intro s r s' h
  cases h
  rfl

theorem fail (e : ε) : Keeps I (Act.fail e : Act σ ε α) := by
  apply of_same
  intro s r s' h
  cases h
  rfl

theorem lift (y : Exec α) : Keeps I (Act.lift y : Act σ ε α) := by
  apply of_same
  intro s r s' h
  cases y with
  | ret a => cases h; rfl
  | panic why => cases h
  | spin => cases h

/-- The local variables come and go without the state. -/
theorem onLocals {τ : Type} (y : Act τ ε α) (init : τ) :
    Keeps I (Act.onLocals y init : Act σ ε (α × τ)) := by
  apply of_same
  intro s r s' h
  rw [Act.onLocals] at h
  cases hy : y init with
  | ret a =>
    rw [hy] at h
    cases h
    rfl
  | panic why => rw [hy] at h; cases h
  | spin => rw [hy] at h; cases h

end Keeps

end Act

end Rust
