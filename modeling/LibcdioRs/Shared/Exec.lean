import Mathlib.Tactic

/-!
# Evaluation of Rust code

An evaluation returns a value, panics, or runs a loop for longer than the fuel
it was given. `Result` stays an ordinary value (`Except`), so that an early
return with an error keeps the state that the code had reached.

This module does NOT assume anything about the program that is run.
-/

namespace Rust

set_option autoImplicit false

inductive Panic where
  | slice
  | index
  | copyLength
  | overflow
  | expect (msg : String)
  deriving DecidableEq

/-- One evaluation. `spin` is a loop that used up its fuel; no run of the code ends so. -/
inductive Exec (α : Type) where
  | ret (a : α)
  | panic (why : Panic)
  | spin
  deriving DecidableEq

namespace Exec
variable {α β : Type}

def bind (x : Exec α) (f : α → Exec β) : Exec β :=
  match x with
  | ret a => f a
  | panic why => panic why
  | spin => spin

instance : Monad Exec where
  pure := ret
  bind := bind

@[simp] theorem ret_bind (a : α) (f : α → Exec β) : (ret a >>= f) = f a := rfl

@[simp] theorem spin_bind (f : α → Exec β) : (spin >>= f) = spin := rfl

@[simp] theorem panic_bind (why : Panic) (f : α → Exec β) : (panic why >>= f) = panic why := rfl

theorem map_eq (f : α → β) (x : Exec α) : f <$> x = x >>= fun a => ret (f a) := rfl

@[simp] theorem pure_eq (a : α) : (pure a : Exec α) = ret a := rfl

/-- `x` never spins, what it returns satisfies `Q` and what it panics with satisfies `Z`. -/
def Sat (x : Exec α) (Q : α → Prop) (Z : Panic → Prop) : Prop :=
  match x with
  | ret a => Q a
  | panic why => Z why
  | spin => False

@[simp] theorem sat_ret (a : α) (Q : α → Prop) (Z : Panic → Prop) : (ret a).Sat Q Z ↔ Q a := .rfl

@[simp] theorem sat_panic (why : Panic) (Q : α → Prop) (Z : Panic → Prop) :
    (panic why : Exec α).Sat Q Z ↔ Z why := .rfl

theorem Sat.mono {x : Exec α} {Q Q' : α → Prop} {Z Z' : Panic → Prop} (h : x.Sat Q Z)
    (hq : ∀ a, Q a → Q' a) (hz : ∀ why, Z why → Z' why) : x.Sat Q' Z' := by
  cases x with
  | ret a => exact hq a h
  | panic why => exact hz why h
  | spin => exact h

theorem Sat.exists_ret {x : Exec α} {Q : α → Prop} {Z : Panic → Prop} (h : x.Sat Q Z)
    (hz : ∀ why, ¬ Z why) : ∃ a, x = ret a ∧ Q a := by
  cases x with
  | ret a => exact ⟨a, rfl, h⟩
  | panic why => exact absurd h (hz why)
  | spin => exact h.elim

theorem Sat.exists_panic {x : Exec α} {Q : α → Prop} {Z : Panic → Prop} (h : x.Sat Q Z)
    (hq : ∀ a, ¬ Q a) : ∃ why, x = panic why ∧ Z why := by
  cases x with
  | ret a => exact absurd h (hq a)
  | panic why => exact ⟨why, rfl, h⟩
  | spin => exact h.elim

/-- `x` ends, and it returns exactly when `P` holds. -/
structure ReturnsIff (x : Exec α) (P : Prop) : Prop where
  iff : (∃ a, x = ret a) ↔ P
  ne_spin : x ≠ spin

theorem returnsIff_ret {P : Prop} (a : α) (hp : P) : (ret a).ReturnsIff P :=
  ⟨⟨fun _ => hp, fun _ => ⟨a, rfl⟩⟩, nofun⟩

theorem returnsIff_panic {P : Prop} (why : Panic) (hp : ¬ P) :
    (panic why : Exec α).ReturnsIff P := by
  refine ⟨⟨?_, ?_⟩, nofun⟩
  · intro hret
    rcases hret with ⟨a, ha⟩
    cases ha
  · intro h
    exact absurd h hp

namespace ReturnsIff
variable {x : Exec α} {P R : Prop}

theorem of_sat (h : x.Sat (fun _ => P) fun _ => ¬ P) : x.ReturnsIff P := by
  cases x with
  | ret a => exact returnsIff_ret a h
  | panic why => exact returnsIff_panic why h
  | spin => exact h.elim

theorem congr (h : x.ReturnsIff P) (hpr : P ↔ R) : x.ReturnsIff R := ⟨h.iff.trans hpr, h.ne_spin⟩

theorem bind {f : α → Exec β} (h : x.ReturnsIff P)
    (hf : ∀ a, x = ret a → (f a).ReturnsIff R) : (x >>= f).ReturnsIff (P ∧ R) := by
  cases x with
  | ret a =>
    have hp : P := h.iff.mp ⟨a, rfl⟩
    exact (hf a rfl).congr (and_iff_right hp).symm
  | panic why =>
    apply returnsIff_panic why
    intro hpr
    rcases hpr with ⟨hp, _⟩
    obtain ⟨a, ha⟩ := h.iff.mpr hp
    cases ha
  | spin => exact absurd rfl h.ne_spin

theorem bind_ret (h : x.ReturnsIff P) (f : α → β) : (x >>= fun a => ret (f a)).ReturnsIff P :=
  (h.bind fun a _ => returnsIff_ret (f a) trivial).congr (and_iff_left trivial)

end ReturnsIff

end Exec

/-- Code with a mutable state `σ` that returns `Result<α, ε>`; an error leaves the state
as it was when the error was raised. -/
def Act (σ ε α : Type) : Type := σ → Exec (Except ε α × σ)

namespace Act
variable {σ ε α β : Type}

def bind (x : Act σ ε α) (f : α → Act σ ε β) : Act σ ε β := fun s =>
  match x s with
  | .ret (.ok a, s') => f a s'
  | .ret (.error e, s') => .ret (.error e, s')
  | .panic why => .panic why
  | .spin => .spin

instance : Monad (Act σ ε) where
  pure a := fun s => .ret (.ok a, s)
  bind := bind

def fail (e : ε) : Act σ ε α := fun s => .ret (.error e, s)

def get : Act σ ε σ := fun s => .ret (.ok s, s)

def modify (f : σ → σ) : Act σ ε Unit := fun s => .ret (.ok (), f s)

/-- A call into foreign code, which neither fails nor panics by itself. -/
def call (f : σ → α × σ) : Act σ ε α := fun s => .ret (.ok (f s).1, (f s).2)

/-- Code that does not touch the state and has no error of its own. -/
def lift (x : Exec α) : Act σ ε α := fun s => x >>= fun a => .ret (.ok a, s)

/-- A `Result` that is returned early with `?` when it is an error. -/
def ofExcept (x : Except ε α) : Act σ ε α := fun s => .ret (x, s)

/-- `?` on a `Result` whose error is converted first. -/
def mapError {ε' : Type} (f : ε → ε') (x : Act σ ε α) : Act σ ε' α := fun s =>
  x s >>= fun r => .ret (r.1.mapError f, r.2)

/-- Code on local variables `τ`, which start as `init` and are handed back with the value. -/
def onLocals {τ : Type} (x : Act τ ε α) (init : τ) : Act σ ε (α × τ) := fun s =>
  x init >>= fun r => .ret (r.1.map fun a => (a, r.2), s)

@[simp] theorem pure_apply (a : α) (s : σ) : (pure a : Act σ ε α) s = .ret (.ok a, s) := rfl

@[simp] theorem fail_apply (e : ε) (s : σ) : (fail e : Act σ ε α) s = .ret (.error e, s) := rfl

@[simp] theorem modify_apply (f : σ → σ) (s : σ) :
    (modify f : Act σ ε Unit) s = .ret (.ok (), f s) := rfl

@[simp] theorem lift_panic (why : Panic) (s : σ) :
    (lift (.panic why) : Act σ ε α) s = .panic why := rfl

theorem bind_apply (x : Act σ ε α) (f : α → Act σ ε β) (s : σ) :
    (x >>= f) s = bind x f s := rfl

theorem bind_ok {x : Act σ ε α} {s s' : σ} {a : α} (h : x s = .ret (.ok a, s'))
    (f : α → Act σ ε β) : (x >>= f) s = f a s' := by
  simp only [bind_apply, bind, h]

theorem bind_error {x : Act σ ε α} {s s' : σ} {e : ε} (h : x s = .ret (.error e, s'))
    (f : α → Act σ ε β) : (x >>= f) s = .ret (.error e, s') := by
  simp only [bind_apply, bind, h]

theorem bind_panic {x : Act σ ε α} {s : σ} {why : Panic} (h : x s = .panic why)
    (f : α → Act σ ε β) : (x >>= f) s = .panic why := by
  simp only [bind_apply, bind, h]

instance : LawfulMonad (Act σ ε) := LawfulMonad.mk' (Act σ ε)
  (by
    intro α x
    funext s
    change bind x pure s = x s
    simp only [bind]
    rcases x s with ⟨_ | _, _⟩ | _ | _ <;> rfl)
  (by
    intro α β a f
    rfl)
  (by
    intro α β γ x f g
    funext s
    simp only [bind_apply, bind]
    rcases x s with ⟨_ | _, _⟩ | _ | _ <;> rfl)

theorem ite_bind (c : Prop) [Decidable c] (x y : Act σ ε α) (f : α → Act σ ε β) :
    ((if c then x else y) >>= f) = if c then x >>= f else y >>= f := by
  split <;> rfl

@[simp] theorem get_bind_apply (f : σ → Act σ ε β) (s : σ) :
    ((get : Act σ ε σ) >>= f) s = f s s := rfl

@[simp] theorem modify_bind_apply (g : σ → σ) (f : Unit → Act σ ε β) (s : σ) :
    ((modify g : Act σ ε Unit) >>= f) s = f () (g s) := rfl

@[simp] theorem call_bind_apply (g : σ → α × σ) (f : α → Act σ ε β) (s : σ) :
    ((call g : Act σ ε α) >>= f) s = f (g s).1 (g s).2 := rfl

@[simp] theorem lift_ret_bind_apply (a : α) (f : α → Act σ ε β) (s : σ) :
    ((lift (.ret a) : Act σ ε α) >>= f) s = f a s := rfl

@[simp] theorem lift_panic_bind_apply (why : Panic) (f : α → Act σ ε β) (s : σ) :
    ((lift (.panic why) : Act σ ε α) >>= f) s = .panic why := rfl

@[simp] theorem ofExcept_ok_bind_apply (a : α) (f : α → Act σ ε β) (s : σ) :
    ((ofExcept (.ok a) : Act σ ε α) >>= f) s = f a s := rfl

theorem mapError_ret {ε' : Type} {f : ε → ε'} {x : Act σ ε α} {s s' : σ} {r : Except ε α}
    (h : x s = .ret (r, s')) : mapError f x s = .ret (r.mapError f, s') := by
  rw [mapError, h, Exec.ret_bind]

theorem mapError_ok {ε' : Type} {f : ε → ε'} {x : Act σ ε α} {s s' : σ} {a : α}
    (h : x s = .ret (.ok a, s')) : mapError f x s = .ret (.ok a, s') :=
  mapError_ret h

theorem mapError_error {ε' : Type} {f : ε → ε'} {x : Act σ ε α} {s s' : σ} {e : ε}
    (h : x s = .ret (.error e, s')) : mapError f x s = .ret (.error (f e), s') :=
  mapError_ret h

theorem bind_pure_ret {x : Act σ ε α} {s s' : σ} {r : Except ε α} (h : x s = .ret (r, s'))
    (g : α → β) : (x >>= fun a => pure (g a)) s = .ret (r.map g, s') := by
  cases r with
  | ok a => rw [bind_ok h]; rfl
  | error e => rw [bind_error h]; rfl

theorem mapError_bind_pure {ε' : Type} {x : Act σ ε α} {s s' : σ} {r : Except ε α}
    (h : x s = .ret (r, s')) (f : ε → ε') (g : α → β) :
    (mapError f x >>= fun a => pure (g a) : Act σ ε' β) s = .ret ((r.mapError f).map g, s') :=
  bind_pure_ret (mapError_ret h) g

theorem mapError_bind {ε' : Type} (h : ε → ε') (x : Act σ ε α) (f : α → Act σ ε β) :
    mapError h (x >>= f) = mapError h x >>= fun a => mapError h (f a) := by
  funext s
  simp only [mapError, bind_apply, bind]
  rcases x s with ⟨_ | _, _⟩ | _ | _ <;> rfl

theorem mapError_pure {ε' : Type} (h : ε → ε') (a : α) :
    mapError h (pure a : Act σ ε α) = pure a := rfl

theorem mapError_lift {ε' : Type} (h : ε → ε') (x : Exec α) :
    mapError h (lift x : Act σ ε α) = lift x := by
  funext s
  cases x <;> rfl

theorem mapError_ite {ε' : Type} (h : ε → ε') (c : Prop) [Decidable c] (x y : Act σ ε α) :
    mapError h (if c then x else y) = if c then mapError h x else mapError h y := by
  split <;> rfl

theorem onLocals_ok {τ : Type} {x : Act τ ε α} {init t : τ} {a : α}
    (h : x init = .ret (.ok a, t)) (s : σ) :
    (onLocals x init : Act σ ε (α × τ)) s = .ret (.ok (a, t), s) := by
  simp [onLocals, h, Except.map]

theorem onLocals_error {τ : Type} {x : Act τ ε α} {init t : τ} {e : ε}
    (h : x init = .ret (.error e, t)) (s : σ) :
    (onLocals x init : Act σ ε (α × τ)) s = .ret (.error e, s) := by
  simp [onLocals, h, Except.map]

theorem onLocals_panic {τ : Type} {x : Act τ ε α} {init : τ} {why : Panic}
    (h : x init = .panic why) (s : σ) :
    (onLocals x init : Act σ ε (α × τ)) s = .panic why := by
  simp [onLocals, h]

theorem onLocals_fst {τ : Type} {x : Act τ ε α} {init t : τ} {r : Except ε α}
    (h : x init = .ret (r, t)) (s : σ) :
    (onLocals x init >>= fun a => pure a.1 : Act σ ε α) s = .ret (r, s) := by
  cases r with
  | ok a => rw [bind_ok (onLocals_ok h s)]; rfl
  | error e => rw [bind_error (onLocals_error h s)]

theorem onLocals_fst_bind {τ : Type} {x : Act τ ε α} {init t : τ} {y : Exec α}
    (h : x init = y >>= fun a => .ret (.ok a, t)) (s : σ) :
    (onLocals x init >>= fun a => pure a.1 : Act σ ε α) s = y >>= fun a => .ret (.ok a, s) := by
  cases y with
  | ret a => exact onLocals_fst h s
  | panic why => exact bind_panic (onLocals_panic h s) _
  | spin => simp [bind_apply, bind, onLocals, h]

theorem onLocals_returnsIff {τ : Type} {x : Act τ ε α} {init : τ} {P : Prop}
    (h : (x init).ReturnsIff P) (f : α × τ → β) (s : σ) :
    ((onLocals x init >>= fun a => pure (f a) : Act σ ε β) s).ReturnsIff P := by
  cases hx : x init with
  | ret r =>
    obtain ⟨r, t⟩ := r
    have hp : P := h.iff.mp ⟨_, hx⟩
    cases r with
    | ok a => rw [bind_ok (onLocals_ok hx s)]; exact Exec.returnsIff_ret _ hp
    | error e => rw [bind_error (onLocals_error hx s)]; exact Exec.returnsIff_ret _ hp
  | panic why =>
    rw [bind_panic (onLocals_panic hx s)]
    apply Exec.returnsIff_panic why
    intro hp
    obtain ⟨r, hr⟩ := h.iff.mpr hp
    rw [hx] at hr
    cases hr
  | spin => exact absurd hx h.ne_spin

/-- Postcondition of a call: `Q` after `Ok`, `E` after `Err`. -/
def post (Q : α → σ → Prop) (E : ε → σ → Prop) : Except ε α × σ → Prop
  | (.ok a, s) => Q a s
  | (.error e, s) => E e s

@[simp] theorem post_ok (Q : α → σ → Prop) (E : ε → σ → Prop) (a : α) (s : σ) :
    post Q E (.ok a, s) ↔ Q a s := .rfl

@[simp] theorem post_error (Q : α → σ → Prop) (E : ε → σ → Prop) (e : ε) (s : σ) :
    post Q E (.error e, s) ↔ E e s := .rfl

/-- Sequencing: the first part either stops with an error or establishes the second's start. -/
theorem sat_bind {x : Act σ ε α} {f : α → Act σ ε β} {Q : α → σ → Prop} {R : β → σ → Prop}
    {E : ε → σ → Prop} {Z : Panic → Prop} {s : σ} (h : (x s).Sat (post Q E) Z)
    (hf : ∀ a s', Q a s' → (f a s').Sat (post R E) Z) : ((x >>= f) s).Sat (post R E) Z := by
  cases hx : x s with
  | ret r =>
    obtain ⟨r, s'⟩ := r
    rw [hx] at h
    cases r with
    | ok a => rw [bind_ok hx]; exact hf a s' h
    | error e => rw [bind_error hx]; exact h
  | panic why => rw [bind_panic hx]; simpa [hx] using h
  | spin => simp [hx, Exec.Sat] at h

/-- `while guard { body }`. -/
def whileLoop (guard : σ → Bool) (body : Act σ ε Unit) : Nat → Act σ ε Unit
  | 0 => fun _ => .spin
  | fuel + 1 => fun s =>
    if guard s then (body >>= fun _ => whileLoop guard body fuel) s else .ret (.ok (), s)

variable {guard : σ → Bool} {body : Act σ ε Unit}

theorem whileLoop_stop {s : σ} (h : guard s = false) (fuel : Nat) :
    whileLoop guard body (fuel + 1) s = .ret (.ok (), s) := by
  simp [whileLoop, h]

theorem whileLoop_next {s s' : σ} (h : guard s = true) (hb : body s = .ret (.ok (), s'))
    (fuel : Nat) : whileLoop guard body (fuel + 1) s = whileLoop guard body fuel s' := by
  simp only [whileLoop, h, if_true]
  exact bind_ok hb _

theorem whileLoop_error {s s' : σ} {e : ε} (h : guard s = true)
    (hb : body s = .ret (.error e, s')) (fuel : Nat) :
    whileLoop guard body (fuel + 1) s = .ret (.error e, s') := by
  simp only [whileLoop, h, if_true]
  exact bind_error hb _

theorem whileLoop_panic {s : σ} {why : Panic} (h : guard s = true) (hb : body s = .panic why)
    (fuel : Nat) : whileLoop guard body (fuel + 1) s = .panic why := by
  simp only [whileLoop, h, if_true]
  exact bind_panic hb _

/-- The loop rule: an invariant that every round keeps, and a variant that every round
decreases and that the fuel exceeds. -/
theorem whileLoop_sat {I : σ → Prop} {μ : σ → Nat} {E : ε → σ → Prop} {Z : Panic → Prop}
    (round : ∀ s, I s → guard s = true →
      (body s).Sat (post (fun _ s' => I s' ∧ μ s' < μ s) E) Z) :
    ∀ fuel s, I s → μ s < fuel →
      (whileLoop guard body fuel s).Sat (post (fun _ s' => I s' ∧ guard s' = false) E) Z := by
  intro fuel
  induction fuel with
  | zero => intro s _ hμ; exact absurd hμ (Nat.not_lt_zero _)
  | succ fuel ih =>
    intro s hI hμ
    by_cases hg : guard s = true
    · simp only [whileLoop, hg, if_true]
      apply sat_bind (round s hI hg)
      intro _ s' ⟨hI', hlt⟩
      exact ih s' hI' (by omega)
    · have hg' : guard s = false := by simpa using hg
      rw [whileLoop_stop hg']
      exact ⟨hI, hg'⟩

end Act

end Rust
