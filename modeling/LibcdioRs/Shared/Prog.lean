import LibcdioRs.Shared.Exec

/-!
# Programs that call foreign functions

`Prog` is code whose only effects are calls into a foreign library: `C` are the
calls and `R c` is what the call `c` replies. A `Contract` says when a call is
allowed and what may come back. `Sat` quantifies over every library that keeps
the contract; `run` takes one library and computes.

This module does NOT say which calls exist or what they do.
-/

namespace Foreign

open Rust
set_option autoImplicit false

inductive Prog (C : Type) (R : C → Type) (α : Type) where
  | ret (a : α)
  | panic (why : Panic)
  | spin
  | call (c : C) (next : R c → Prog C R α)

/-- When a call is allowed, and which replies and next states it may then have. -/
structure Contract (C : Type) (R : C → Type) (S : Type) where
  allowed : C → S → Prop
  effect : (c : C) → S → R c → S → Prop

/-- A library that answers each call from its own state. `view` is what a contract sees of
that state. -/
structure Library (C : Type) (R : C → Type) (σ S : Type) where
  reply : (c : C) → σ → R c × σ
  view : σ → S

variable {C : Type} {R : C → Type} {S σ α β : Type}

def Library.Keeps (L : Library C R σ S) (K : Contract C R S) : Prop :=
  ∀ c s, K.allowed c (L.view s) →
    K.effect c (L.view s) (L.reply c s).1 (L.view (L.reply c s).2)

namespace Prog

def bind : Prog C R α → (α → Prog C R β) → Prog C R β
  | ret a, f => f a
  | panic why, _ => panic why
  | spin, _ => spin
  | call c next, f => call c fun r => (next r).bind f

instance : Monad (Prog C R) where
  pure := ret
  bind := bind

instance : LawfulMonad (Prog C R) := LawfulMonad.mk' (Prog C R)
  (by
    intro α x
    change x.bind ret = x
    induction x with
    | ret a => rfl
    | panic why => rfl
    | spin => rfl
    | call c next ih => exact congrArg (call c) (funext ih))
  (by
    intro α β a f
    rfl)
  (by
    intro α β γ x f g
    change (x.bind f).bind g = x.bind fun a => (f a).bind g
    induction x with
    | ret a => rfl
    | panic why => rfl
    | spin => rfl
    | call c next ih => exact congrArg (call c) (funext ih))

def perform (c : C) : Prog C R (R c) := call c ret

@[simp] theorem pure_eq (a : α) : (pure a : Prog C R α) = ret a := rfl

@[simp] theorem ret_bind (a : α) (f : α → Prog C R β) : (ret a >>= f) = f a := rfl

@[simp] theorem panic_bind (why : Panic) (f : α → Prog C R β) :
    (panic why >>= f) = panic why := rfl

@[simp] theorem spin_bind (f : α → Prog C R β) : (spin >>= f) = spin := rfl

@[simp] theorem call_bind (c : C) (next : R c → Prog C R α) (f : α → Prog C R β) :
    (call c next >>= f) = call c fun r => next r >>= f := rfl

/-- Against every library that keeps `K`, the program makes only allowed calls, and it returns
with `Q`. -/
def Sat (K : Contract C R S) : Prog C R α → S → (α → S → Prop) → Prop
  | ret a, s, Q => Q a s
  | panic _, _, _ => False
  | spin, _, _ => False
  | call c next, s, Q => K.allowed c s ∧ ∀ r s', K.effect c s r s' → Sat K (next r) s' Q

/-- `Outcome K x s a s'`: alone with a library that keeps `K`, the program may return `a` and
leave the state `s'`. -/
inductive Outcome (K : Contract C R S) : Prog C R α → S → α → S → Prop where
  | ret (a : α) (s : S) : Outcome K (ret a) s a s
  | call {c next s r s' a t} : K.allowed c s → K.effect c s r s' → Outcome K (next r) s' a t →
      Outcome K (call c next) s a t

/-- The program neither panics nor loops, whatever its calls reply. -/
def Quiet : Prog C R α → Prop
  | ret _ => True
  | panic _ => False
  | spin => False
  | call _ next => ∀ r, (next r).Quiet

/-- Interprets each call by a program over another library; `τ` is what the interpreter
remembers between the calls. -/
def handle {C' : Type} {R' : C' → Type} {τ : Type} (step : (c : C) → τ → Prog C' R' (R c × τ)) :
    Prog C R α → τ → Prog C' R' (α × τ)
  | ret a, t => ret (a, t)
  | panic why, _ => panic why
  | spin, _ => spin
  | call c next, t => step c t >>= fun r => (next r.1).handle step r.2

section Rules
variable {K : Contract C R S}

@[simp] theorem sat_ret (a : α) (s : S) (Q : α → S → Prop) : (ret a).Sat K s Q ↔ Q a s := .rfl

@[simp] theorem sat_pure (a : α) (s : S) (Q : α → S → Prop) :
    (pure a : Prog C R α).Sat K s Q ↔ Q a s := .rfl

theorem Sat.mono {x : Prog C R α} {Q Q' : α → S → Prop} (hq : ∀ a s, Q a s → Q' a s) :
    ∀ {s}, x.Sat K s Q → x.Sat K s Q' := by
  induction x with
  | ret a => exact fun h => hq a _ h
  | panic why => exact fun h => h
  | spin => exact fun h => h
  | call c next ih =>
    intro s h
    rcases h with ⟨hc, hnext⟩
    exact ⟨hc, fun r s' he => ih r (hnext r s' he)⟩

theorem Sat.bind {x : Prog C R α} {f : α → Prog C R β} {Q : α → S → Prop} {P : β → S → Prop}
    (hf : ∀ a s, Q a s → (f a).Sat K s P) : ∀ {s}, x.Sat K s Q → (x >>= f).Sat K s P := by
  induction x with
  | ret a => exact fun h => hf a _ h
  | panic why => exact fun h => h.elim
  | spin => exact fun h => h.elim
  | call c next ih =>
    intro s h
    rcases h with ⟨hc, hnext⟩
    exact ⟨hc, fun r s' he => ih r (hnext r s' he)⟩

theorem Sat.outcome {x : Prog C R α} {Q : α → S → Prop} :
    ∀ {s}, x.Sat K s Q → x.Sat K s fun a s' => Q a s' ∧ Outcome K x s a s' := by
  induction x with
  | ret a => exact fun h => ⟨h, .ret a _⟩
  | panic why => exact fun h => h
  | spin => exact fun h => h
  | call c next ih =>
    intro s h
    rcases h with ⟨hc, hnext⟩
    refine ⟨hc, fun r s' he => (ih r (hnext r s' he)).mono ?_⟩
    rintro a t ⟨hq, hout⟩
    exact ⟨hq, .call hc he hout⟩

/-- The rule for interpreters: what each call keeps, every program of such calls keeps. -/
theorem Sat.handle {C' : Type} {R' : C' → Type} {τ : Type}
    {step : (c : C') → τ → Prog C R (R' c × τ)} {I : τ → S → Prop}
    (hstep : ∀ c t s, I t s → (step c t).Sat K s fun r s' => I r.2 s') {x : Prog C' R' α}
    (hx : x.Quiet) : ∀ t s, I t s → (x.handle step t).Sat K s fun r s' => I r.2 s' := by
  induction x with
  | ret a => exact fun t s h => h
  | panic why => exact hx.elim
  | spin => exact hx.elim
  | call c next ih =>
    intro t s h
    apply Sat.bind _ (hstep c t s h)
    intro r s' h'
    exact ih r.1 (hx r.1) r.2 s' h'

end Rules

/-- Runs the program against one library. -/
def run (L : Library C R σ S) : Prog C R α → σ → Exec (α × σ)
  | ret a, s => .ret (a, s)
  | panic why, _ => .panic why
  | spin, _ => .spin
  | call c next, s => (next (L.reply c s).1).run L (L.reply c s).2

/-- Every call that the run makes is allowed in the state in which it is made. -/
def Proper (L : Library C R σ S) (K : Contract C R S) : Prog C R α → σ → Prop
  | call c next, s => K.allowed c (L.view s) ∧ Proper L K (next (L.reply c s).1) (L.reply c s).2
  | _, _ => True

section Running
variable {L : Library C R σ S} {K : Contract C R S}

@[simp] theorem run_ret (a : α) (s : σ) : (ret a : Prog C R α).run L s = .ret (a, s) := rfl

theorem run_bind (x : Prog C R α) (f : α → Prog C R β) :
    ∀ s, (x >>= f).run L s = x.run L s >>= fun r => (f r.1).run L r.2 := by
  induction x with
  | ret a => exact fun s => rfl
  | panic why => exact fun s => rfl
  | spin => exact fun s => rfl
  | call c next ih => exact fun s => ih _ _

theorem run_perform_bind {c : C} {r : R c} {s s' : σ} (h : L.reply c s = (r, s'))
    (f : R c → Prog C R β) : (perform c >>= f).run L s = (f r).run L s' := by
  change (f (L.reply c s).1).run L (L.reply c s).2 = _
  rw [h]

/-- What is proved against the contract holds of every library that keeps it. -/
theorem run_of_sat (hL : L.Keeps K) {x : Prog C R α} {Q : α → S → Prop} :
    ∀ {s}, x.Sat K (L.view s) Q →
      x.Proper L K s ∧ ∃ a s', x.run L s = .ret (a, s') ∧ Q a (L.view s') := by
  induction x with
  | ret a => exact fun h => ⟨trivial, a, _, rfl, h⟩
  | panic why => exact fun h => h.elim
  | spin => exact fun h => h.elim
  | call c next ih =>
    intro s h
    rcases h with ⟨hc, hnext⟩
    obtain ⟨hproper, hrun⟩ := ih _ (hnext _ _ (hL c s hc))
    exact ⟨⟨hc, hproper⟩, hrun⟩

end Running

end Prog

end Foreign
