import LibcdioRs.Shared.Ownership

/-!
# Threads that call a foreign library

Each thread runs a `Prog`. Next to foreign calls it uses one `Mutex<()>` and one
`Once`. A foreign call takes time: other threads go on between its start and its
end. All threads work on one foreign memory.

`discipline` is what one thread has to keep to by itself: call guarded functions
with the mutex held, set the library up inside the `Once` and before all else,
use its own objects only. If every thread does, then no interleaving breaks the
rules that are about all threads together.
-/

namespace Foreign

open Rust
set_option autoImplicit false

/-- `unlock` drops the guard of the mutex, `onceDone` ends the closure of the `Once`. -/
inductive Cmd (F : Type) where
  | lock
  | unlock
  | once
  | onceDone
  | foreign (f : F)

/-- `lock` replies whether the mutex is poisoned, `once` whether it is up to this thread to run
the closure. -/
def Cmd.Reply {F : Type} (R : F → Type) : Cmd F → Type
  | lock => Bool
  | unlock => Unit
  | once => Bool
  | onceDone => Unit
  | foreign f => R f

/-- Where a foreign function may be called: in the closure of the `Once`, with the mutex held,
or anywhere once that closure has run. -/
inductive Role where
  | setup
  | guarded
  | plain

/-- Where a thread is. `setup done` is inside the closure, of which `done` has been called. -/
inductive Phase (F : Type) where
  | free
  | locked
  | setup (done : List F)

def Phase.called {F : Type} (f : F) : Phase F → Phase F
  | free => free
  | locked => locked
  | setup done => setup (done ++ [f])

structure Local (F S : Type) where
  phase : Phase F
  ready : Bool
  memory : S

variable {ι F H V S α : Type} {R : F → Type}

def MayCall : Role → Local F S → Prop
  | .setup, l => ∃ done, l.phase = .setup done
  | .guarded, l => l.phase = .locked ∧ l.ready = true
  | .plain, l => (∀ done, l.phase ≠ .setup done) ∧ l.ready = true

/-- The rules for one thread; `closure` lists the calls that the closure of the `Once` makes. -/
def discipline (role : F → Role) (closure : List F) (K : Contract F R S) :
    Contract (Cmd F) (Cmd.Reply R) (Local F S) where
  allowed
    | .lock, l => l.phase = .free
    | .unlock, l => l.phase = .locked
    | .once, l => l.phase = .free
    | .onceDone, l => l.phase = .setup closure
    | .foreign f, l => MayCall (role f) l ∧ K.allowed f l.memory
  effect
    | .lock, l, poisoned, l' => poisoned = false ∧ l' = { l with phase := .locked }
    | .unlock, l, _, l' => l' = { l with phase := .free }
    | .once, l, true, l' => l.ready = false ∧ l' = { l with phase := .setup [] }
    | .once, l, false, l' => l' = { l with ready := true }
    | .onceDone, l, _, l' => l' = { l with phase := .free, ready := true }
    | .foreign f, l, r, l' =>
      ∃ m, K.effect f l.memory r m ∧ l' = ⟨l.phase.called f, l.ready, m⟩

inductive Thread (F : Type) (R : F → Type) (α : Type) where
  | running (x : Prog (Cmd F) (Cmd.Reply R) α)
  | inside (f : F) (next : R f → Prog (Cmd F) (Cmd.Reply R) α)
  | panicked

inductive OnceState (ι : Type) where
  | incomplete
  | running (i : ι)
  | complete
  | poisoned
  deriving DecidableEq

/-- `calls` lists the foreign calls that have returned. -/
structure System (ι F : Type) (R : F → Type) (H V α : Type) where
  threads : ι → Thread F R α
  memory : Heap H V
  holder : Option ι
  poisoned : Bool
  once : OnceState ι
  calls : List (ι × F)

namespace System

def start (x : ι → Prog (Cmd F) (Cmd.Reply R) α) : System ι F R H V α where
  threads i := .running (x i)
  memory := Heap.empty
  holder := none
  poisoned := false
  once := .incomplete
  calls := []

variable [DecidableEq ι]

def go (sys : System ι F R H V α) (i : ι) (t : Thread F R α) : System ι F R H V α :=
  { sys with threads := Function.update sys.threads i t }

/-- One step of the thread `i`. Nothing is known of a foreign call that is not allowed. A panic
poisons the mutex if the thread holds it, and the `Once` if the thread is in its closure. -/
inductive Step (A : Api F R H V) (sys : System ι F R H V α) (i : ι) :
    System ι F R H V α → Prop where
  | lock {next} : sys.threads i = .running (.call .lock next) → sys.holder = none →
      Step A sys i { sys.go i (.running (next sys.poisoned)) with holder := some i }
  | unlock {next} : sys.threads i = .running (.call .unlock next) →
      Step A sys i { sys.go i (.running (next ())) with holder := none }
  | onceRun {next} : sys.threads i = .running (.call .once next) → sys.once = .incomplete →
      Step A sys i { sys.go i (.running (next true)) with once := .running i }
  | onceSkip {next} : sys.threads i = .running (.call .once next) → sys.once = .complete →
      Step A sys i (sys.go i (.running (next false)))
  | onceFail {next} : sys.threads i = .running (.call .once next) → sys.once = .poisoned →
      Step A sys i
        (sys.go i (.running (.panic (.expect "Once instance has previously been poisoned"))))
  | onceDone {next} : sys.threads i = .running (.call .onceDone next) →
      Step A sys i { sys.go i (.running (next ())) with once := .complete }
  | enter {f next} : sys.threads i = .running (.call (.foreign f) next) →
      Step A sys i (sys.go i (.inside f next))
  | leave {f next r m} : sys.threads i = .inside f next →
      (A.allowed f sys.memory → A.contract.effect f sys.memory r m) →
      Step A sys i { sys.go i (.running (next r)) with
        memory := m, calls := sys.calls ++ [(i, f)] }
  | unwind {why} : sys.threads i = .running (.panic why) →
      Step A sys i { sys.go i .panicked with
        holder := if sys.holder = some i then none else sys.holder
        poisoned := sys.poisoned || decide (sys.holder = some i)
        once := if sys.once = .running i then .poisoned else sys.once }

def Reachable (A : Api F R H V) (sys sys' : System ι F R H V α) : Prop :=
  Relation.ReflTransGen (fun s t => ∃ i, Step A s i t) sys sys'

end System

section Parts

/-- Every object of the memory is in the part of exactly one thread. -/
structure Parted (part : ι → Heap H V) (memory : Heap H V) : Prop where
  within : ∀ i, (part i).Within memory
  apart : ∀ i j h, (part i).Live h → (part j).Live h → i = j
  cover : ∀ h, memory.Live h → ∃ i, (part i).Live h

theorem Parted.empty : Parted (fun _ : ι => (Heap.empty : Heap H V)) Heap.empty where
  within _ _ _ := id
  apart _ _ h hl := (Heap.not_live_empty h hl).elim
  cover h hl := (Heap.not_live_empty h hl).elim

theorem Parted.frame [DecidableEq ι] {A : Api F R H V} (hA : A.Local) {part : ι → Heap H V}
    {m m' : Heap H V} (hp : Parted part m) {i : ι} {f : F} {r : R f}
    (hf : A.allowed f (part i)) (he : A.contract.effect f m r m') :
    ∃ s', A.contract.effect f (part i) r s' ∧ Parted (Function.update part i s') m' := by
  obtain ⟨s', hes, hframe⟩ := hA.frame (hp.within i) hf he
  refine ⟨s', hes, ?_⟩
  -- A part of another thread is no part of `i`, so that the call leaves it alone.
  have hother : ∀ {j h}, j ≠ i → (part j).Live h → m.Live h ∧ ¬ (part i).Live h := by
    intro j h hj hl
    exact ⟨(hp.within j).live hl, fun hi => hj (hp.apart j i h hl hi)⟩
  have hnew : ∀ {j h}, j ≠ i → (part j).Live h → ¬ s'.Live h := by
    intro j h hj hl hs'
    rcases hframe.own h hs' with hi | hm
    · exact (hother hj hl).2 hi
    · exact hm (hother hj hl).1
  refine ⟨?_, ?_, ?_⟩
  · intro j
    by_cases hj : j = i
    · subst hj
      rw [Function.update_self]
      exact hframe.within
    · rw [Function.update_of_ne hj]
      intro h v hv
      obtain ⟨hm, hi⟩ := hother hj (Heap.live_of_eq hv)
      rw [hframe.others h hm hi]
      exact hp.within j h v hv
  · intro j k h hjl hkl
    by_cases hj : j = i
    · by_cases hk : k = i
      · exact hj.trans hk.symm
      · subst hj
        rw [Function.update_self] at hjl
        rw [Function.update_of_ne hk] at hkl
        exact absurd hjl (hnew hk hkl)
    · rw [Function.update_of_ne hj] at hjl
      by_cases hk : k = i
      · subst hk
        rw [Function.update_self] at hkl
        exact absurd hkl (hnew hj hjl)
      · rw [Function.update_of_ne hk] at hkl
        exact hp.apart j k h hjl hkl
  · intro h hl
    rcases hframe.cover h hl with hs' | ⟨hm, hi⟩
    · exact ⟨i, by rw [Function.update_self]; exact hs'⟩
    · obtain ⟨j, hj⟩ := hp.cover h hm
      have hji : j ≠ i := by
        intro heq
        exact hi (heq ▸ hj)
      exact ⟨j, by rw [Function.update_of_ne hji]; exact hj⟩

end Parts

/-- The closure of the `Once` is run by one thread, once, and before all other calls. -/
def Ordered (role : F → Role) (closure : List F) (phase : ι → Phase F) :
    OnceState ι → List (ι × F) → Prop
  | .incomplete, calls => calls = [] ∧ ∀ i done, phase i ≠ .setup done
  | .running i, calls =>
    (∃ done, phase i = .setup done ∧ calls = done.map (Prod.mk i)) ∧
      ∀ j done, phase j = .setup done → j = i
  | .complete, calls =>
    (∀ i done, phase i ≠ .setup done) ∧
      ∃ i rest, calls = closure.map (Prod.mk i) ++ rest ∧ ∀ x ∈ rest, role x.2 ≠ .setup
  | .poisoned, _ => False

theorem Ordered.congr {role : F → Role} {closure : List F} {phase phase' : ι → Phase F}
    {once : OnceState ι} {calls : List (ι × F)} (ho : Ordered role closure phase once calls)
    (hsame : ∀ i done, phase' i = .setup done ↔ phase i = .setup done) :
    Ordered role closure phase' once calls := by
  cases once with
  | incomplete => exact ⟨ho.1, fun i done h => ho.2 i done ((hsame i done).mp h)⟩
  | running i =>
    obtain ⟨⟨done, hphase, hcalls⟩, honly⟩ := ho
    exact ⟨⟨done, (hsame i done).mpr hphase, hcalls⟩, fun j d h => honly j d ((hsame j d).mp h)⟩
  | complete => exact ⟨fun i done h => ho.1 i done ((hsame i done).mp h), ho.2⟩
  | poisoned => exact ho

def Thread.Meets (K : Contract (Cmd F) (Cmd.Reply R) (Local F S)) (l : Local F S)
    (Q : α → Local F S → Prop) : Thread F R α → Prop
  | .running x => x.Sat K l Q
  | .inside f next => (Prog.call (.foreign f) next).Sat K l Q
  | .panicked => False

section Invariant
variable {A : Api F R H V} {role : F → Role} {closure : List F}
variable {Q : ι → α → Local F (Heap H V) → Prop}

/-- The invariant of all threads together; `own i` is what the thread `i` knows and has. -/
structure Good (A : Api F R H V) (role : F → Role) (closure : List F)
    (Q : ι → α → Local F (Heap H V) → Prop) (own : ι → Local F (Heap H V))
    (sys : System ι F R H V α) : Prop where
  parts : Parted (fun i => (own i).memory) sys.memory
  holder : ∀ i, sys.holder = some i ↔ (own i).phase = .locked
  sound : sys.poisoned = false
  once : Ordered role closure (fun i => (own i).phase) sys.once sys.calls
  ready : ∀ i, (own i).ready = true → sys.once = .complete
  threads : ∀ i, (sys.threads i).Meets (discipline role closure A.contract) (own i) (Q i)

def Local.initial : Local F (Heap H V) := ⟨.free, false, Heap.empty⟩

theorem Good.start {x : ι → Prog (Cmd F) (Cmd.Reply R) α}
    (hx : ∀ i, (x i).Sat (discipline role closure A.contract) Local.initial (Q i)) :
    Good A role closure Q (fun _ => Local.initial) (System.start x) where
  parts := .empty
  holder _ := iff_of_false nofun nofun
  sound := rfl
  once := ⟨rfl, nofun⟩
  ready := nofun
  threads := hx

variable {own : ι → Local F (Heap H V)} {sys sys' : System ι F R H V α} {i : ι}

theorem Good.meets (h : Good A role closure Q own sys) {t : Thread F R α}
    (ht : sys.threads i = t) : t.Meets (discipline role closure A.contract) (own i) (Q i) :=
  ht ▸ h.threads i

/-- A call that is not of the closure is made when the closure has run. -/
theorem Good.late (h : Good A role closure Q own sys) {f : F} (hmay : MayCall (role f) (own i))
    (hrole : role f ≠ .setup) : sys.once = .complete := by
  apply h.ready i
  cases hf : role f with
  | setup => exact absurd hf hrole
  | guarded => rw [hf] at hmay; exact hmay.2
  | plain => rw [hf] at hmay; exact hmay.2

variable [DecidableEq ι] {l : Local F (Heap H V)}

theorem parts_update (hp : Parted (fun j => (own j).memory) sys.memory)
    (hl : l.memory = (own i).memory) :
    Parted (fun j => (Function.update own i l j).memory) sys.memory := by
  have hsame : (fun j => (Function.update own i l j).memory) = fun j => (own j).memory := by
    funext j
    by_cases hj : j = i
    · subst hj; rw [Function.update_self, hl]
    · rw [Function.update_of_ne hj]
  rw [hsame]
  exact hp

theorem setup_update (h : ∀ done, (own i).phase ≠ .setup done)
    (hl : ∀ done, l.phase ≠ .setup done) :
    ∀ j done, (Function.update own i l j).phase = .setup done ↔ (own j).phase = .setup done := by
  intro j done
  by_cases hj : j = i
  · subst hj
    rw [Function.update_self]
    exact iff_of_false (hl done) (h done)
  · rw [Function.update_of_ne hj]

theorem holder_update (hh : ∀ j, sys.holder = some j ↔ (own j).phase = .locked)
    (hl : l.phase = .locked ↔ (own i).phase = .locked) :
    ∀ j, sys.holder = some j ↔ (Function.update own i l j).phase = .locked := by
  intro j
  by_cases hj : j = i
  · subst hj
    rw [Function.update_self, hl]
    exact hh j
  · rw [Function.update_of_ne hj]
    exact hh j

theorem ready_update {once : OnceState ι} (hr : ∀ j, (own j).ready = true → once = .complete)
    (hl : l.ready = true → once = .complete) :
    ∀ j, (Function.update own i l j).ready = true → once = .complete := by
  intro j
  by_cases hj : j = i
  · subst hj
    rw [Function.update_self]
    exact hl
  · rw [Function.update_of_ne hj]
    exact hr j

theorem threads_update {K : Contract (Cmd F) (Cmd.Reply R) (Local F (Heap H V))}
    {threads : ι → Thread F R α} {t : Thread F R α}
    (ht : ∀ j, (threads j).Meets K (own j) (Q j)) (hl : t.Meets K l (Q i)) :
    ∀ j, (Function.update threads i t j).Meets K (Function.update own i l j) (Q j) := by
  intro j
  by_cases hj : j = i
  · subst hj
    rw [Function.update_self, Function.update_self]
    exact hl
  · rw [Function.update_of_ne hj, Function.update_of_ne hj]
    exact ht j

theorem Good.lock (h : Good A role closure Q own sys) {next}
    (ht : sys.threads i = .running (.call .lock next)) (hfree : sys.holder = none) :
    Good A role closure Q (Function.update own i { own i with phase := .locked })
      { sys.go i (.running (next sys.poisoned)) with holder := some i } := by
  obtain ⟨hphase, hnext⟩ := h.meets ht
  replace hphase : (own i).phase = .free := hphase
  refine ⟨parts_update h.parts rfl, ?_, h.sound, ?_, ready_update h.ready (h.ready i), ?_⟩
  · intro j
    by_cases hj : j = i
    · subst hj
      rw [Function.update_self]
      exact iff_of_true rfl rfl
    · rw [Function.update_of_ne hj, ← h.holder j, hfree]
      exact iff_of_false (fun heq => hj (Option.some.inj heq).symm) nofun
  · exact h.once.congr (setup_update (by rw [hphase]; nofun) nofun)
  · exact threads_update h.threads (hnext _ _ ⟨h.sound, rfl⟩)

theorem Good.unlock (h : Good A role closure Q own sys) {next}
    (ht : sys.threads i = .running (.call .unlock next)) :
    Good A role closure Q (Function.update own i { own i with phase := .free })
      { sys.go i (.running (next ())) with holder := none } := by
  obtain ⟨hphase, hnext⟩ := h.meets ht
  replace hphase : (own i).phase = .locked := hphase
  refine ⟨parts_update h.parts rfl, ?_, h.sound, ?_, ready_update h.ready (h.ready i), ?_⟩
  · intro j
    by_cases hj : j = i
    · subst hj
      rw [Function.update_self]
      exact iff_of_false nofun nofun
    · rw [Function.update_of_ne hj, ← h.holder j, (h.holder i).mpr hphase]
      exact iff_of_false nofun fun heq => hj (Option.some.inj heq).symm
  · exact h.once.congr (setup_update (by rw [hphase]; nofun) nofun)
  · exact threads_update h.threads (hnext _ _ rfl)

theorem Good.onceRun (h : Good A role closure Q own sys) {next}
    (ht : sys.threads i = .running (.call .once next)) (honce : sys.once = .incomplete) :
    Good A role closure Q (Function.update own i { own i with phase := .setup [] })
      { sys.go i (.running (next true)) with once := .running i } := by
  obtain ⟨hphase, hnext⟩ := h.meets ht
  replace hphase : (own i).phase = .free := hphase
  have hunready : ∀ j, (own j).ready = false := by
    intro j
    cases hr : (own j).ready with
    | false => rfl
    | true => exact absurd (h.ready j hr) (by rw [honce]; nofun)
  have ho := h.once
  rw [honce] at ho
  refine ⟨parts_update h.parts rfl, ?_, h.sound, ⟨⟨[], ?_, ho.1⟩, ?_⟩, ?_, ?_⟩
  · exact holder_update h.holder (by rw [hphase]; exact iff_of_false nofun nofun)
  · beta_reduce
    rw [Function.update_self]
  · intro j done hj
    by_contra hne
    beta_reduce at hj
    rw [Function.update_of_ne hne] at hj
    exact ho.2 j done hj
  · apply ready_update
    · intro j hr
      rw [hunready j] at hr
      cases hr
    · intro hr
      exact absurd hr (by rw [hunready i]; nofun)
  · exact threads_update h.threads (hnext true _ ⟨hunready i, rfl⟩)

theorem Good.onceSkip (h : Good A role closure Q own sys) {next}
    (ht : sys.threads i = .running (.call .once next)) (honce : sys.once = .complete) :
    Good A role closure Q (Function.update own i { own i with ready := true })
      (sys.go i (.running (next false))) := by
  obtain ⟨hphase, hnext⟩ := h.meets ht
  replace hphase : (own i).phase = .free := hphase
  have hnot : ∀ done, (own i).phase ≠ .setup done := by rw [hphase]; nofun
  refine ⟨parts_update h.parts rfl, holder_update h.holder .rfl, h.sound,
    h.once.congr (setup_update hnot hnot), ready_update h.ready fun _ => honce, ?_⟩
  exact threads_update h.threads (hnext false _ rfl)

theorem Good.onceDone (h : Good A role closure Q own sys) {next}
    (ht : sys.threads i = .running (.call .onceDone next)) :
    Good A role closure Q (Function.update own i { own i with phase := .free, ready := true })
      { sys.go i (.running (next ())) with once := .complete } := by
  obtain ⟨hphase, hnext⟩ := h.meets ht
  replace hphase : (own i).phase = .setup closure := hphase
  have ho := h.once
  -- Only the thread that runs the closure is inside it.
  have hcalls : sys.once = .running i ∧ sys.calls = closure.map (Prod.mk i) := by
    cases honce : sys.once with
    | running j =>
      rw [honce] at ho
      obtain ⟨⟨done, hj, hcalls⟩, honly⟩ := ho
      obtain rfl := honly i closure hphase
      beta_reduce at hj
      rw [hphase] at hj
      cases hj
      exact ⟨rfl, hcalls⟩
    | incomplete => rw [honce] at ho; exact absurd hphase (ho.2 i closure)
    | complete => rw [honce] at ho; exact absurd hphase (ho.1 i closure)
    | poisoned => rw [honce] at ho; exact ho.elim
  rw [hcalls.1] at ho
  refine ⟨parts_update h.parts rfl, ?_, h.sound, ⟨?_, i, [], ?_, nofun⟩, fun _ _ => rfl, ?_⟩
  · exact holder_update h.holder (by rw [hphase]; exact iff_of_false nofun nofun)
  · intro j done hj
    beta_reduce at hj
    by_cases hji : j = i
    · subst hji
      rw [Function.update_self] at hj
      cases hj
    · rw [Function.update_of_ne hji] at hj
      exact hji (ho.2 j done hj)
  · rw [List.append_nil]
    exact hcalls.2
  · exact threads_update h.threads (hnext () _ rfl)

theorem Good.enter (h : Good A role closure Q own sys) {f next}
    (ht : sys.threads i = .running (.call (.foreign f) next)) :
    Good A role closure Q own (sys.go i (.inside f next)) := by
  refine ⟨h.parts, h.holder, h.sound, h.once, h.ready, ?_⟩
  have hcall := h.meets ht
  have hall := threads_update h.threads (t := .inside f next) (l := own i) hcall
  rw [Function.update_eq_self] at hall
  exact hall

theorem phase_called_setup {p : Phase F} {f : F} (hp : ∀ done, p ≠ .setup done) :
    p.called f = p := by
  cases p with
  | free => rfl
  | locked => rfl
  | setup done => exact absurd rfl (hp done)

theorem Good.ordered_leave (h : Good A role closure Q own sys) {f : F}
    (hmay : MayCall (role f) (own i)) (hl : l.phase = (own i).phase.called f) :
    Ordered role closure (fun j => (Function.update own i l j).phase) sys.once
      (sys.calls ++ [(i, f)]) := by
  have ho := h.once
  by_cases hrole : role f = .setup
  · rw [hrole] at hmay
    obtain ⟨done, hphase⟩ := hmay
    cases honce : sys.once with
    | incomplete => rw [honce] at ho; exact absurd hphase (ho.2 i done)
    | complete => rw [honce] at ho; exact absurd hphase (ho.1 i done)
    | poisoned => rw [honce] at ho; exact ho
    | running j =>
      rw [honce] at ho
      obtain ⟨⟨done', hj, hcalls⟩, honly⟩ := ho
      obtain rfl := honly i done hphase
      beta_reduce at hj
      rw [hphase] at hj
      cases hj
      refine ⟨⟨done ++ [f], ?_, ?_⟩, ?_⟩
      · beta_reduce
        rw [Function.update_self, hl, hphase]
        rfl
      · rw [hcalls, List.map_append]
        rfl
      · intro k d hk
        beta_reduce at hk
        by_contra hne
        rw [Function.update_of_ne hne] at hk
        exact hne (honly k d hk)
  · have honce := h.late hmay hrole
    rw [honce] at ho ⊢
    obtain ⟨hnone, j, rest, hcalls, hrest⟩ := ho
    refine ⟨?_, j, rest ++ [(i, f)], ?_, ?_⟩
    · intro k done hk
      beta_reduce at hk
      by_cases hki : k = i
      · subst hki
        rw [Function.update_self, hl, phase_called_setup (hnone k)] at hk
        exact hnone k done hk
      · rw [Function.update_of_ne hki] at hk
        exact hnone k done hk
    · rw [hcalls, List.append_assoc]
    · intro x hx
      rcases List.mem_append.mp hx with hx | hx
      · exact hrest x hx
      · rw [List.mem_singleton.mp hx]
        exact hrole

theorem Good.leave (hA : A.Local) (h : Good A role closure Q own sys) {f next r m}
    (ht : sys.threads i = .inside f next)
    (hm : A.allowed f sys.memory → A.contract.effect f sys.memory r m) :
    ∃ l, Good A role closure Q (Function.update own i l)
      { sys.go i (.running (next r)) with memory := m, calls := sys.calls ++ [(i, f)] } := by
  obtain ⟨⟨hmay, hf⟩, hnext⟩ := h.meets ht
  have he := hm (hA.allowed (h.parts.within i) hf)
  obtain ⟨s', hes, hparts⟩ := h.parts.frame hA hf he
  refine ⟨⟨(own i).phase.called f, (own i).ready, s'⟩, ?_, ?_, h.sound, h.ordered_leave hmay rfl,
    ready_update h.ready (h.ready i), threads_update h.threads (hnext r _ ⟨s', hes, rfl⟩)⟩
  · have hsame : (fun j =>
          (Function.update own i ⟨(own i).phase.called f, (own i).ready, s'⟩ j).memory) =
        Function.update (fun j => (own j).memory) i s' := by
      funext j
      by_cases hj : j = i
      · subst hj; rw [Function.update_self, Function.update_self]
      · rw [Function.update_of_ne hj, Function.update_of_ne hj]
    rw [hsame]
    exact hparts
  · apply holder_update h.holder
    cases (own i).phase with
    | free => exact .rfl
    | locked => exact .rfl
    | setup done => exact iff_of_false nofun nofun

/-- Whatever one thread does, the invariant stays. -/
theorem Good.step (hA : A.Local) (h : Good A role closure Q own sys) (hs : sys.Step A i sys') :
    ∃ own', Good A role closure Q own' sys' := by
  cases hs with
  | lock ht hfree => exact ⟨_, h.lock ht hfree⟩
  | unlock ht => exact ⟨_, h.unlock ht⟩
  | onceRun ht honce => exact ⟨_, h.onceRun ht honce⟩
  | onceSkip ht honce => exact ⟨_, h.onceSkip ht honce⟩
  | onceFail ht honce =>
    have ho := h.once
    rw [honce] at ho
    exact ho.elim
  | onceDone ht => exact ⟨_, h.onceDone ht⟩
  | enter ht => exact ⟨_, h.enter ht⟩
  | leave ht hm =>
    obtain ⟨l, hgood⟩ := h.leave hA ht hm
    exact ⟨_, hgood⟩
  | unwind ht => exact (h.meets ht).elim

theorem Good.reachable (hA : A.Local) (h : Good A role closure Q own sys)
    (hr : sys.Reachable A sys') : ∃ own', Good A role closure Q own' sys' := by
  induction hr with
  | refl => exact ⟨own, h⟩
  | tail _ hstep ih =>
    obtain ⟨own', h'⟩ := ih
    obtain ⟨i, hi⟩ := hstep
    exact h'.step hA hi

end Invariant

end Foreign
