import LibcdioRs.Libcdio

/-!
# Calling libcdio

The crate's code as programs over libcdio, its two statics `CDIO_INIT_LOCK` and
`LOG_HANDLER`, and the rules by which these programs are verified. `Holds` says
where a thread is and lists all the objects it has.
-/

namespace LibcdioRs

open Rust Foreign
set_option autoImplicit false

abbrev Ffi (α : Type) : Type := Prog (Cmd LibCall) (Cmd.Reply LibCall.Reply) α

def ffi (c : LibCall) : Ffi c.Reply := Prog.perform (Cmd.foreign c)

/-- `CDIO_INIT_LOCK.lock().unwrap()` -/
def lockInit : Ffi Unit := .call .lock fun (poisoned : Bool) =>
  if poisoned then .panic (.expect "PoisonError") else .ret ()

/-- The end of the scope of the guard. -/
def unlockInit : Ffi Unit := .call .unlock fun _ => .ret ()

/-- `LOG_HANDLER.call_once(..)` -/
def initLogger : Ffi Unit := .call .once fun (first : Bool) =>
  if first then do
    ffi .cdioLogSetHandler
    ffi .cdioLoglevelDefault
    .call .onceDone fun _ => .ret ()
  else .ret ()

def logClosure : List LibCall := [.cdioLogSetHandler, .cdioLoglevelDefault]

def rules (bound : Nat) : Contract (Cmd LibCall) (Cmd.Reply LibCall.Reply)
    (Local LibCall (Heap Handle Object)) :=
  discipline LibCall.role logClosure (libcdio bound).contract

abbrev Known : Type := Local LibCall (Heap Handle Object)

structure Holds (phase : Phase LibCall) (ready : Bool) (cells : Cells) (l : Known) : Prop where
  phase : l.phase = phase
  ready : l.ready = ready
  owns : Owns cells l.memory

/-- Between two calls of the crate. Who has an object has set up the log. -/
def Idle (cells : Cells) (l : Known) : Prop :=
  ∃ ready, Holds .free ready cells l ∧ (cells ≠ [] → ready = true)

theorem Holds.idle {cells : Cells} {l : Known} (h : Holds .free true cells l) : Idle cells l :=
  ⟨true, h, fun _ => rfl⟩

theorem Idle.holds {cells : Cells} {l : Known} (h : Idle cells l) (hne : cells ≠ []) :
    Holds .free true cells l := by
  obtain ⟨ready, hl, hready⟩ := h
  rw [hready hne] at hl
  exact hl

theorem Idle.perm {cells cells' : Cells} {l : Known} (h : Idle cells l) (hp : cells.Perm cells') :
    Idle cells' l := by
  obtain ⟨ready, hl, hready⟩ := h
  refine ⟨ready, ⟨hl.phase, hl.ready, hl.owns.perm hp⟩, ?_⟩
  intro hne
  apply hready
  rintro rfl
  exact hne hp.nil_eq.symm

theorem Idle.initial : Idle [] Local.initial :=
  ⟨false, ⟨rfl, rfl, Owns.nil⟩, fun hne => absurd rfl hne⟩

section Rules
variable {bound : Nat} {α : Type} {phase : Phase LibCall} {ready : Bool} {cells : Cells}
variable {l : Known} {Q : α → Known → Prop}

theorem Holds.perm {cells' : Cells} (h : Holds phase ready cells l) (hp : cells.Perm cells') :
    Holds phase ready cells' l := ⟨h.phase, h.ready, h.owns.perm hp⟩

theorem Holds.eq_some (h : Holds phase ready cells l) {x : Handle} {v : Object}
    (hx : (x, v) ∈ cells) : l.memory x = some v := h.owns.eq_some hx

/-- The lock is held from here on. -/
theorem sat_lockInit {f : Unit → Ffi α} (h : Holds .free ready cells l)
    (hf : ∀ l', Holds .locked ready cells l' → (f ()).Sat (rules bound) l' Q) :
    (lockInit >>= f).Sat (rules bound) l Q := by
  refine ⟨h.phase, ?_⟩
  intro poisoned l' he
  obtain ⟨rfl, rfl⟩ := he
  exact hf _ ⟨rfl, h.ready, h.owns⟩

theorem sat_unlockInit {f : Unit → Ffi α} (h : Holds .locked ready cells l)
    (hf : ∀ l', Holds .free ready cells l' → (f ()).Sat (rules bound) l' Q) :
    (unlockInit >>= f).Sat (rules bound) l Q := by
  refine ⟨h.phase, ?_⟩
  rintro _ l' rfl
  exact hf _ ⟨rfl, h.ready, h.owns⟩

/-- A call outside the closure of the `Once`. -/
theorem sat_ffi {c : LibCall} {f : c.Reply → Ffi α} (h : Holds phase true cells l)
    (hphase : ∀ done, phase ≠ .setup done)
    (hrole : c.role = .plain ∨ c.role = .guarded ∧ phase = .locked)
    (ha : c.allowed l.memory)
    (hf : ∀ r made gone l', c.effect bound l.memory r made gone →
      Change made gone l.memory l'.memory → l'.phase = phase → l'.ready = true →
      (f r).Sat (rules bound) l' Q) : (ffi c >>= f).Sat (rules bound) l Q := by
  have hnot : ∀ done, l.phase ≠ .setup done := fun done => h.phase ▸ hphase done
  have hmay : MayCall c.role l := by
    rcases hrole with hrole | ⟨hrole, hlocked⟩
    · rw [hrole]
      exact ⟨hnot, h.ready⟩
    · rw [hrole]
      exact ⟨h.phase.trans hlocked, h.ready⟩
  refine ⟨⟨hmay, ha⟩, ?_⟩
  intro r l' he
  obtain ⟨m, ⟨made, gone, he, hch⟩, rfl⟩ := he
  exact hf r made gone _ he hch ((phase_called_setup hnot).trans h.phase) h.ready

section Shapes
variable {c : LibCall} {f : c.Reply → Ffi α}

/-- A call that neither makes nor frees anything. -/
theorem sat_reads {P : c.Reply → Prop} (h : Holds phase true cells l)
    (hphase : ∀ done, phase ≠ .setup done) (hrole : c.role = .plain) (ha : c.allowed l.memory)
    (he : ∀ r made gone, c.effect bound l.memory r made gone → P r ∧ made = [] ∧ gone = [])
    (hf : ∀ r, P r → ∀ l', Holds phase true cells l' → (f r).Sat (rules bound) l' Q) :
    (ffi c >>= f).Sat (rules bound) l Q := by
  apply sat_ffi h hphase (.inl hrole) ha
  intro r made gone l' heff hch hp hr
  obtain ⟨hP, rfl, rfl⟩ := he r made gone heff
  exact hf r hP l' ⟨hp, hr, h.owns.unchanged hch⟩

/-- A call that makes what its reply says. -/
theorem sat_makes {new : c.Reply → Cells} (h : Holds phase true cells l)
    (hphase : ∀ done, phase ≠ .setup done)
    (hrole : c.role = .plain ∨ c.role = .guarded ∧ phase = .locked) (ha : c.allowed l.memory)
    (he : ∀ r made gone, c.effect bound l.memory r made gone → made = new r ∧ gone = [])
    (hf : ∀ r l', Holds phase true (new r ++ cells) l' → (f r).Sat (rules bound) l' Q) :
    (ffi c >>= f).Sat (rules bound) l Q := by
  apply sat_ffi h hphase hrole ha
  intro r made gone l' heff hch hp hr
  obtain ⟨rfl, rfl⟩ := he r made gone heff
  exact hf r l' ⟨hp, hr, h.owns.made hch⟩

/-- A call that frees one object. -/
theorem sat_frees {x : Handle × Object} (h : Holds phase true (x :: cells) l)
    (hphase : ∀ done, phase ≠ .setup done)
    (hrole : c.role = .plain ∨ c.role = .guarded ∧ phase = .locked) (ha : c.allowed l.memory)
    (he : ∀ r made gone, c.effect bound l.memory r made gone → made = [] ∧ gone = [x.1])
    (hf : ∀ r l', Holds phase true cells l' → (f r).Sat (rules bound) l' Q) :
    (ffi c >>= f).Sat (rules bound) l Q := by
  apply sat_ffi h hphase hrole ha
  intro r made gone l' heff hch hp hr
  obtain ⟨rfl, rfl⟩ := he r made gone heff
  exact hf r l' ⟨hp, hr, h.owns.freed hch⟩

end Shapes

/-- Afterwards the log is set up, whichever thread has done it. -/
theorem sat_initLogger {f : Unit → Ffi α} (h : Holds .free ready cells l)
    (hf : ∀ l', Holds .free true cells l' → (f ()).Sat (rules bound) l' Q) :
    (initLogger >>= f).Sat (rules bound) l Q := by
  refine ⟨h.phase, ?_⟩
  intro first l' he
  cases first with
  | false =>
    obtain rfl := he
    exact hf _ ⟨h.phase, rfl, h.owns⟩
  | true =>
    obtain ⟨_, rfl⟩ := he
    refine ⟨⟨⟨[], rfl⟩, trivial⟩, ?_⟩
    rintro _ _ ⟨m, ⟨_, _, ⟨rfl, rfl⟩, hch⟩, rfl⟩
    have hm := h.owns.unchanged hch
    refine ⟨⟨⟨_, rfl⟩, trivial⟩, ?_⟩
    rintro _ _ ⟨m', ⟨_, _, ⟨rfl, rfl⟩, hch'⟩, rfl⟩
    have hm' := hm.unchanged hch'
    refine ⟨rfl, ?_⟩
    rintro _ _ rfl
    exact hf _ ⟨rfl, rfl, hm'⟩

end Rules

end LibcdioRs
