import LibcdioRs.Cdio
import LibcdioRs.Shared.Calendar

/-!
# UDF filesystems

`Udf` and `UdfEntry` down to the calls of libcdio. An entry owns its `udf_dirent_s`;
`next` hands it over to `udf_readdir` instead of dropping it.
-/

namespace LibcdioRs

open Rust Foreign Calendar
set_option autoImplicit false

structure UdfOpenError where
  path : Bytes
  source : Option OpenErrorSource
  deriving DecidableEq

structure UdfGetEntryError where
  path : String
  source : OpenErrorSource
  deriving DecidableEq

inductive InvalidEntrySource where
  | text (text : String)
  | utf8Error
  | componentRange
  deriving DecidableEq

structure UdfInvalidEntryError where
  name : Option String
  source : InvalidEntrySource
  deriving DecidableEq

/-- The string again that a path was made of. -/
def pathString (msg : String) (bytes : Bytes) : Ffi String :=
  match fromUtf8 bytes with
  | some path => return path
  | none => .panic (.expect msg)

/-- `UdfEntry`: the pointer that it owns, and the two fields that `UdfEntry::new` reads. -/
structure UdfDirent where
  entry : Ptr
  gid : UInt32
  uid : UInt32
  deriving DecidableEq

namespace UdfDirent

def new (entry : Ptr) : Ffi UdfDirent := do
  let ids : UInt32 × UInt32 ← ffi (.direntQuery entry .ids)
  return ⟨entry, ids.2, ids.1⟩

def drop (e : UdfDirent) : Ffi Unit := do
  ffi (.udfDirentFree e.entry)
  return ()

/-- `NonNull::new(entry).map(UdfEntry::new)` -/
def ofNullable : Option Ptr → Ffi (Option UdfDirent)
  | none => return none
  | some entry => some <$> new entry

/-- `self` is forgotten, not dropped. -/
def next (e : UdfDirent) : Ffi (Option UdfDirent) := do
  let nextEntry : Option Ptr ← ffi (.udfReaddir e.entry)
  ofNullable nextEntry

def openDir (e : UdfDirent) : Ffi (Option UdfDirent) := do
  let subEntry : Option Ptr ← ffi (.udfOpendir e.entry)
  ofNullable subEntry

def filename (e : UdfDirent) : Ffi (Except UdfInvalidEntryError String) := do
  let filename : Option Bytes ← ffi (.direntQuery e.entry .getFilename)
  match filename with
  | none => return .error ⟨none, .text "udf_get_filename() returned NULL"⟩
  | some filename =>
    if filename = [] then
      return .ok "."
    else
      match fromUtf8 filename with
      | some filename => return .ok filename
      | none => return .error ⟨none, .utf8Error⟩

/-- The timestamps that `OffsetDateTime::from_unix_timestamp` accepts. -/
def TimestampInRange (t : Int) : Prop :=
  daysBeforeYear (-9999) * 86400 ≤ t ∧ t < daysBeforeYear 10000 * 86400

instance (t : Int) : Decidable (TimestampInRange t) := inferInstanceAs (Decidable (_ ∧ _))

/-- The value is the second since 1970 in UTC. -/
def modifyTime (e : UdfDirent) : Ffi (Except UdfInvalidEntryError Int) := do
  let time : Int64 ← ffi (.direntQuery e.entry .getModificationTime)
  if time = -1 then do
    let name ← filename e
    return .error ⟨name.toOption, .text "udf_get_modification_time() returned -1"⟩
  else if TimestampInRange time.toInt then
    return .ok time.toInt
  else do
    let name ← filename e
    return .error ⟨name.toOption, .componentRange⟩

def isDir (e : UdfDirent) : Ffi Bool := ffi (.direntQuery e.entry .isDir)

def fileLength (e : UdfDirent) : Ffi UInt64 := ffi (.direntQuery e.entry .getFileLength)

def mode (e : UdfDirent) : Ffi UInt32 := ffi (.direntQuery e.entry .getPosixFilemode)

def linkCount (e : UdfDirent) : Ffi UInt16 := ffi (.direntQuery e.entry .getLinkCount)

end UdfDirent

namespace Udf

def new (path : Bytes) : Ffi (Except UdfOpenError Ptr) := do
  initLogger
  match cstringNew path with
  | .error bytes => return .error ⟨bytes, some .nulError⟩
  | .ok path =>
    let udf : Option Ptr ← ffi (.udfOpen path)
    match udf with
    | none => return .error ⟨path, none⟩
    | some udf => return .ok udf

def drop (udf : Ptr) : Ffi Unit := do
  ffi (.udfClose udf)
  return ()

def getRoot (udf : Ptr) (anyPartition : Bool) (partition : UInt16) :
    Ffi (Except UdfGetEntryError UdfDirent) := do
  let entry : Option Ptr ← ffi (.udfGetRoot udf anyPartition partition)
  match ← UdfDirent.ofNullable entry with
  | some entry => return .ok entry
  | none => return .error ⟨"/", .text "udf_get_root() returned NULL"⟩

def root (udf : Ptr) : Ffi (Except UdfGetEntryError UdfDirent) := getRoot udf true 0

def rootFromPartition (udf : Ptr) (partition : UInt16) : Ffi (Except UdfGetEntryError UdfDirent) :=
  getRoot udf false partition

def entry (udf : Ptr) (path : String) : Ffi (Except UdfGetEntryError UdfDirent) := do
  match ← root udf with
  | .error e => return .error e
  | .ok root =>
    match cstringNew (toUtf8 path) with
    | .error bytes =>
      let path ← pathString "path was a valid string" bytes
      root.drop
      return .error ⟨path, .nulError⟩
    | .ok cpath =>
      let entry : Option Ptr ← ffi (.udfFopen root.entry cpath)
      match ← UdfDirent.ofNullable entry with
      | some entry =>
        root.drop
        return .ok entry
      | none =>
        let path ← pathString "path was originally a valid string" cpath
        root.drop
        return .error ⟨path, .text "udf_fopen() returned NULL"⟩

end Udf

section Specs
variable {bound : Nat} {cells : Cells} {l : Known} {u : Ptr}

def udfCell (u : Ptr) : Handle × Object := (.udf u, .udf)

def direntCell (u : Ptr) (e : UdfDirent) : Handle × Object := (.dirent e.entry, .dirent u)

theorem liveDirent {phase : Phase LibCall} {ready : Bool} {p : Ptr}
    (h : Holds phase ready cells l) (hu : udfCell u ∈ cells) (hp : (.dirent p, .dirent u) ∈ cells) :
    LibCall.LiveDirent l.memory p := ⟨u, h.eq_some hp, h.eq_some hu⟩

/-- A function on an entry leaves everything as it was. -/
theorem direntQuery_sat {α : Type} {p : Ptr} {q : DirentQuery} {f : q.Reply → Ffi α}
    {Q : α → Known → Prop} (h : Holds .free true cells l) (hu : udfCell u ∈ cells)
    (hp : (.dirent p, .dirent u) ∈ cells)
    (hf : ∀ r l', Holds .free true cells l' → (f r).Sat (rules bound) l' Q) :
    (ffi (.direntQuery p q) >>= f).Sat (rules bound) l Q := by
  refine sat_reads (c := .direntQuery p q) (P := fun _ => True) h nofun rfl (liveDirent h hu hp)
    (fun r made gone he => ⟨trivial, he⟩) ?_
  intro r _ l₁ h₁
  exact hf r l₁ h₁

theorem ofNullable_sat {entry : Option Ptr} (h : Holds .free true
    ((entry.toList.map fun p => (.dirent p, .dirent u)) ++ cells) l) (hu : udfCell u ∈ cells) :
    (UdfDirent.ofNullable entry).Sat (rules bound) l fun r l' =>
      Holds .free true (r.toList.map (direntCell u) ++ cells) l' := by
  cases entry with
  | none => exact h
  | some p =>
    refine direntQuery_sat h (List.mem_cons_of_mem _ hu) List.mem_cons_self ?_
    intro ids l₁ h₁
    exact h₁

/-- The entry gives way to the next one, or to nothing. -/
theorem next_sat {e : UdfDirent} (h : Holds .free true (direntCell u e :: cells) l)
    (hu : udfCell u ∈ cells) :
    e.next.Sat (rules bound) l fun r l' =>
      Holds .free true (r.toList.map (direntCell u) ++ cells) l' := by
  have hmem := h.eq_some List.mem_cons_self
  refine sat_ffi h nofun (.inl rfl)
    (liveDirent h (List.mem_cons_of_mem _ hu) List.mem_cons_self) ?_
  intro r made gone l₁ he hch hp hr
  apply ofNullable_sat _ hu
  rcases he with ⟨rfl, rfl, rfl⟩ | ⟨hmade, rfl⟩
  · exact ⟨hp, hr, h.owns.unchanged hch⟩
  · rw [hmade u hmem] at hch
    exact ⟨hp, hr, h.owns.replaced hch⟩

theorem openDir_sat {e : UdfDirent} (h : Holds .free true cells l) (hu : udfCell u ∈ cells)
    (he : direntCell u e ∈ cells) :
    e.openDir.Sat (rules bound) l fun r l' =>
      Holds .free true (r.toList.map (direntCell u) ++ cells) l' := by
  have hmem := h.eq_some he
  refine sat_makes h nofun (.inl rfl) (liveDirent h hu he)
    (fun r made gone heff => ⟨heff.1 u hmem, heff.2⟩) ?_
  intro r l₁ h₁
  exact ofNullable_sat h₁ hu

theorem direntDrop_sat {α : Type} {e : UdfDirent} {f : Unit → Ffi α} {Q : α → Known → Prop}
    (h : Holds .free true (direntCell u e :: cells) l) (hu : udfCell u ∈ cells)
    (hf : ∀ l', Holds .free true cells l' → (f ()).Sat (rules bound) l' Q) :
    (e.drop >>= f).Sat (rules bound) l Q := by
  refine sat_frees (c := .udfDirentFree e.entry) h nofun (.inl rfl)
    (liveDirent h (List.mem_cons_of_mem _ hu) List.mem_cons_self)
    (fun r made gone he => he) ?_
  intro _ l₁ h₁
  exact hf l₁ h₁

theorem udfNew_sat {path : Bytes} (h : Idle cells l) :
    (Udf.new path).Sat (rules bound) l fun r l' =>
      Reports path (0 ∈ path) UdfOpenError.path (fun e => e.source = some .nulError) r ∧
        Idle (r.toOption.toList.map udfCell ++ cells) l' := by
  obtain ⟨ready, hl, _⟩ := h
  apply sat_initLogger hl
  intro l₁ h₁
  cases hpath : cstringNew path with
  | error bytes =>
    obtain ⟨rfl, hnul⟩ := cstringNew_error hpath
    exact ⟨⟨rfl, iff_of_true rfl hnul⟩, h₁.idle⟩
  | ok cpath =>
    obtain ⟨rfl, hcstr⟩ := cstringNew_ok hpath
    refine sat_makes (c := .udfOpen cpath) h₁ nofun (.inl rfl) hcstr (fun r made gone he => he) ?_
    intro r l₂ h₂
    cases r with
    | none => exact ⟨⟨rfl, iff_of_false nofun hcstr⟩, h₂.idle⟩
    | some p => exact ⟨hcstr, h₂.idle⟩

theorem udfDrop_sat (h : Holds .free true (udfCell u :: cells) l) :
    (Udf.drop u).Sat (rules bound) l fun _ l' => Holds .free true cells l' := by
  refine sat_frees h nofun (.inl rfl) (h.eq_some List.mem_cons_self) (fun r made gone he => he) ?_
  intro _ l₁ h₁
  exact h₁

theorem getRoot_sat {anyPartition : Bool} {partition : UInt16} (h : Holds .free true cells l)
    (hu : udfCell u ∈ cells) :
    (Udf.getRoot u anyPartition partition).Sat (rules bound) l fun r l' =>
      (∀ e, r = .error e → e = ⟨"/", .text "udf_get_root() returned NULL"⟩) ∧
        Holds .free true (r.toOption.toList.map (direntCell u) ++ cells) l' := by
  refine sat_makes (c := .udfGetRoot u anyPartition partition) h nofun (.inl rfl) (h.eq_some hu)
    (fun r made gone he => he) ?_
  intro entry l₁ h₁
  refine Prog.Sat.bind ?_ (ofNullable_sat h₁ hu)
  intro e l₂ h₂
  cases e with
  | none =>
    refine ⟨?_, h₂⟩
    rintro _ ⟨⟩
    rfl
  | some e => exact ⟨nofun, h₂⟩

theorem pathString_ret {msg path : String} {bytes : Bytes} (h : bytes = toUtf8 path) :
    pathString msg bytes = .ret path := by
  rw [pathString, h, fromUtf8_toUtf8]
  rfl

/-- The root that the search starts at is dropped in each case. If there is none, the error names
the root. -/
theorem entry_sat {path : String} (h : Holds .free true cells l) (hu : udfCell u ∈ cells) :
    (Udf.entry u path).Sat (rules bound) l fun r l' =>
      (Reports path (0 ∈ toUtf8 path) UdfGetEntryError.path (fun e => e.source = .nulError) r ∨
        r = .error ⟨"/", .text "udf_get_root() returned NULL"⟩) ∧
        Holds .free true (r.toOption.toList.map (direntCell u) ++ cells) l' := by
  refine Prog.Sat.bind ?_ (getRoot_sat h hu)
  intro root l₁ hroot
  rcases hroot with ⟨herr, h₁⟩
  cases root with
  | error e =>
    rw [herr e rfl]
    exact ⟨.inr rfl, h₁⟩
  | ok root =>
    have hroot : direntCell u root ∈ direntCell u root :: cells := List.mem_cons_self
    cases hpath : cstringNew (toUtf8 path) with
    | error bytes =>
      obtain ⟨hbytes, hnul⟩ := cstringNew_error hpath
      simp only [pathString_ret hbytes, Prog.ret_bind]
      refine direntDrop_sat h₁ hu ?_
      intro l₂ h₂
      exact ⟨.inl ⟨rfl, iff_of_true rfl hnul⟩, h₂⟩
    | ok cpath =>
      obtain ⟨hcpath, hcstr⟩ := cstringNew_ok hpath
      have hnul : 0 ∉ toUtf8 path := hcpath ▸ hcstr
      have hmem := h₁.eq_some hroot
      refine sat_makes (c := .udfFopen root.entry cpath) h₁ nofun (.inl rfl)
        ⟨liveDirent h₁ (List.mem_cons_of_mem _ hu) hroot, hcstr⟩
        (fun r made gone he => ⟨he.1 u hmem, he.2⟩) ?_
      intro entry l₂ h₂
      refine Prog.Sat.bind ?_ (ofNullable_sat h₂ (List.mem_cons_of_mem _ hu))
      intro e l₃ h₃
      cases e with
      | none =>
        simp only [pathString_ret hcpath, Prog.ret_bind]
        refine direntDrop_sat h₃ hu ?_
        intro l₄ h₄
        exact ⟨.inl ⟨rfl, iff_of_false nofun hnul⟩, h₄⟩
      | some e =>
        refine direntDrop_sat (h₃.perm (.swap _ _ _)) (List.mem_cons_of_mem _ hu) ?_
        intro l₄ h₄
        exact ⟨.inl hnul, h₄⟩

theorem filename_sat {e : UdfDirent} (h : Holds .free true cells l) (hu : udfCell u ∈ cells)
    (he : direntCell u e ∈ cells) :
    e.filename.Sat (rules bound) l fun _ l' => Holds .free true cells l' := by
  refine direntQuery_sat h hu he ?_
  intro name l₁ h₁
  cases name with
  | none => exact h₁
  | some name =>
    by_cases hempty : name = []
    · simp only [if_pos hempty]
      exact h₁
    · simp only [if_neg hempty]
      cases fromUtf8 name with
      | none => exact h₁
      | some s => exact h₁

theorem modifyTime_sat {e : UdfDirent} (h : Holds .free true cells l) (hu : udfCell u ∈ cells)
    (he : direntCell u e ∈ cells) :
    e.modifyTime.Sat (rules bound) l fun _ l' => Holds .free true cells l' := by
  refine direntQuery_sat h hu he ?_
  rintro (time : Int64) l₁ h₁
  by_cases hinvalid : time = -1
  · simp only [if_pos hinvalid]
    refine Prog.Sat.bind ?_ (filename_sat h₁ hu he)
    intro name l₂ h₂
    exact h₂
  · simp only [if_neg hinvalid]
    by_cases hrange : UdfDirent.TimestampInRange time.toInt
    · simp only [if_pos hrange]
      exact h₁
    · simp only [if_neg hrange]
      refine Prog.Sat.bind ?_ (filename_sat h₁ hu he)
      intro name l₂ h₂
      exact h₂

end Specs

end LibcdioRs
