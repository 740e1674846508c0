import LibcdioRs.Shared.Discriminant
import LibcdioRs.Udf

/-!
# ISO 9660 filesystems

`Iso` and `IsoEntry` down to the calls of libcdio. `read_dir` takes a C list apart:
its nodes are freed, the entries that they lead to are handed over to the caller.
-/

namespace LibcdioRs

open Rust Foreign
set_option autoImplicit false

structure IsoOpenError where
  path : Bytes
  source : OpenErrorSource
  deriving DecidableEq

structure IsoGetEntryError where
  path : String
  source : OpenErrorSource
  deriving DecidableEq

inductive JolietLevel where
  | one
  | two
  | three
  deriving DecidableEq

instance : Discriminants JolietLevel where
  name := "JolietLevel"
  code
    | .one => 1
    | .two => 2
    | .three => 3
  variants := [.one, .two, .three]
  complete e := by cases e <;> decide
  distinct := by decide

namespace Iso

/-- `IsoInvalidEntryError` -/
structure InvalidEntryError where
  name : String
  source : InvalidEntrySource
  deriving DecidableEq

/-- `IsoEntry`: the filesystem that it is of and the pointer that it owns. -/
structure Entry where
  iso : Ptr
  stat : Ptr
  deriving DecidableEq

def new (path : Bytes) : Ffi (Except IsoOpenError Ptr) := do
  initLogger
  match cstringNew path with
  | .error bytes => return .error ⟨bytes, .nulError⟩
  | .ok path =>
    let iso9660Ptr : Option Ptr ← ffi (.iso9660OpenExt path)
    match iso9660Ptr with
    | none => return .error ⟨path, .text "iso9660_open_ext() returned NULL"⟩
    | some ptr => return .ok ptr

def drop (iso : Ptr) : Ffi Unit := do
  ffi (.iso9660Close iso)
  return ()

def getIdentifier (iso : Ptr) (func : IsoIdentifier) : Ffi (Option String) := do
  let id : Bool × Option Ptr ← ffi (.iso9660IfsGetId iso func)
  if id.1 then
    match id.2 with
    | none => return none
    | some identifierPtr =>
      let identifier : Bytes ← ffi (.readString identifierPtr)
      ffi (.freeString identifierPtr)
      return some (fromUtf8Lossy identifier)
  else
    return none

def jolietLevel (iso : Ptr) : Ffi (Option JolietLevel) := do
  let level : UInt8 ← ffi (.isoQuery iso .getJolietLevel)
  if level = 0 then
    return none
  else
    match tryFrom JolietLevel level.toNat with
    | some level => return some level
    | none =>
      .panic (.expect "iso9660_ifs_get_joliet_level() should return a valid joliet level")

/-- `None` is `RockRidgeSearchError`. -/
def haveRockRidge (iso : Ptr) (fileLimit : Option UInt64) : Ffi (Option Bool) := do
  let result : Bool3Way ← ffi (.isoQuery iso (.haveRr (fileLimit.getD (.ofNat (2 ^ 64 - 1)))))
  match result with
  | .yep => return some true
  | .nope => return some false
  | .dunno => return none

/-- The `while` loop of `cdiolist_to_vec`. -/
def listData : Nat → Option Ptr → List (Option Ptr) → Ffi (List (Option Ptr))
  | 0, _, _ => .spin
  | _ + 1, none, list => return list
  | fuel + 1, some cur, list => do
    let data : Option Ptr ← ffi (.cdioListNodeData cur)
    let next : Option Ptr ← ffi (.cdioListNodeNext cur)
    listData fuel next (list ++ [data])

def cdiolistToVec (fuel : Nat) (cdioList : Ptr) : Ffi (List (Option Ptr)) := do
  let cur : Option Ptr ← ffi (.cdioListBegin cdioList)
  let list ← listData fuel cur []
  ffi (.cdioListFree cdioList)
  return list

def readDir (fuel : Nat) (iso : Ptr) (path : String) :
    Ffi (Except IsoGetEntryError (List Entry)) :=
  match cstringNew (toUtf8 path) with
  | .error bytes => do
    let path ← pathString "path was a valid string" bytes
    return .error ⟨path, .nulError⟩
  | .ok cpath => do
    let dirlist : Option Ptr ← ffi (.iso9660IfsReaddir iso cpath)
    match dirlist with
    | none =>
      let path ← pathString "path was a valid string" cpath
      return .error ⟨path, .text "iso9660_ifs_readdir() returned NULL"⟩
    | some dirlist =>
      let dirlist ← cdiolistToVec fuel dirlist
      return .ok (dirlist.filterMap fun entry => entry.map (Entry.mk iso))

def entry (iso : Ptr) (path : String) : Ffi (Except IsoGetEntryError Entry) :=
  match cstringNew (toUtf8 path) with
  | .error bytes => do
    let path ← pathString "path was a valid string" bytes
    return .error ⟨path, .nulError⟩
  | .ok cpath => do
    let stat : Option Ptr ← ffi (.iso9660IfsStat iso cpath)
    match stat with
    | none =>
      let path ← pathString "path was a valid string" cpath
      return .error ⟨path, .text "iso9660_ifs_stat() returned NULL"⟩
    | some stat => return .ok ⟨iso, stat⟩

namespace Entry

def drop (e : Entry) : Ffi Unit := do
  ffi (.iso9660StatFree e.stat)
  return ()

/-- The name in the `iso9660_stat_s` is an array, so that the test for `NULL` never succeeds. -/
def filenameRaw (e : Entry) : Ffi (Except InvalidEntryError String) := do
  let stat : IsoStat ← ffi (.readStat e.stat)
  match fromUtf8 stat.filename with
  | some name => return .ok name
  | none => return .error ⟨"", .utf8Error⟩

/-- `len as usize` of a length that is not negative. -/
def filename (e : Entry) : Ffi (Except InvalidEntryError String) := do
  let stat : IsoStat ← ffi (.readStat e.stat)
  let translatedName := List.replicate (stat.filename.length + 1) 0
  let jolietLevel ← Iso.jolietLevel e.iso
  let level := (jolietLevel.map fun level => UInt8.ofNat (Discriminants.code level)).getD 0
  let translated : Int32 × Bytes ←
    ffi (.iso9660NameTranslateExt stat.filename translatedName level)
  match fromUtf8 ((overwrite translatedName translated.2).take translated.1.toInt.toNat) with
  | some name => return .ok name
  | none => return .error ⟨"", .utf8Error⟩

def totalSize (e : Entry) : Ffi UInt64 := do
  let stat : IsoStat ← ffi (.readStat e.stat)
  return stat.totalSize

def lsn (e : Entry) : Ffi Int32 := do
  let stat : IsoStat ← ffi (.readStat e.stat)
  return stat.lsn

def isDir (e : Entry) : Ffi Bool := do
  let stat : IsoStat ← ffi (.readStat e.stat)
  return stat.isDir

end Entry

end Iso

section Specs
variable {bound : Nat} {cells : Cells} {l : Known} {p : Ptr}

def isoCell (p : Ptr) : Handle × Object := (.iso p, .iso)

def statCell (e : Iso.Entry) : Handle × Object := (.stat e.stat, .stat)

theorem isoNew_sat {path : Bytes} (h : Idle cells l) :
    (Iso.new path).Sat (rules bound) l fun r l' =>
      Reports path (0 ∈ path) IsoOpenError.path (fun e => e.source = .nulError) r ∧
        Idle (r.toOption.toList.map isoCell ++ cells) l' := by
  obtain ⟨ready, hl, _⟩ := h
  apply sat_initLogger hl
  intro l₁ h₁
  cases hpath : cstringNew path with
  | error bytes =>
    obtain ⟨rfl, hnul⟩ := cstringNew_error hpath
    exact ⟨⟨rfl, iff_of_true rfl hnul⟩, h₁.idle⟩
  | ok cpath =>
    obtain ⟨rfl, hcstr⟩ := cstringNew_ok hpath
    refine sat_makes (c := .iso9660OpenExt cpath) h₁ nofun (.inl rfl) hcstr
      (fun r made gone he => he) ?_
    intro r l₂ h₂
    cases r with
    | none => exact ⟨⟨rfl, iff_of_false nofun hcstr⟩, h₂.idle⟩
    | some p => exact ⟨hcstr, h₂.idle⟩

theorem isoDrop_sat (h : Holds .free true (isoCell p :: cells) l) :
    (Iso.drop p).Sat (rules bound) l fun _ l' => Holds .free true cells l' := by
  refine sat_frees h nofun (.inl rfl) (h.eq_some List.mem_cons_self) (fun r made gone he => he) ?_
  intro _ l₁ h₁
  exact h₁

/-- The string of libcdio is freed when it has been copied. -/
theorem getIdentifier_sat {func : IsoIdentifier} (h : Holds .free true cells l)
    (hp : isoCell p ∈ cells) :
    (Iso.getIdentifier p func).Sat (rules bound) l fun _ l' => Holds .free true cells l' := by
  refine sat_makes (c := .iso9660IfsGetId p func) h nofun (.inl rfl) (h.eq_some hp)
    (fun r made gone he => he) ?_
  rintro ⟨success, identifier⟩ l₁ h₁
  cases success with
  | false => exact h₁
  | true =>
    cases identifier with
    | none => exact h₁
    | some q =>
      refine sat_reads (c := .readString q) (P := fun _ => True) h₁ nofun rfl
        (h₁.eq_some List.mem_cons_self) (fun r made gone he => ⟨trivial, he⟩) ?_
      intro bytes _ l₂ h₂
      refine sat_frees h₂ nofun (.inl rfl) (h₂.eq_some List.mem_cons_self)
        (fun r made gone he => he) ?_
      intro _ l₃ h₃
      exact h₃

theorem exists_jolietLevel {level : UInt8} (h : level.toNat ≤ 3) (h0 : level ≠ 0) :
    ∃ j, tryFrom JolietLevel level.toNat = some j := by
  have hpos : level.toNat ≠ 0 := fun h => h0 (UInt8.toNat_inj.mp h)
  have hrange : 1 ≤ level.toNat ∧ level.toNat < 1 + 3 := by omega
  exact (exists_tryFrom_iff rfl level.toNat).mpr hrange

theorem jolietLevel_sat (h : Holds .free true cells l) (hp : isoCell p ∈ cells) :
    (Iso.jolietLevel p).Sat (rules bound) l fun _ l' => Holds .free true cells l' := by
  refine sat_reads (c := .isoQuery p .getJolietLevel) (P := fun r : UInt8 => r.toNat ≤ 3)
    h nofun rfl (h.eq_some hp) (fun r made gone he => he) ?_
  rintro (level : UInt8) hlevel l₁ h₁
  by_cases h0 : level = 0
  · simp only [if_pos h0]
    exact h₁
  · obtain ⟨j, hj⟩ := exists_jolietLevel hlevel h0
    simp only [if_neg h0, hj]
    exact h₁

theorem haveRockRidge_sat {fileLimit : Option UInt64} (h : Holds .free true cells l)
    (hp : isoCell p ∈ cells) :
    (Iso.haveRockRidge p fileLimit).Sat (rules bound) l fun _ l' => Holds .free true cells l' := by
  refine sat_reads (P := fun _ => True) h nofun rfl (h.eq_some hp)
    (fun r made gone he => ⟨trivial, he.2⟩) ?_
  intro result _ l₁ h₁
  cases result with
  | yep => exact h₁
  | nope => exact h₁
  | dunno => exact h₁

theorem seekRead_sat {lsn : Int32} {count : Nat} (h : Holds .free true cells l)
    (hp : isoCell p ∈ cells) :
    (ffi (.isoQuery p (.seekRead lsn count))).Sat (rules bound) l fun _ l' =>
      Holds .free true cells l' := by
  refine sat_reads (P := fun _ => True) h nofun rfl (h.eq_some hp)
    (fun r made gone he => ⟨trivial, he.2⟩) ?_
  intro _ _ l₁ h₁
  exact h₁

/-- The loop gathers what is left of the list, from the node `cur` on. -/
theorem listData_sat {items : List (Ptr × Option Ptr)} :
    ∀ fuel list l, Holds .free true cells l → (∀ x ∈ nodeCells items, x ∈ cells) →
      items.length < fuel →
      (Iso.listData fuel (items.head?.map Prod.fst) list).Sat (rules bound) l fun r l' =>
        r = list ++ items.map Prod.snd ∧ Holds .free true cells l' := by
  induction items with
  | nil =>
    intro fuel list l h _ hfuel
    cases fuel with
    | zero => omega
    | succ fuel => exact ⟨(List.append_nil list).symm, h⟩
  | cons item items ih =>
    intro fuel list l h hnodes hfuel
    cases fuel with
    | zero => omega
    | succ fuel =>
      have hitem : (.node item.1, .node item.2 (items.head?.map Prod.fst)) ∈ cells :=
        hnodes _ List.mem_cons_self
      have hmem := h.eq_some hitem
      refine sat_reads (c := .cdioListNodeData item.1) (P := fun r => r = item.2) h nofun rfl
        (Heap.live_of_eq hmem) (fun r made gone he => ⟨he.1 _ _ hmem, he.2⟩) ?_
      rintro _ rfl l₁ h₁
      have hmem₁ := h₁.eq_some hitem
      refine sat_reads (c := .cdioListNodeNext item.1)
        (P := fun r => r = items.head?.map Prod.fst) h₁ nofun rfl
        (Heap.live_of_eq hmem₁) (fun r made gone he => ⟨he.1 _ _ hmem₁, he.2⟩) ?_
      rintro _ rfl l₂ h₂
      have hrest := ih fuel (list ++ [item.2]) l₂ h₂
        (fun x hx => hnodes x (List.mem_cons_of_mem _ hx)) (Nat.lt_of_succ_lt_succ hfuel)
      rw [List.append_assoc] at hrest
      exact hrest

theorem map_fst_nodeCells (items : List (Ptr × Option Ptr)) :
    (nodeCells items).map Prod.fst = (items.map Prod.fst).map Handle.node := by
  induction items with
  | nil => rfl
  | cons item items ih =>
    rw [nodeCells, List.map_cons, ih]
    rfl

/-- The data pointers in the order of the list. List and nodes are gone, the data stay. -/
theorem cdiolistToVec_sat {items : List (Ptr × Option Ptr)}
    (h : Holds .free true (listCell p items :: nodeCells items ++ cells) l)
    (hlen : items.length < bound) :
    (Iso.cdiolistToVec bound p).Sat (rules bound) l fun r l' =>
      r = items.map Prod.snd ∧ Holds .free true cells l' := by
  have hmem := h.eq_some (List.mem_cons_self (a := listCell p items))
  refine sat_reads (c := .cdioListBegin p) (P := fun r => r = items.head?.map Prod.fst) h nofun rfl
    (Heap.live_of_eq hmem) (fun r made gone he => ⟨he.1 _ _ hmem, he.2⟩) ?_
  rintro _ rfl l₁ h₁
  refine Prog.Sat.bind ?_ (listData_sat bound [] l₁ h₁
    (fun x hx => List.mem_cons_of_mem _ (List.mem_append_left _ hx)) hlen)
  rintro _ l₂ ⟨rfl, h₂⟩
  have hlist := h₂.eq_some (List.mem_cons_self (a := listCell p items))
  have hkeys : ∀ n ∈ items.map Prod.fst, Handle.node n ∈ (nodeCells items).map Prod.fst := by
    intro n hn
    rw [map_fst_nodeCells]
    exact List.mem_map_of_mem hn
  refine sat_ffi (c := .cdioListFree p) h₂ nofun (.inl rfl) ⟨_, _, hlist, ?_⟩ ?_
  · intro n hn
    obtain ⟨x, hx, hxn⟩ := List.mem_map.mp (hkeys n hn)
    rw [← hxn]
    exact h₂.owns.live (h := x.1) (v := x.2) (List.mem_cons_of_mem _ (List.mem_append_left _ hx))
  · intro r made gone l₃ he hch hp hr
    obtain ⟨rfl, hgone⟩ := he
    have hold : gone = (listCell p items :: nodeCells items).map Prod.fst := by
      rw [hgone _ _ hlist, List.map_cons, map_fst_nodeCells]
      rfl
    rw [hold] at hch
    exact ⟨rfl, hp, hr, h₂.owns.change (listCell p items :: nodeCells items) hch⟩

theorem statCells_eq (items : List (Ptr × Option Ptr)) :
    ((items.map Prod.snd).filterMap fun entry => entry.map (Iso.Entry.mk p)).map statCell =
      statCells items := by
  rw [List.map_filterMap, List.filterMap_map, statCells, List.map_filterMap]
  congr 1
  funext item
  rcases item with ⟨node, data⟩
  cases data with
  | none => rfl
  | some stat => rfl

theorem ifsReaddir_sat {path : Bytes} (h : Holds .free true cells l) (hp : isoCell p ∈ cells)
    (hpath : LibCall.CStr path) :
    (ffi (.iso9660IfsReaddir p path)).Sat (rules bound) l fun (r : Option Ptr) l' =>
      match r with
      | none => Holds .free true cells l'
      | some list => ∃ items, items.length < bound ∧
          Holds .free true
            (listCell list items :: nodeCells items ++ (statCells items ++ cells)) l' := by
  refine sat_ffi (f := fun r => .ret r) h nofun (.inl rfl) ⟨h.eq_some hp, hpath⟩ ?_
  intro r made gone l' he hch hphase hready
  cases r with
  | none =>
    obtain ⟨rfl, rfl⟩ := he
    exact ⟨hphase, hready, h.owns.unchanged hch⟩
  | some list =>
    obtain ⟨items, hlen, rfl, rfl⟩ := he
    refine ⟨items, hlen, hphase, hready, ?_⟩
    have howns := h.owns.made hch
    rw [List.append_assoc] at howns
    exact howns

/-- Each entry of the directory is owned by one entry of the result. -/
theorem readDir_sat {path : String} (h : Holds .free true cells l) (hp : isoCell p ∈ cells) :
    (Iso.readDir bound p path).Sat (rules bound) l fun r l' =>
      Reports path (0 ∈ toUtf8 path) IsoGetEntryError.path (fun e => e.source = .nulError) r ∧
        (∀ es, r = .ok es → ∀ e ∈ es, e.iso = p) ∧
        Holds .free true ((r.toOption.getD []).map statCell ++ cells) l' := by
  unfold Iso.readDir
  cases hpath : cstringNew (toUtf8 path) with
  | error bytes =>
    obtain ⟨hbytes, hnul⟩ := cstringNew_error hpath
    simp only [pathString_ret hbytes, Prog.ret_bind]
    exact ⟨⟨rfl, iff_of_true rfl hnul⟩, nofun, h⟩
  | ok cpath =>
    obtain ⟨hcpath, hcstr⟩ := cstringNew_ok hpath
    have hnul : 0 ∉ toUtf8 path := hcpath ▸ hcstr
    refine Prog.Sat.bind ?_ (ifsReaddir_sat h hp hcstr)
    intro r l₁ h₁
    cases r with
    | none =>
      simp only [pathString_ret hcpath, Prog.ret_bind]
      exact ⟨⟨rfl, iff_of_false nofun hnul⟩, nofun, h₁⟩
    | some list =>
      obtain ⟨items, hlen, h₁⟩ := h₁
      refine Prog.Sat.bind ?_ (cdiolistToVec_sat h₁ hlen)
      rintro _ l₂ ⟨rfl, h₂⟩
      refine ⟨hnul, ?_, ?_⟩
      · rintro _ ⟨⟩ e hmem
        obtain ⟨entry, _, hentry⟩ := List.mem_filterMap.mp hmem
        obtain ⟨stat, _, rfl⟩ := Option.map_eq_some_iff.mp hentry
        rfl
      · rw [← statCells_eq (p := p)] at h₂
        exact h₂

theorem isoEntry_sat {path : String} (h : Holds .free true cells l) (hp : isoCell p ∈ cells) :
    (Iso.entry p path).Sat (rules bound) l fun r l' =>
      Reports path (0 ∈ toUtf8 path) IsoGetEntryError.path (fun e => e.source = .nulError) r ∧
        (∀ e, r = .ok e → e.iso = p) ∧
        Holds .free true (r.toOption.toList.map statCell ++ cells) l' := by
  unfold Iso.entry
  cases hpath : cstringNew (toUtf8 path) with
  | error bytes =>
    obtain ⟨hbytes, hnul⟩ := cstringNew_error hpath
    simp only [pathString_ret hbytes, Prog.ret_bind]
    exact ⟨⟨rfl, iff_of_true rfl hnul⟩, nofun, h⟩
  | ok cpath =>
    obtain ⟨hcpath, hcstr⟩ := cstringNew_ok hpath
    have hnul : 0 ∉ toUtf8 path := hcpath ▸ hcstr
    refine sat_makes (c := .iso9660IfsStat p cpath) h nofun (.inl rfl) ⟨h.eq_some hp, hcstr⟩
      (fun r made gone he => he) ?_
    intro r l₁ h₁
    cases r with
    | none =>
      simp only [pathString_ret hcpath, Prog.ret_bind]
      exact ⟨⟨rfl, iff_of_false nofun hnul⟩, nofun, h₁⟩
    | some stat =>
      refine ⟨hnul, ?_, h₁⟩
      rintro _ ⟨⟩
      rfl

theorem statDrop_sat {e : Iso.Entry} (h : Holds .free true (statCell e :: cells) l) :
    e.drop.Sat (rules bound) l fun _ l' => Holds .free true cells l' := by
  refine sat_frees h nofun (.inl rfl) (h.eq_some List.mem_cons_self) (fun r made gone he => he) ?_
  intro _ l₁ h₁
  exact h₁

section Entry
variable {e : Iso.Entry}

theorem readStat_sat {α : Type} {f : IsoStat → Ffi α} {Q : α → Known → Prop}
    (h : Holds .free true cells l) (he : statCell e ∈ cells)
    (hf : ∀ stat l', Holds .free true cells l' → (f stat).Sat (rules bound) l' Q) :
    (ffi (.readStat e.stat) >>= f).Sat (rules bound) l Q := by
  refine sat_reads (c := .readStat e.stat) (P := fun _ => True) h nofun rfl (h.eq_some he)
    (fun r made gone he => ⟨trivial, he⟩) ?_
  intro stat _ l₁ h₁
  exact hf stat l₁ h₁

theorem filenameRaw_sat (h : Holds .free true cells l) (he : statCell e ∈ cells) :
    e.filenameRaw.Sat (rules bound) l fun _ l' => Holds .free true cells l' := by
  apply readStat_sat h he
  intro stat l₁ h₁
  cases fromUtf8 stat.filename with
  | none => exact h₁
  | some name => exact h₁

/-- The buffer has room for the translated name. -/
theorem isoFilename_sat (h : Holds .free true cells l) (he : statCell e ∈ cells)
    (hp : isoCell e.iso ∈ cells) :
    e.filename.Sat (rules bound) l fun _ l' => Holds .free true cells l' := by
  apply readStat_sat h he
  intro stat l₁ h₁
  refine Prog.Sat.bind ?_ (jolietLevel_sat h₁ hp)
  intro level l₂ h₂
  have hroom : stat.filename.length <
      (List.replicate (stat.filename.length + 1) (0 : UInt8)).length := by
    rw [List.length_replicate]
    omega
  refine sat_reads (P := fun _ => True) h₂ nofun rfl hroom
    (fun r made gone he => ⟨trivial, he.2.2⟩) ?_
  intro translated _ l₃ h₃
  split
  · exact h₃
  · exact h₃

end Entry

end Specs

end LibcdioRs
