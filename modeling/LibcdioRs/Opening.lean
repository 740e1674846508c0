import LibcdioRs.Computer
import LibcdioRs.Mmc.Identifiers

/-!
# Opening devices, filesystems and entries

All functions that are given a path and open something, on every libcdio that keeps
the contract: they return, and after an error the caller has what it had before.
-/

namespace LibcdioRs

open Rust Foreign
set_option autoImplicit false

variable {ε α : Type} {bound : Nat} {cells : Cells}

/-- Run by a caller that has `cells`, on any libcdio, `x` makes allowed calls only and returns. The
caller then has the objects `new` as well. -/
def Opens (bound : Nat) (cells : Cells) (x : Ffi (Except ε α)) (reports : Except ε α → Prop)
    (new : α → Cells) : Prop :=
  ∀ {σ : Type} (L : Libcdio σ) (s : σ), L.Keeps (rules bound) → Idle cells (L.view s) →
    x.Proper L (rules bound) s ∧ ∃ r s', x.run L s = .ret (r, s') ∧ reports r ∧
      Idle ((r.toOption.map new).getD [] ++ cells) (L.view s')

theorem opens_of_sat {x : Ffi (Except ε α)} {reports : Except ε α → Prop} {new : α → Cells}
    (h : ∀ l, Idle cells l → x.Sat (rules bound) l fun r l' =>
      reports r ∧ Idle ((r.toOption.map new).getD [] ++ cells) l') :
    Opens bound cells x reports new := by
  intro σ L s hL hs
  exact Prog.run_of_sat hL (h _ hs)

theorem toList_map_eq (o : Option α) (cell : α → Handle × Object) :
    (o.map fun a => [cell a]).getD [] = o.toList.map cell := by
  cases o with
  | none => rfl
  | some a => rfl

/-- An error names the path that was given, and it is about a NUL byte if and only if the path has
one; `Udf::entry` on a filesystem without a root names the root instead. In case of an error
nothing is left open. -/
theorem openings_report (codes : ReturnCodes) (bound : Nat) (cells : Cells) :
    (∀ path, Opens bound cells (MmcDevice.withDevice codes path)
      (Reports path (0 ∈ path) WithDeviceError.device fun e => e.source = .deviceHasNullChar)
      fun p => [cdioCell p]) ∧
    (∀ path, Opens bound cells (Drive.withDrive path)
      (Reports path (0 ∈ path) DriveOpenError.path fun e => e.source = .nulError)
      fun p => [cdioCell p]) ∧
    (∀ path, Opens bound cells (Udf.new path)
      (Reports path (0 ∈ path) UdfOpenError.path fun e => e.source = some .nulError)
      fun u => [udfCell u]) ∧
    (∀ path, Opens bound cells (Iso.new path)
      (Reports path (0 ∈ path) IsoOpenError.path fun e => e.source = .nulError)
      fun p => [isoCell p]) ∧
    (∀ u path, udfCell u ∈ cells → Opens bound cells (Udf.entry u path)
      (fun r => Reports path (0 ∈ toUtf8 path) UdfGetEntryError.path
        (fun e => e.source = .nulError) r ∨
          r = .error ⟨"/", .text "udf_get_root() returned NULL"⟩)
      fun e => [direntCell u e]) ∧
    (∀ p path, isoCell p ∈ cells → Opens bound cells (Iso.entry p path)
      (Reports path (0 ∈ toUtf8 path) IsoGetEntryError.path fun e => e.source = .nulError)
      fun e => [statCell e]) ∧
    ∀ p path, isoCell p ∈ cells → Opens bound cells (Iso.readDir bound p path)
      (Reports path (0 ∈ toUtf8 path) IsoGetEntryError.path fun e => e.source = .nulError)
      fun es => es.map statCell := by
  have hne : ∀ {x}, x ∈ cells → cells ≠ [] := fun hx => List.ne_nil_of_mem hx
  refine ⟨?_, ?_, ?_, ?_, ?_, ?_, ?_⟩
  · intro path
    apply opens_of_sat
    intro l h
    simp only [toList_map_eq]
    exact mmcWithDevice_sat h
  · intro path
    apply opens_of_sat
    intro l h
    simp only [toList_map_eq]
    exact withDrive_sat h
  · intro path
    apply opens_of_sat
    intro l h
    simp only [toList_map_eq]
    exact udfNew_sat h
  · intro path
    apply opens_of_sat
    intro l h
    simp only [toList_map_eq]
    exact isoNew_sat h
  · intro u path hu
    apply opens_of_sat
    intro l h
    simp only [toList_map_eq]
    exact (entry_sat (h.holds (hne hu)) hu).mono fun _ _ h' => ⟨h'.1, h'.2.idle⟩
  · intro p path hp
    apply opens_of_sat
    intro l h
    simp only [toList_map_eq]
    exact (isoEntry_sat (h.holds (hne hp)) hp).mono fun _ _ h' => ⟨h'.1, h'.2.2.idle⟩
  · intro p path hp
    apply opens_of_sat
    intro l h
    refine (readDir_sat (h.holds (hne hp)) hp).mono ?_
    rintro r l' ⟨hreports, _, h'⟩
    refine ⟨hreports, ?_⟩
    cases r with
    | error e => exact h'.idle
    | ok es => exact h'.idle

/-- A directory with one entry, and an image that is already open. -/
theorem openings_report_computer :
    (∃ s', (Iso.readDir 3 0 "/").run (computer noMedia) (Computer.start [isoCell 0]) =
        .ret (.ok [⟨0, 1⟩], s') ∧
      Idle [(.stat 1, .stat), isoCell 0] ((computer noMedia).view s')) ∧
    ∃ s', (Iso.new [0x2E]).run (computer noMedia) (Computer.start [isoCell 0]) =
        .ret (.error ⟨[0x2E], .text "iso9660_open_ext() returned NULL"⟩, s') ∧
      Idle [isoCell 0] ((computer noMedia).view s') := by
  have hkeeps := Computer.keeps noMedia noMedia_fits
  have hstart : Idle [isoCell 0] ((computer noMedia).view (Computer.start [isoCell 0])) :=
    (Computer.holds_start noMedia [isoCell 0] (List.nodup_singleton _)).idle
  obtain ⟨-, -, -, hnew, -, -, hdir⟩ := openings_report ⟨-2, -4, -5⟩ 3 [isoCell 0]
  constructor
  · obtain ⟨_, r, s', hrun, _, hidle⟩ :=
      hdir 0 "/" List.mem_cons_self (computer noMedia) _ hkeeps hstart
    have heval : (Iso.readDir 3 0 "/").run (computer noMedia) (Computer.start [isoCell 0]) =
        .ret (.ok [⟨0, 1⟩], _) := rfl
    rw [heval] at hrun
    cases hrun
    exact ⟨_, rfl, hidle⟩
  · obtain ⟨_, r, s', hrun, _, hidle⟩ := hnew [0x2E] (computer noMedia) _ hkeeps hstart
    have heval : (Iso.new [0x2E]).run (computer noMedia) (Computer.start [isoCell 0]) =
        .ret (.error ⟨[0x2E], .text "iso9660_open_ext() returned NULL"⟩, _) := rfl
    rw [heval] at hrun
    cases hrun
    exact ⟨_, rfl, hidle⟩

section Lists
variable {σ : Type} {L : Libcdio σ} {s : σ}

/-- The devices of a list that libcdio has returned. -/
def listed (L : Libcdio σ) : Option Ptr × σ → List Bytes
  | (none, _) => []
  | (some list, t) =>
    match (L.view t).memory (.deviceList list) with
    | some (.deviceList devices) => devices
    | _ => []

/-- The devices of the list that libcdio makes in the state `t`. -/
def listedDevices (L : Libcdio σ) (t : σ) : List Bytes :=
  listed L (L.reply (.foreign .cdioGetDevices) t)

/-- `drives` returns what libcdio lists when the lock is taken, all of it and in this order, and
the list is gone. -/
theorem drives_run (hL : L.Keeps (rules bound)) (hs : Idle cells (L.view s)) :
    ∃ t s', (do initLogger; lockInit : Ffi Unit).run L s = .ret ((), t) ∧
      Holds .locked true cells (L.view t) ∧
      (Drive.drives bound).run L s = .ret (listedDevices L t, s') ∧ Idle cells (L.view s') := by
  obtain ⟨_, _, t, henter, ht⟩ := Prog.run_of_sat hL (enterDrives_sat hs)
  obtain ⟨_, r, t', hget, ht'⟩ := Prog.run_of_sat hL (getDevices_sat ht)
  have hreply : L.reply (.foreign .cdioGetDevices) t = (r, t') := Exec.ret.inj hget
  have hrest : (Drive.drives bound).run L s = (Drive.takeDevices bound r).run L t' := by
    rw [Drive.drives_eq, Prog.run_bind, henter]
    exact congrArg (fun r : Option Ptr × σ => (Drive.takeDevices bound r.1).run L r.2) hreply
  have hlisted : listedDevices L t = listed L (r, t') := congrArg (listed L) hreply
  cases r with
  | none =>
    obtain ⟨_, ds, s', hrun, rfl, hidle⟩ := Prog.run_of_sat hL (takeDevices_none_sat ht')
    refine ⟨t, s', henter, ht, ?_, hidle⟩
    rw [hrest, hrun, hlisted]
    rfl
  | some list =>
    obtain ⟨devices, hlen, ht'⟩ := ht'
    obtain ⟨_, ds, s', hrun, rfl, hidle⟩ := Prog.run_of_sat hL (takeDevices_sat ht' hlen)
    have hmem := ht'.eq_some List.mem_cons_self
    refine ⟨t, s', henter, ht, ?_, hidle⟩
    rw [hrest, hrun, hlisted, listed, hmem]

/-- Two drives, on the first call into the library. -/
theorem drives_run_computer :
    let media : Media := { noMedia with devices := [[0x61], [0x62]] }
    let first : Computer.State := { Computer.start [] with ready := false }
    ∃ t s', (do initLogger; lockInit : Ffi Unit).run (computer media) first = .ret ((), t) ∧
      listedDevices (computer media) t = [[0x61], [0x62]] ∧
      (Drive.drives 3).run (computer media) first = .ret ([[0x61], [0x62]], s') ∧
      Idle [] ((computer media).view s') := by
  intro media first
  have hkeeps := Computer.keeps media (show media.Fits 3 by decide)
  have hfirst : Idle [] ((computer media).view first) :=
    ⟨false, ⟨rfl, rfl, .ofCells List.nodup_nil⟩, fun h => absurd rfl h⟩
  obtain ⟨t, s', henter, _, hrun, hidle⟩ := drives_run hkeeps hfirst
  have heval : (Drive.drives 3).run (computer media) first = .ret ([[0x61], [0x62]], _) := rfl
  have hret := heval.symm.trans hrun
  have hlisted : [[0x61], [0x62]] = listedDevices (computer media) t :=
    congrArg Prod.fst (Exec.ret.inj hret)
  rw [← hlisted] at hrun
  exact ⟨t, s', henter, hlisted.symm, hrun, hidle⟩

/-- `read_dir` returns the entries of the list that libcdio makes, all of them and in this order,
without the `NULL`s. The list and its nodes are gone, the entries are the caller's. -/
theorem readDir_run {iso list : Ptr} {path : String} {s₁ : σ} (hL : L.Keeps (rules bound))
    (hs : Holds .free true cells (L.view s)) (hp : isoCell iso ∈ cells) (hnul : 0 ∉ toUtf8 path)
    (hreply : L.reply (.foreign (.iso9660IfsReaddir iso (toUtf8 path))) s =
      ((some list : Option Ptr), s₁)) :
    ∃ items s', Holds .free true (listCell list items :: nodeCells items ++
        (statCells items ++ cells)) (L.view s₁) ∧
      (Iso.readDir bound iso path).run L s =
        .ret (.ok (items.filterMap fun item => item.2.map (Iso.Entry.mk iso)), s') ∧
      Holds .free true (statCells items ++ cells) (L.view s') := by
  obtain ⟨_, r, t, hget, ht⟩ := Prog.run_of_sat hL (ifsReaddir_sat hs hp hnul)
  have hrt : L.reply (.foreign (.iso9660IfsReaddir iso (toUtf8 path))) s = (r, t) :=
    Exec.ret.inj hget
  cases hreply.symm.trans hrt
  obtain ⟨items, hlen, ht⟩ := ht
  obtain ⟨_, data, s', hrun, rfl, hs'⟩ := Prog.run_of_sat hL (cdiolistToVec_sat ht hlen)
  refine ⟨items, s', ht, ?_, hs'⟩
  have hpath : cstringNew (toUtf8 path) = .ok (toUtf8 path) := if_neg hnul
  simp only [Iso.readDir, hpath]
  refine (Prog.run_perform_bind hreply _).trans ?_
  simp only [Prog.run_bind, hrun, Exec.ret_bind, Prog.pure_eq, Prog.run_ret, List.filterMap_map]
  rfl

theorem readDir_run_computer :
    ∃ items s', (Iso.readDir 3 0 "/").run (computer noMedia) (Computer.start [isoCell 0]) =
        .ret (.ok (items.filterMap fun item => item.2.map (Iso.Entry.mk 0)), s') ∧
      Holds .free true (statCells items ++ [isoCell 0]) ((computer noMedia).view s') := by
  have hstart := Computer.holds_start noMedia [isoCell 0] (List.nodup_singleton _)
  have hreply : (computer noMedia).reply (.foreign (.iso9660IfsReaddir 0 (toUtf8 "/")))
      (Computer.start [isoCell 0]) = ((some 0 : Option Ptr), _) := rfl
  obtain ⟨items, s', _, hrun, hs'⟩ := readDir_run (Computer.keeps noMedia noMedia_fits) hstart
    List.mem_cons_self (by decide) hreply
  exact ⟨items, s', hrun, hs'⟩

end Lists

section Accepting
variable {σ : Type} {L : Libcdio σ} {codes : ReturnCodes} {s s₁ : σ} {p : Ptr} {path d : Bytes}

/-- The peripheral device type in INQUIRY data. -/
def deviceType (d : Bytes) : UInt8 := d.getD 0 0 &&& 0b11111

theorem Mmc.isMmcDevice_answer {m : Mmc σ} (hm : m.AnswersWith s d) (hd : d.length = 255) :
    ∃ s', m.isMmcDevice s = .ret (.ok (deviceType d == 0x05), s') := by
  obtain ⟨s', hrun⟩ := inquiry_answer hm hd .standard
  have hindex : index d 0 = .ret (d.getD 0 0) := by
    rw [index_eq (by omega), List.getD_eq_getElem _ _ (by omega)]
  refine ⟨s', ?_⟩
  simp only [isMmcDevice, Act.bind_ok hrun, Inquiry.isCdDvd, hindex]
  rfl

end Accepting

end LibcdioRs
