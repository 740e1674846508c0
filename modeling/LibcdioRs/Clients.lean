import LibcdioRs.Iso9660

/-!
# Programs that use the crate

A client holds values of the crate's types and calls the crate's functions, as its
earlier results suggest. What the borrow checker asks of it is part of the state: a
filesystem is not dropped before its entries. In the end all values are dropped,
the latest first.

Whatever a client does, the code of the crate keeps to the contract of libcdio, and
at the end of the client nothing of libcdio is left.
-/

namespace LibcdioRs

open Rust Foreign
set_option autoImplicit false

/-- A value of one of the types of the crate, with the pointers that it owns. -/
inductive Value where
  | drive (cdio : Ptr)
  | mmc (cdio : Ptr)
  | udf (udf : Ptr)
  | udfEntry (udf : Ptr) (e : UdfDirent)
  | iso (iso : Ptr)
  | isoEntry (e : Iso.Entry)
  deriving DecidableEq

namespace Value

/-- What the value borrows. -/
def parent : Value → Option Value
  | udfEntry u _ => some (udf u)
  | isoEntry e => some (iso e.iso)
  | _ => none

def cell : Value → Handle × Object
  | drive p => cdioCell p
  | mmc p => cdioCell p
  | udf u => udfCell u
  | udfEntry u e => direntCell u e
  | iso p => isoCell p
  | isoEntry e => statCell e

def drop : Value → Ffi Unit
  | drive p => Cdio.drop p
  | mmc p => Cdio.drop p
  | udf u => Udf.drop u
  | udfEntry _ e => e.drop
  | iso p => Iso.drop p
  | isoEntry e => e.drop

end Value

/-- The values of a client, the latest first: each stands before what it borrows. -/
def Borrowing : List Value → Prop
  | [] => True
  | v :: values => (∀ w ∈ v.parent, w ∈ values) ∧ Borrowing values

abbrev cells (values : List Value) : Cells := values.map Value.cell

def dropAll : List Value → Ffi Unit
  | [] => return ()
  | v :: values => do
    v.drop
    dropAll values

/-- A buffer whose length fits a `c_uint`. -/
abbrev Buffer : Type := { buf : Bytes // buf.length < 2 ^ 32 }

/-- The functions of the crate that borrow `self`, or have none. The functions on an entry of a
UDF filesystem know the filesystem by the lifetime of the entry. -/
inductive Method where
  | drives
  | driveNew
  | driveWithDrive (drive : Bytes)
  | driveHardwareIdentifiers (p : Ptr)
  | driveCapabilities (p : Ptr)
  | mmcNew
  | mmcWithDevice (device : Bytes)
  | mmcSenseData (p : Ptr)
  | mmcRunCommand (p : Ptr) (direction : Option MmcDirection) (buf : Buffer) (cdb : Cdb)
  | mmcGetConfiguration (p : Ptr) (buf : Bytes) (start rt count : UInt32)
  | udfNew (path : Bytes)
  | udfRoot (u : Ptr)
  | udfRootFromPartition (u : Ptr) (partition : UInt16)
  | udfEntry (u : Ptr) (path : String)
  | udfOpenDir (u : Ptr) (e : UdfDirent)
  | udfFilename (u : Ptr) (e : UdfDirent)
  | udfModifyTime (u : Ptr) (e : UdfDirent)
  | udfQuery (u : Ptr) (e : UdfDirent) (q : DirentQuery)
  | isoNew (path : Bytes)
  | isoGetIdentifier (p : Ptr) (func : IsoIdentifier)
  | isoJolietLevel (p : Ptr)
  | isoHaveRockRidge (p : Ptr) (fileLimit : Option UInt64)
  | isoSeekRead (p : Ptr) (lsn : Int32) (count : Nat)
  | isoReadDir (p : Ptr) (path : String)
  | isoEntry (p : Ptr) (path : String)
  | isoFilenameRaw (e : Iso.Entry)
  | isoFilename (e : Iso.Entry)
  | isoTotalSize (e : Iso.Entry)
  | isoLsn (e : Iso.Entry)
  | isoIsDir (e : Iso.Entry)

namespace Method

def Result : Method → Type
  | drives => List Bytes
  | driveNew => Option Ptr
  | driveWithDrive _ => Except DriveOpenError Ptr
  | driveHardwareIdentifiers _ => Option Drive.HardwareIdentifiers
  | driveCapabilities _ => Option Drive.DriveCapabilities
  | mmcNew => Option Ptr
  | mmcWithDevice _ => Except WithDeviceError Ptr
  | mmcSenseData _ => Option MmcSenseData
  | mmcRunCommand .. => Except MmcError Bytes
  | mmcGetConfiguration .. => Stored
  | udfNew _ => Except UdfOpenError Ptr
  | udfRoot _ => Except UdfGetEntryError UdfDirent
  | udfRootFromPartition .. => Except UdfGetEntryError UdfDirent
  | udfEntry .. => Except UdfGetEntryError UdfDirent
  | udfOpenDir .. => Option UdfDirent
  | udfFilename .. => Except UdfInvalidEntryError String
  | udfModifyTime .. => Except UdfInvalidEntryError Int
  | udfQuery _ _ q => q.Reply
  | isoNew _ => Except IsoOpenError Ptr
  | isoGetIdentifier .. => Option String
  | isoJolietLevel _ => Option JolietLevel
  | isoHaveRockRidge .. => Option Bool
  | isoSeekRead .. => Int × Bytes
  | isoReadDir .. => Except IsoGetEntryError (List Iso.Entry)
  | isoEntry .. => Except IsoGetEntryError Iso.Entry
  | isoFilenameRaw _ => Except Iso.InvalidEntryError String
  | isoFilename _ => Except Iso.InvalidEntryError String
  | isoTotalSize _ => UInt64
  | isoLsn _ => Int32
  | isoIsDir _ => Bool

/-- The value that is borrowed as `self`. -/
def self : Method → Option Value
  | driveHardwareIdentifiers p => some (.drive p)
  | driveCapabilities p => some (.drive p)
  | mmcSenseData p => some (.mmc p)
  | mmcRunCommand p .. => some (.mmc p)
  | mmcGetConfiguration p .. => some (.mmc p)
  | udfRoot u => some (.udf u)
  | udfRootFromPartition u _ => some (.udf u)
  | udfEntry u _ => some (.udf u)
  | udfOpenDir u e => some (.udfEntry u e)
  | udfFilename u e => some (.udfEntry u e)
  | udfModifyTime u e => some (.udfEntry u e)
  | udfQuery u e _ => some (.udfEntry u e)
  | isoGetIdentifier p _ => some (.iso p)
  | isoJolietLevel p => some (.iso p)
  | isoHaveRockRidge p _ => some (.iso p)
  | isoSeekRead p .. => some (.iso p)
  | isoReadDir p _ => some (.iso p)
  | isoEntry p _ => some (.iso p)
  | isoFilenameRaw e => some (.isoEntry e)
  | isoFilename e => some (.isoEntry e)
  | isoTotalSize e => some (.isoEntry e)
  | isoLsn e => some (.isoEntry e)
  | isoIsDir e => some (.isoEntry e)
  | _ => none

def code (codes : ReturnCodes) (flags : Drive.CapabilityFlags) (fuel : Nat) :
    (m : Method) → Ffi m.Result
  | drives => Drive.drives fuel
  | driveNew => Drive.new
  | driveWithDrive drive => Drive.withDrive drive
  | driveHardwareIdentifiers p => Drive.hardwareIdentifiers p
  | driveCapabilities p => Drive.capabilities flags p
  | mmcNew => MmcDevice.new codes
  | mmcWithDevice device => MmcDevice.withDevice codes device
  | mmcSenseData p => MmcDevice.senseData p
  | mmcRunCommand p direction buf cdb => MmcDevice.runCommand codes p direction buf.val cdb
  | mmcGetConfiguration p buf start rt count => MmcDevice.getConfiguration p buf start rt count
  | udfNew path => Udf.new path
  | udfRoot u => Udf.root u
  | udfRootFromPartition u partition => Udf.rootFromPartition u partition
  | udfEntry u path => Udf.entry u path
  | udfOpenDir _ e => e.openDir
  | udfFilename _ e => e.filename
  | udfModifyTime _ e => e.modifyTime
  | udfQuery _ e q => ffi (.direntQuery e.entry q)
  | isoNew path => Iso.new path
  | isoGetIdentifier p func => Iso.getIdentifier p func
  | isoJolietLevel p => Iso.jolietLevel p
  | isoHaveRockRidge p fileLimit => Iso.haveRockRidge p fileLimit
  | isoSeekRead p lsn count => ffi (.isoQuery p (.seekRead lsn count))
  | isoReadDir p path => Iso.readDir fuel p path
  | isoEntry p path => Iso.entry p path
  | isoFilenameRaw e => e.filenameRaw
  | isoFilename e => e.filename
  | isoTotalSize e => e.totalSize
  | isoLsn e => e.lsn
  | isoIsDir e => e.isDir

/-- The values in the result. -/
def made : (m : Method) → m.Result → List Value
  | driveNew, r => (r : Option Ptr).toList.map .drive
  | driveWithDrive _, r => (r : Except DriveOpenError Ptr).toOption.toList.map .drive
  | mmcNew, r => (r : Option Ptr).toList.map .mmc
  | mmcWithDevice _, r => (r : Except WithDeviceError Ptr).toOption.toList.map .mmc
  | udfNew _, r => (r : Except UdfOpenError Ptr).toOption.toList.map .udf
  | udfRoot u, r => (r : Except UdfGetEntryError UdfDirent).toOption.toList.map (.udfEntry u)
  | udfRootFromPartition u _, r =>
    (r : Except UdfGetEntryError UdfDirent).toOption.toList.map (.udfEntry u)
  | udfEntry u _, r => (r : Except UdfGetEntryError UdfDirent).toOption.toList.map (.udfEntry u)
  | udfOpenDir u _, r => (r : Option UdfDirent).toList.map (.udfEntry u)
  | isoNew _, r => (r : Except IsoOpenError Ptr).toOption.toList.map .iso
  | isoReadDir .., r =>
    ((r : Except IsoGetEntryError (List Iso.Entry)).toOption.getD []).map .isoEntry
  | isoEntry .., r => (r : Except IsoGetEntryError Iso.Entry).toOption.toList.map .isoEntry
  | _, _ => []

end Method

/-- What a client does with the crate: it calls a function, it takes the next entry of a UDF
directory for one that it gives up, it drops a value. -/
inductive ClientOp where
  | method (m : Method)
  | udfNext (u : Ptr) (e : UdfDirent)
  | drop (v : Value)

/-- `None` where the client does not have the value, or somebody borrows it. -/
def ClientOp.Result : ClientOp → Type
  | method m => Option m.Result
  | udfNext .. => Option (Option UdfDirent)
  | drop _ => Option Unit

def Borrowed (values : List Value) (v : Value) : Prop := ∃ w ∈ values, w.parent = some v

instance (values : List Value) (v : Value) : Decidable (Borrowed values v) :=
  inferInstanceAs (Decidable (∃ w ∈ values, w.parent = some v))

def ClientOp.run (codes : ReturnCodes) (flags : Drive.CapabilityFlags) (fuel : Nat) :
    (op : ClientOp) → List Value → Ffi (op.Result × List Value)
  | method m, values =>
    if ∀ v ∈ m.self, v ∈ values then do
      let r ← m.code codes flags fuel
      return (some r, m.made r ++ values)
    else return (none, values)
  | udfNext u e, values =>
    if .udfEntry u e ∈ values then do
      let r ← e.next
      return (some r, r.toList.map (.udfEntry u) ++ values.erase (.udfEntry u e))
    else return (none, values)
  | drop v, values =>
    if v ∈ values ∧ ¬ Borrowed values v then do
      v.drop
      return (some (), values.erase v)
    else return (none, values)

abbrev Client (α : Type) : Type := Prog ClientOp ClientOp.Result α

def Client.main {α : Type} (codes : ReturnCodes) (flags : Drive.CapabilityFlags) (fuel : Nat)
    (client : Client α) : Ffi α := do
  let r ← client.handle (ClientOp.run codes flags fuel) []
  dropAll r.2
  return r.1

section Borrows
variable {values new : List Value} {v w : Value}

theorem Borrowing.parent_mem (h : Borrowing values) (hv : v ∈ values) (hw : w ∈ v.parent) :
    w ∈ values := by
  induction values with
  | nil => exact absurd hv List.not_mem_nil
  | cons u values ih =>
    rcases List.mem_cons.mp hv with rfl | hv
    · exact List.mem_cons_of_mem _ (h.1 w hw)
    · exact List.mem_cons_of_mem _ (ih h.2 hv)

theorem Borrowing.append (h : Borrowing values)
    (hnew : ∀ v ∈ new, ∀ w ∈ v.parent, w ∈ values) : Borrowing (new ++ values) := by
  induction new with
  | nil => exact h
  | cons v new ih =>
    refine ⟨?_, ih fun u hu => hnew u (List.mem_cons_of_mem _ hu)⟩
    intro w hw
    exact List.mem_append_right new (hnew v List.mem_cons_self w hw)

theorem Borrowing.erase (h : Borrowing values) (hv : ¬ Borrowed values v) :
    Borrowing (values.erase v) := by
  induction values with
  | nil => exact h
  | cons u values ih =>
    have hrest : ¬ Borrowed values v := by
      rintro ⟨w, hw, hparent⟩
      exact hv ⟨w, List.mem_cons_of_mem _ hw, hparent⟩
    by_cases hu : u = v
    · subst hu
      rw [List.erase_cons_head]
      exact h.2
    · rw [List.erase_cons_tail (by simpa using hu)]
      refine ⟨?_, ih h.2 hrest⟩
      intro w hw
      have hne : w ≠ v := by
        rintro rfl
        exact hv ⟨u, List.mem_cons_self, hw⟩
      exact (List.mem_erase_of_ne hne).mpr (h.1 w hw)

theorem not_borrowed_udfEntry {u : Ptr} {e : UdfDirent} : ¬ Borrowed values (.udfEntry u e) := by
  rintro ⟨w, _, hw⟩
  cases w <;> cases hw

theorem perm_erase (hv : v ∈ values) : (cells values).Perm (v.cell :: cells (values.erase v)) :=
  (List.perm_cons_erase hv).map Value.cell

theorem cell_mem (hv : v ∈ values) : v.cell ∈ cells values := List.mem_map_of_mem hv

theorem cells_made {α : Type} (f : α → Value) (as : List α) :
    cells (as.map f ++ values) = (as.map fun a => (f a).cell) ++ cells values := by
  rw [cells, List.map_append, List.map_map]
  rfl

end Borrows

section Specs
variable {codes : ReturnCodes} {flags : Drive.CapabilityFlags} {bound : Nat}
variable {values : List Value} {l : Known}

theorem Value.drop_sat {v : Value} {rest : Cells} (h : Holds .free true (v.cell :: rest) l)
    (hparent : ∀ w ∈ v.parent, w.cell ∈ rest) :
    v.drop.Sat (rules bound) l fun _ l' => Holds .free true rest l' := by
  cases v with
  | drive p => exact LibcdioRs.drop_sat h
  | mmc p => exact LibcdioRs.drop_sat h
  | udf u => exact udfDrop_sat h
  | udfEntry u e => exact direntDrop_sat h (hparent _ rfl) fun l' h' => h'
  | iso p => exact isoDrop_sat h
  | isoEntry e => exact statDrop_sat h

/-- What a function of the crate has to keep to. -/
def Method.Meets (codes : ReturnCodes) (flags : Drive.CapabilityFlags) (bound : Nat)
    (values : List Value) (l : Known) (m : Method) : Prop :=
  (m.code codes flags bound).Sat (rules bound) l fun r l' =>
    (∀ v ∈ m.made r, ∀ w ∈ v.parent, w ∈ values) ∧ Idle (cells (m.made r ++ values)) l'

/-- A function that makes values without a parent. -/
theorem meets_root {m : Method} {α : Type} {f : α → Value} {as : m.Result → List α}
    (hmade : ∀ r, m.made r = (as r).map f) (hf : ∀ a, (f a).parent = none)
    (h : (m.code codes flags bound).Sat (rules bound) l fun r l' =>
      Idle (((as r).map fun a => (f a).cell) ++ cells values) l') :
    m.Meets codes flags bound values l := by
  apply h.mono
  intro r l' h'
  rw [hmade, cells_made]
  refine ⟨?_, h'⟩
  intro v hv w hw
  obtain ⟨a, _, rfl⟩ := List.mem_map.mp hv
  rw [hf] at hw
  cases hw

/-- A function that makes entries of one filesystem. -/
theorem meets_child {m : Method} {α : Type} {f : α → Value} {as : m.Result → List α} {w : Value}
    (hmade : ∀ r, m.made r = (as r).map f) (hw : w ∈ values)
    (h : (m.code codes flags bound).Sat (rules bound) l fun r l' =>
      (∀ a ∈ as r, (f a).parent = some w) ∧
        Holds .free true (((as r).map fun a => (f a).cell) ++ cells values) l') :
    m.Meets codes flags bound values l := by
  apply h.mono
  intro r l' h'
  rw [hmade, cells_made]
  refine ⟨?_, h'.2.idle⟩
  intro v hv w' hw'
  obtain ⟨a, ha, rfl⟩ := List.mem_map.mp hv
  rw [h'.1 a ha] at hw'
  cases hw'
  exact hw

/-- A function that makes no values. -/
theorem meets_query {m : Method} (hmade : ∀ r, m.made r = [])
    (h : (m.code codes flags bound).Sat (rules bound) l fun _ l' =>
      Holds .free true (cells values) l') : m.Meets codes flags bound values l := by
  apply h.mono
  intro r l' h'
  rw [hmade]
  exact ⟨nofun, h'.idle⟩

theorem Method.meets (m : Method) (hb : Borrowing values) (h : Idle (cells values) l)
    (hself : ∀ v ∈ m.self, v ∈ values) : m.Meets codes flags bound values l := by
  have hlive : ∀ v ∈ m.self, v.cell ∈ cells values ∧ Holds .free true (cells values) l := by
    intro v hv
    have hmem := cell_mem (hself v hv)
    exact ⟨hmem, h.holds (List.ne_nil_of_mem hmem)⟩
  -- The filesystem of an entry that is borrowed as `self`.
  have hudf : ∀ u e, m.self = some (.udfEntry u e) → .udf u ∈ values :=
    fun u e hm => hb.parent_mem (hself _ hm) rfl
  have hiso : ∀ e, m.self = some (.isoEntry e) → .iso e.iso ∈ values :=
    fun e hm => hb.parent_mem (hself _ hm) rfl
  cases m with
  | drives => exact (drives_sat h).mono fun _ _ h' => ⟨nofun, h'⟩
  | driveNew => exact meets_root (fun _ => rfl) (fun _ => rfl) (driveNew_sat h)
  | driveWithDrive drive =>
    exact meets_root (fun _ => rfl) (fun _ => rfl) ((withDrive_sat h).mono fun _ _ h' => h'.2)
  | driveHardwareIdentifiers p =>
    obtain ⟨hp, hl⟩ := hlive _ rfl
    exact meets_query (fun _ => rfl) (hardwareIdentifiers_sat hl hp)
  | driveCapabilities p =>
    obtain ⟨hp, hl⟩ := hlive _ rfl
    exact meets_query (fun _ => rfl) (capabilities_sat hl hp)
  | mmcNew => exact meets_root (fun _ => rfl) (fun _ => rfl) (mmcNew_sat h)
  | mmcWithDevice device =>
    exact meets_root (fun _ => rfl) (fun _ => rfl) ((mmcWithDevice_sat h).mono fun _ _ h' => h'.2)
  | mmcSenseData p =>
    obtain ⟨hp, hl⟩ := hlive _ rfl
    exact meets_query (fun _ => rfl) (senseData_sat hl hp)
  | mmcRunCommand p direction buf cdb =>
    obtain ⟨hp, hl⟩ := hlive _ rfl
    exact meets_query (fun _ => rfl) ((runCommand_holds hl hp buf.property).mono fun _ _ h' => h'.2)
  | mmcGetConfiguration p buf start rt count =>
    obtain ⟨hp, hl⟩ := hlive _ rfl
    exact meets_query (fun _ => rfl) (cdioQuery_sat hl hp)
  | udfNew path =>
    exact meets_root (fun _ => rfl) (fun _ => rfl) ((udfNew_sat h).mono fun _ _ h' => h'.2)
  | udfRoot u =>
    obtain ⟨hu, hl⟩ := hlive _ rfl
    exact meets_child (fun _ => rfl) (hself _ rfl)
      ((getRoot_sat hl hu).mono fun _ _ h' => ⟨fun _ _ => rfl, h'.2⟩)
  | udfRootFromPartition u partition =>
    obtain ⟨hu, hl⟩ := hlive _ rfl
    exact meets_child (fun _ => rfl) (hself _ rfl)
      ((getRoot_sat hl hu).mono fun _ _ h' => ⟨fun _ _ => rfl, h'.2⟩)
  | udfEntry u path =>
    obtain ⟨hu, hl⟩ := hlive _ rfl
    exact meets_child (fun _ => rfl) (hself _ rfl)
      ((entry_sat hl hu).mono fun _ _ h' => ⟨fun _ _ => rfl, h'.2⟩)
  | udfOpenDir u e =>
    obtain ⟨he, hl⟩ := hlive _ rfl
    have hu := hudf u e rfl
    exact meets_child (fun _ => rfl) hu
      ((openDir_sat hl (cell_mem hu) he).mono fun _ _ h' => ⟨fun _ _ => rfl, h'⟩)
  | udfFilename u e =>
    obtain ⟨he, hl⟩ := hlive _ rfl
    exact meets_query (fun _ => rfl) (filename_sat hl (cell_mem (hudf u e rfl)) he)
  | udfModifyTime u e =>
    obtain ⟨he, hl⟩ := hlive _ rfl
    exact meets_query (fun _ => rfl) (modifyTime_sat hl (cell_mem (hudf u e rfl)) he)
  | udfQuery u e q =>
    obtain ⟨he, hl⟩ := hlive _ rfl
    exact meets_query (fun _ => rfl)
      (direntQuery_sat hl (cell_mem (hudf u e rfl)) he fun _ _ h' => h')
  | isoNew path =>
    exact meets_root (fun _ => rfl) (fun _ => rfl) ((isoNew_sat h).mono fun _ _ h' => h'.2)
  | isoGetIdentifier p func =>
    obtain ⟨hp, hl⟩ := hlive _ rfl
    exact meets_query (fun _ => rfl) (getIdentifier_sat hl hp)
  | isoJolietLevel p =>
    obtain ⟨hp, hl⟩ := hlive _ rfl
    exact meets_query (fun _ => rfl) (jolietLevel_sat hl hp)
  | isoHaveRockRidge p fileLimit =>
    obtain ⟨hp, hl⟩ := hlive _ rfl
    exact meets_query (fun _ => rfl) (haveRockRidge_sat hl hp)
  | isoSeekRead p lsn count =>
    obtain ⟨hp, hl⟩ := hlive _ rfl
    exact meets_query (fun _ => rfl) (seekRead_sat hl hp)
  | isoReadDir p path =>
    obtain ⟨hp, hl⟩ := hlive _ rfl
    apply meets_child (fun _ => rfl) (hself _ rfl)
    apply (readDir_sat hl hp).mono
    rintro r l' ⟨_, hiso, h'⟩
    refine ⟨?_, h'⟩
    intro e he
    cases r with
    | error err => exact absurd he List.not_mem_nil
    | ok es => exact congrArg (some ∘ Value.iso) (hiso es rfl e he)
  | isoEntry p path =>
    obtain ⟨hp, hl⟩ := hlive _ rfl
    apply meets_child (fun _ => rfl) (hself _ rfl)
    apply (isoEntry_sat hl hp).mono
    rintro r l' ⟨_, hiso, h'⟩
    refine ⟨?_, h'⟩
    intro e he
    cases r with
    | error err => exact absurd he List.not_mem_nil
    | ok e' =>
      rw [List.mem_singleton.mp he]
      exact congrArg (some ∘ Value.iso) (hiso e' rfl)
  | isoFilenameRaw e =>
    obtain ⟨he, hl⟩ := hlive _ rfl
    exact meets_query (fun _ => rfl) (filenameRaw_sat hl he)
  | isoFilename e =>
    obtain ⟨he, hl⟩ := hlive _ rfl
    exact meets_query (fun _ => rfl) (isoFilename_sat hl he (cell_mem (hiso e rfl)))
  | isoTotalSize e =>
    obtain ⟨he, hl⟩ := hlive _ rfl
    exact meets_query (fun _ => rfl) (readStat_sat hl he fun _ _ h' => h')
  | isoLsn e =>
    obtain ⟨he, hl⟩ := hlive _ rfl
    exact meets_query (fun _ => rfl) (readStat_sat hl he fun _ _ h' => h')
  | isoIsDir e =>
    obtain ⟨he, hl⟩ := hlive _ rfl
    exact meets_query (fun _ => rfl) (readStat_sat hl he fun _ _ h' => h')

/-- The values of a client are all that it has. -/
def Client.Has (values : List Value) (l : Known) : Prop := Borrowing values ∧ Idle (cells values) l

theorem ClientOp.run_sat (op : ClientOp) (h : Client.Has values l) :
    (op.run codes flags bound values).Sat (rules bound) l fun r l' => Client.Has r.2 l' := by
  rcases h with ⟨hb, hidle⟩
  cases op with
  | method m =>
    by_cases hself : ∀ v ∈ m.self, v ∈ values
    · rw [ClientOp.run, if_pos hself]
      refine Prog.Sat.bind ?_ (m.meets hb hidle hself)
      rintro r l' ⟨hparents, h'⟩
      exact ⟨hb.append hparents, h'⟩
    · rw [ClientOp.run, if_neg hself]
      exact ⟨hb, hidle⟩
  | udfNext u e =>
    by_cases hmem : .udfEntry u e ∈ values
    · rw [ClientOp.run, if_pos hmem]
      have hne : Value.udf u ≠ .udfEntry u e := nofun
      have hu := (List.mem_erase_of_ne hne).mpr (hb.parent_mem hmem rfl)
      have hl := (hidle.perm (perm_erase hmem)).holds nofun
      refine Prog.Sat.bind ?_ (next_sat hl (cell_mem hu))
      intro r l' h'
      refine ⟨(hb.erase not_borrowed_udfEntry).append ?_, ?_⟩
      · intro v hv w hw
        obtain ⟨e', _, rfl⟩ := List.mem_map.mp hv
        cases hw
        exact hu
      · rw [cells_made]
        exact h'.idle
    · rw [ClientOp.run, if_neg hmem]
      exact ⟨hb, hidle⟩
  | drop v =>
    by_cases hdrop : v ∈ values ∧ ¬ Borrowed values v
    · rw [ClientOp.run, if_pos hdrop]
      rcases hdrop with ⟨hmem, hnot⟩
      have hl := (hidle.perm (perm_erase hmem)).holds nofun
      have hparent : ∀ w ∈ v.parent, w.cell ∈ cells (values.erase v) := by
        intro w hw
        have hne : w ≠ v := by
          rintro rfl
          cases w <;> cases hw
        exact cell_mem ((List.mem_erase_of_ne hne).mpr (hb.parent_mem hmem hw))
      refine Prog.Sat.bind ?_ (v.drop_sat hl hparent)
      intro _ l' h'
      exact ⟨hb.erase hnot, h'.idle⟩
    · rw [ClientOp.run, if_neg hdrop]
      exact ⟨hb, hidle⟩

theorem dropAll_sat : ∀ (values : List Value) (l : Known), Client.Has values l →
    (dropAll values).Sat (rules bound) l fun _ l' => Idle [] l' := by
  intro values
  induction values with
  | nil => exact fun l h => h.2
  | cons v values ih =>
    rintro l ⟨hb, hidle⟩
    refine Prog.Sat.bind ?_ (v.drop_sat (hidle.holds nofun) fun w hw => cell_mem (hb.1 w hw))
    intro _ l' h'
    exact ih l' ⟨hb.2, h'.idle⟩

/-- Whatever the client does, at its end nothing of libcdio is left. -/
theorem Client.main_sat {α : Type} {client : Client α} (hc : client.Quiet) :
    (client.main codes flags bound).Sat (rules bound) Local.initial fun _ l' => Idle [] l' := by
  have hstart : Client.Has [] Local.initial := ⟨trivial, Idle.initial⟩
  apply Prog.Sat.bind _
    (Prog.Sat.handle (I := Client.Has) (fun op _ _ h => op.run_sat h) hc _ _ hstart)
  intro r l' h'
  exact Prog.Sat.bind (fun _ _ h => h) (dropAll_sat r.2 l' h')

end Specs

end LibcdioRs
