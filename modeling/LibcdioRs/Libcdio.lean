import LibcdioRs.Mmc
import LibcdioRs.Shared.ThreadRuns

/-!
# The functions of libcdio and their contract

One call for each libcdio function that the crate uses, and for each read through
a pointer that libcdio returned. The contract is what the `SAFETY` comments of the
crate rely on: which pointers have to be live, who owns what is returned, what
frees it. What the functions compute is left open.
-/

namespace LibcdioRs

open Rust Foreign
set_option autoImplicit false

abbrev Ptr : Type := Nat

inductive Handle where
  | cdio (p : Ptr)
  | deviceList (p : Ptr)
  | sense (p : Ptr)
  | udf (p : Ptr)
  | dirent (p : Ptr)
  | iso (p : Ptr)
  | stat (p : Ptr)
  | list (p : Ptr)
  | node (p : Ptr)
  | string (p : Ptr)
  deriving DecidableEq

/-- What a pointer leads to, as far as the crate depends on it. A `udf_dirent_s` refers to its
`udf_t`; the node of a list holds a data pointer and the next node. -/
inductive Object where
  | cdio
  | deviceList (devices : List Bytes)
  | sense
  | udf
  | dirent (udf : Ptr)
  | iso
  | stat
  | list (first : Option Ptr) (nodes : List Ptr)
  | node (data next : Option Ptr)
  | string

/-- `cdio_hwinfo_t` -/
structure Hwinfo where
  vendor : Bytes
  model : Bytes
  revision : Bytes

/-- The fields of `iso9660_stat_s` that the crate reads. -/
structure IsoStat where
  filename : Bytes
  totalSize : UInt64
  lsn : Int32
  isDir : Bool

/-- `bool_3way_t` -/
inductive Bool3Way where
  | nope
  | yep
  | dunno

/-- Functions on an open `CdIo_t` that leave the caller nothing to free. -/
inductive CdioQuery where
  | getHwinfo
  | getDriveCap
  | runCmd (timeout : UInt32) (cdb : Cdb) (direction : DataDirection) (buf : Bytes)
  | getConfiguration (buf : Bytes) (start rt count : UInt32)

def CdioQuery.Reply : CdioQuery → Type
  | getHwinfo => Option Hwinfo
  | getDriveCap => UInt32 × UInt32 × UInt32
  | runCmd .. => Stored
  | getConfiguration .. => Stored

/-- Functions on a `udf_dirent_s`, and reads of its fields. -/
inductive DirentQuery where
  | ids
  | getFilename
  | getModificationTime
  | isDir
  | getFileLength
  | getPosixFilemode
  | getLinkCount
  | setpos (offset : Int)
  | readBlock (count : Nat)

def DirentQuery.Reply : DirentQuery → Type
  | ids => UInt32 × UInt32
  | getFilename => Option Bytes
  | getModificationTime => Int64
  | isDir => Bool
  | getFileLength => UInt64
  | getPosixFilemode => UInt32
  | getLinkCount => UInt16
  | setpos _ => Int
  | readBlock _ => Int × Bytes

/-- Functions on an `iso9660_t` that leave the caller nothing to free. -/
inductive IsoQuery where
  | getJolietLevel
  | haveRr (fileLimit : UInt64)
  | seekRead (lsn : Int32) (count : Nat)

def IsoQuery.Reply : IsoQuery → Type
  | getJolietLevel => UInt8
  | haveRr _ => Bool3Way
  | seekRead .. => Int × Bytes

/-- The six `iso9660_ifs_get_*_id` functions. -/
inductive IsoIdentifier where
  | application
  | preparer
  | publisher
  | system
  | volume
  | volumeset

inductive LibCall where
  | cdioLogSetHandler
  | cdioLoglevelDefault
  | cdioOpenAm (source : Option Bytes) (accessMode : Option String)
  | cdioDestroy (cdio : Ptr)
  | cdioGetDevices
  | deviceAt (list : Ptr) (i : Nat)
  | cdioFreeDeviceList (list : Ptr)
  | cdioQuery (cdio : Ptr) (q : CdioQuery)
  | mmcLastCmdSense (cdio : Ptr)
  | readSense (sense : Ptr)
  | freeSense (sense : Ptr)
  | udfOpen (path : Bytes)
  | udfClose (udf : Ptr)
  | udfGetRoot (udf : Ptr) (anyPartition : Bool) (partition : UInt16)
  | udfFopen (dirent : Ptr) (path : Bytes)
  | udfReaddir (dirent : Ptr)
  | udfOpendir (dirent : Ptr)
  | udfDirentFree (dirent : Ptr)
  | direntQuery (dirent : Ptr) (q : DirentQuery)
  | iso9660OpenExt (path : Bytes)
  | iso9660Close (iso : Ptr)
  | iso9660IfsGetId (iso : Ptr) (id : IsoIdentifier)
  | readString (string : Ptr)
  | freeString (string : Ptr)
  | isoQuery (iso : Ptr) (q : IsoQuery)
  | iso9660IfsReaddir (iso : Ptr) (path : Bytes)
  | iso9660IfsStat (iso : Ptr) (path : Bytes)
  | cdioListBegin (list : Ptr)
  | cdioListNodeData (node : Ptr)
  | cdioListNodeNext (node : Ptr)
  | cdioListFree (list : Ptr)
  | readStat (stat : Ptr)
  | iso9660StatFree (stat : Ptr)
  | iso9660NameTranslateExt (name buf : Bytes) (jolietLevel : UInt8)

namespace LibCall

/-- Pointers that may be `NULL` are `Option`s. -/
def Reply : LibCall → Type
  | cdioLogSetHandler => Unit
  | cdioLoglevelDefault => Unit
  | cdioOpenAm .. => Option Ptr
  | cdioDestroy _ => Unit
  | cdioGetDevices => Option Ptr
  | deviceAt .. => Option Bytes
  | cdioFreeDeviceList _ => Unit
  | cdioQuery _ q => q.Reply
  | mmcLastCmdSense _ => Int32 × Option Ptr
  | readSense _ => RequestSense
  | freeSense _ => Unit
  | udfOpen _ => Option Ptr
  | udfClose _ => Unit
  | udfGetRoot .. => Option Ptr
  | udfFopen .. => Option Ptr
  | udfReaddir _ => Option Ptr
  | udfOpendir _ => Option Ptr
  | udfDirentFree _ => Unit
  | direntQuery _ q => q.Reply
  | iso9660OpenExt _ => Option Ptr
  | iso9660Close _ => Unit
  | iso9660IfsGetId .. => Bool × Option Ptr
  | readString _ => Bytes
  | freeString _ => Unit
  | isoQuery _ q => q.Reply
  | iso9660IfsReaddir .. => Option Ptr
  | iso9660IfsStat .. => Option Ptr
  | cdioListBegin _ => Option Ptr
  | cdioListNodeData _ => Option Ptr
  | cdioListNodeNext _ => Option Ptr
  | cdioListFree _ => Unit
  | readStat _ => IsoStat
  | iso9660StatFree _ => Unit
  | iso9660NameTranslateExt .. => Int32 × Bytes

/-- The comment on `CDIO_INIT_LOCK` asks for the lock around whatever makes or destroys a
`CdIo_t`; `init_logger` sets up the log before all else. -/
def role : LibCall → Role
  | cdioLogSetHandler => .setup
  | cdioLoglevelDefault => .setup
  | cdioOpenAm .. => .guarded
  | cdioDestroy _ => .guarded
  | cdioGetDevices => .guarded
  | _ => .plain

/-- A string without an inner NUL, as `CString` guarantees it. -/
def CStr (path : Bytes) : Prop := 0 ∉ path

/-- A directory entry is usable as long as its filesystem is open. -/
def LiveDirent (s : Heap Handle Object) (p : Ptr) : Prop :=
  ∃ u, s (.dirent p) = some (.dirent u) ∧ s (.udf u) = some .udf

def allowed : LibCall → Heap Handle Object → Prop
  | cdioLogSetHandler, _ => True
  | cdioLoglevelDefault, _ => True
  | cdioOpenAm source _, _ => ∀ path ∈ source, CStr path
  | cdioDestroy p, s => s (.cdio p) = some .cdio
  | cdioGetDevices, _ => True
  | deviceAt p i, s =>
    ∃ devices, s (.deviceList p) = some (.deviceList devices) ∧ i ≤ devices.length
  | cdioFreeDeviceList p, s => s.Live (.deviceList p)
  | cdioQuery p _, s => s (.cdio p) = some .cdio
  | mmcLastCmdSense p, s => s (.cdio p) = some .cdio
  | readSense p, s => s (.sense p) = some .sense
  | freeSense p, s => s (.sense p) = some .sense
  | udfOpen path, _ => CStr path
  | udfClose p, s => s (.udf p) = some .udf
  | udfGetRoot p _ _, s => s (.udf p) = some .udf
  | udfFopen p path, s => LiveDirent s p ∧ CStr path
  | udfReaddir p, s => LiveDirent s p
  | udfOpendir p, s => LiveDirent s p
  | udfDirentFree p, s => LiveDirent s p
  | direntQuery p _, s => LiveDirent s p
  | iso9660OpenExt path, _ => CStr path
  | iso9660Close p, s => s (.iso p) = some .iso
  | iso9660IfsGetId p _, s => s (.iso p) = some .iso
  | readString p, s => s (.string p) = some .string
  | freeString p, s => s (.string p) = some .string
  | isoQuery p _, s => s (.iso p) = some .iso
  | iso9660IfsReaddir p path, s => s (.iso p) = some .iso ∧ CStr path
  | iso9660IfsStat p path, s => s (.iso p) = some .iso ∧ CStr path
  | cdioListBegin p, s => s.Live (.list p)
  | cdioListNodeData p, s => s.Live (.node p)
  | cdioListNodeNext p, s => s.Live (.node p)
  | cdioListFree p, s => ∃ first nodes, s (.list p) = some (.list first nodes) ∧
    ∀ n ∈ nodes, s.Live (.node n)
  | readStat p, s => s (.stat p) = some .stat
  | iso9660StatFree p, s => s (.stat p) = some .stat
  | iso9660NameTranslateExt name buf _, _ => name.length < buf.length

end LibCall

abbrev Cells : Type := List (Handle × Object)

/-- The nodes of a list in memory, in order; each item is a node and its data pointer. -/
def nodeCells : List (Ptr × Option Ptr) → Cells
  | [] => []
  | item :: rest => (.node item.1, .node item.2 (rest.head?.map Prod.fst)) :: nodeCells rest

/-- The directory entries that the data pointers of a list lead to. -/
def statCells (items : List (Ptr × Option Ptr)) : Cells :=
  (items.filterMap Prod.snd).map fun p => (.stat p, .stat)

def listCell (p : Ptr) (items : List (Ptr × Option Ptr)) : Handle × Object :=
  (.list p, .list (items.head?.map Prod.fst) (items.map Prod.fst))

/-- What a reply may be, and which objects the call makes and frees. `bound` is more than the
number of devices and of the entries of a directory. -/
def LibCall.effect (bound : Nat) :
    (c : LibCall) → Heap Handle Object → c.Reply → Cells → List Handle → Prop
  | cdioOpenAm .., _, r, made, gone => made = r.toList.map (fun p => (.cdio p, .cdio)) ∧ gone = []
  | cdioDestroy p, _, _, made, gone => made = [] ∧ gone = [.cdio p]
  | cdioGetDevices, _, none, made, gone => made = [] ∧ gone = []
  | cdioGetDevices, _, some p, made, gone =>
    ∃ devices : List Bytes, devices.length < bound ∧
      made = [(.deviceList p, .deviceList devices)] ∧ gone = []
  | deviceAt p i, s, r, made, gone =>
    (∀ devices, s (.deviceList p) = some (.deviceList devices) → r = devices[i]?) ∧
      made = [] ∧ gone = []
  | cdioFreeDeviceList p, _, _, made, gone => made = [] ∧ gone = [.deviceList p]
  | mmcLastCmdSense _, _, r, made, gone =>
    made = (if 0 < r.1 then r.2.toList else []).map (fun p => (.sense p, .sense)) ∧ gone = []
  | freeSense p, _, _, made, gone => made = [] ∧ gone = [.sense p]
  | udfOpen _, _, r, made, gone => made = r.toList.map (fun p => (.udf p, .udf)) ∧ gone = []
  | udfClose p, _, _, made, gone => made = [] ∧ gone = [.udf p]
  | udfGetRoot u _ _, _, r, made, gone =>
    made = r.toList.map (fun p => (.dirent p, .dirent u)) ∧ gone = []
  | udfFopen e _, s, r, made, gone =>
    (∀ u, s (.dirent e) = some (.dirent u) →
      made = r.toList.map fun p => (.dirent p, .dirent u)) ∧ gone = []
  | udfOpendir e, s, r, made, gone =>
    (∀ u, s (.dirent e) = some (.dirent u) →
      made = r.toList.map fun p => (.dirent p, .dirent u)) ∧ gone = []
  -- The entry is moved: it comes back, or another entry takes its place, or it is gone.
  | udfReaddir e, s, r, made, gone =>
    (r = some e ∧ made = [] ∧ gone = []) ∨
      (∀ u, s (.dirent e) = some (.dirent u) →
        made = r.toList.map fun p => (.dirent p, .dirent u)) ∧ gone = [.dirent e]
  | udfDirentFree e, _, _, made, gone => made = [] ∧ gone = [.dirent e]
  | iso9660OpenExt _, _, r, made, gone => made = r.toList.map (fun p => (.iso p, .iso)) ∧ gone = []
  | iso9660Close p, _, _, made, gone => made = [] ∧ gone = [.iso p]
  | iso9660IfsGetId .., _, r, made, gone =>
    made = (if r.1 then r.2.toList else []).map (fun p => (.string p, .string)) ∧ gone = []
  | freeString p, _, _, made, gone => made = [] ∧ gone = [.string p]
  | isoQuery _ q, _, r, made, gone =>
    (match q, r with
      | .getJolietLevel, level => level.toNat ≤ 3
      | _, _ => True) ∧ made = [] ∧ gone = []
  | iso9660IfsReaddir .., _, none, made, gone => made = [] ∧ gone = []
  | iso9660IfsReaddir .., _, some p, made, gone =>
    ∃ items, items.length < bound ∧
      made = listCell p items :: nodeCells items ++ statCells items ∧ gone = []
  | iso9660IfsStat .., _, r, made, gone =>
    made = r.toList.map (fun p => (.stat p, .stat)) ∧ gone = []
  | cdioListBegin p, s, r, made, gone =>
    (∀ first nodes, s (.list p) = some (.list first nodes) → r = first) ∧ made = [] ∧ gone = []
  | cdioListNodeData p, s, r, made, gone =>
    (∀ data next, s (.node p) = some (.node data next) → r = data) ∧ made = [] ∧ gone = []
  | cdioListNodeNext p, s, r, made, gone =>
    (∀ data next, s (.node p) = some (.node data next) → r = next) ∧ made = [] ∧ gone = []
  | cdioListFree p, s, _, made, gone =>
    made = [] ∧ ∀ first nodes, s (.list p) = some (.list first nodes) →
      gone = .list p :: nodes.map .node
  | iso9660StatFree p, _, _, made, gone => made = [] ∧ gone = [.stat p]
  | iso9660NameTranslateExt _ buf _, _, r, made, gone =>
    0 ≤ r.1 ∧ r.2.length ≤ buf.length ∧ made = [] ∧ gone = []
  | _, _, _, made, gone => made = [] ∧ gone = []

def libcdio (bound : Nat) : Api LibCall LibCall.Reply Handle Object where
  allowed := LibCall.allowed
  effect := LibCall.effect bound

theorem liveDirent_within {s t : Heap Handle Object} (hw : s.Within t) {p : Ptr}
    (h : LibCall.LiveDirent s p) : LibCall.LiveDirent t p := by
  obtain ⟨u, hp, hu⟩ := h
  exact ⟨u, hw _ _ hp, hw _ _ hu⟩

theorem libcdio_allowed_within {c : LibCall} {s t : Heap Handle Object} (hw : s.Within t)
    (h : c.allowed s) : c.allowed t := by
  cases c with
  | deviceAt p i =>
    obtain ⟨devices, hp, hi⟩ := h
    exact ⟨devices, hw _ _ hp, hi⟩
  | cdioListFree p =>
    obtain ⟨first, nodes, hp, hn⟩ := h
    exact ⟨first, nodes, hw _ _ hp, fun n hm => hw.live (hn n hm)⟩
  | udfFopen p path => exact ⟨liveDirent_within hw h.1, h.2⟩
  | iso9660IfsReaddir p path => exact ⟨hw _ _ h.1, h.2⟩
  | iso9660IfsStat p path => exact ⟨hw _ _ h.1, h.2⟩
  | udfReaddir p => exact liveDirent_within hw h
  | udfOpendir p => exact liveDirent_within hw h
  | udfDirentFree p => exact liveDirent_within hw h
  | direntQuery p q => exact liveDirent_within hw h
  | cdioFreeDeviceList p => exact hw.live h
  | cdioListBegin p => exact hw.live h
  | cdioListNodeData p => exact hw.live h
  | cdioListNodeNext p => exact hw.live h
  | cdioLogSetHandler => trivial
  | cdioLoglevelDefault => trivial
  | cdioGetDevices => trivial
  | cdioOpenAm source mode => exact h
  | udfOpen path => exact h
  | iso9660OpenExt path => exact h
  | iso9660NameTranslateExt name buf level => exact h
  | _ => exact hw _ _ h

theorem libcdio_effect_within {bound : Nat} {c : LibCall} {s t : Heap Handle Object} {r : c.Reply}
    {made : Cells} {gone : List Handle} (hw : s.Within t) (ha : c.allowed s)
    (he : c.effect bound t r made gone) : c.effect bound s r made gone := by
  cases c with
  | deviceAt p i => exact ⟨fun devices hs => he.1 devices (hw _ _ hs), he.2⟩
  | udfFopen e path => exact ⟨fun u hs => he.1 u (hw _ _ hs), he.2⟩
  | udfOpendir e => exact ⟨fun u hs => he.1 u (hw _ _ hs), he.2⟩
  | udfReaddir e =>
    rcases he with hsame | ⟨hmade, hgone⟩
    · exact .inl hsame
    · exact .inr ⟨fun u hs => hmade u (hw _ _ hs), hgone⟩
  | cdioListBegin p => exact ⟨fun first nodes hs => he.1 first nodes (hw _ _ hs), he.2⟩
  | cdioListNodeData p => exact ⟨fun data next hs => he.1 data next (hw _ _ hs), he.2⟩
  | cdioListNodeNext p => exact ⟨fun data next hs => he.1 data next (hw _ _ hs), he.2⟩
  | cdioListFree p => exact ⟨he.1, fun first nodes hs => he.2 first nodes (hw _ _ hs)⟩
  | cdioGetDevices =>
    cases r with
    | none => exact he
    | some p => exact he
  | iso9660IfsReaddir p path =>
    cases r with
    | none => exact he
    | some p => exact he
  | _ => exact he

theorem liveDirent_live {s : Heap Handle Object} {p : Ptr} (h : LibCall.LiveDirent s p) :
    s.Live (.dirent p) := by
  obtain ⟨u, hp, _⟩ := h
  exact Heap.live_of_eq hp

theorem libcdio_gone_live {bound : Nat} {c : LibCall} {s : Heap Handle Object} {r : c.Reply}
    {made : Cells} {gone : List Handle} (ha : c.allowed s) (he : c.effect bound s r made gone) :
    ∀ h ∈ gone, s.Live h := by
  have hnone : ∀ {gone : List Handle}, gone = [] → ∀ h ∈ gone, s.Live h := by
    rintro _ rfl h hh
    exact absurd hh List.not_mem_nil
  have hone : ∀ {g : Handle} {gone : List Handle},
      s.Live g → gone = [g] → ∀ h ∈ gone, s.Live h := by
    rintro g _ hg rfl h hh
    rw [List.mem_singleton.mp hh]
    exact hg
  cases c with
  | cdioDestroy p => exact hone (Heap.live_of_eq ha) he.2
  | cdioFreeDeviceList p => exact hone ha he.2
  | freeSense p => exact hone (Heap.live_of_eq ha) he.2
  | udfClose p => exact hone (Heap.live_of_eq ha) he.2
  | udfDirentFree e => exact hone (liveDirent_live ha) he.2
  | iso9660Close p => exact hone (Heap.live_of_eq ha) he.2
  | freeString p => exact hone (Heap.live_of_eq ha) he.2
  | iso9660StatFree p => exact hone (Heap.live_of_eq ha) he.2
  | udfReaddir e =>
    rcases he with ⟨_, _, hgone⟩ | ⟨_, hgone⟩
    · exact hnone hgone
    · exact hone (liveDirent_live ha) hgone
  | cdioListFree p =>
    obtain ⟨first, nodes, hp, hn⟩ := ha
    intro h hh
    rw [he.2 first nodes hp] at hh
    rcases List.mem_cons.mp hh with rfl | hm
    · exact Heap.live_of_eq hp
    · obtain ⟨n, hn', rfl⟩ := List.mem_map.mp hm
      exact hn n hn'
  | cdioGetDevices =>
    cases r with
    | none => exact hnone he.2
    | some p =>
      obtain ⟨_, _, _, hgone⟩ := he
      exact hnone hgone
  | iso9660IfsReaddir p path =>
    cases r with
    | none => exact hnone he.2
    | some p =>
      obtain ⟨_, _, _, hgone⟩ := he
      exact hnone hgone
  | deviceAt p i => exact hnone he.2.2
  | isoQuery p q => exact hnone he.2.2
  | cdioListBegin p => exact hnone he.2.2
  | cdioListNodeData p => exact hnone he.2.2
  | cdioListNodeNext p => exact hnone he.2.2
  | iso9660NameTranslateExt name buf level => exact hnone he.2.2.2
  | _ => exact hnone he.2

theorem libcdio_local (bound : Nat) : (libcdio bound).Local where
  allowed := libcdio_allowed_within
  effect := libcdio_effect_within
  gone := libcdio_gone_live

theorem libcdio_reply {bound : Nat} {c : LibCall} {s : Heap Handle Object} (ha : c.allowed s) :
    ∃ r gone, c.effect bound s r [] gone := by
  cases c with
  | cdioLogSetHandler => exact ⟨(), [], rfl, rfl⟩
  | cdioLoglevelDefault => exact ⟨(), [], rfl, rfl⟩
  | cdioOpenAm source mode => exact ⟨(none : Option Ptr), [], rfl, rfl⟩
  | cdioDestroy p => exact ⟨(), _, rfl, rfl⟩
  | cdioGetDevices => exact ⟨(none : Option Ptr), [], rfl, rfl⟩
  | deviceAt p i =>
    obtain ⟨devices, hp, _⟩ := ha
    refine ⟨devices[i]?, [], ?_, rfl, rfl⟩
    intro devices' hp'
    rw [hp] at hp'
    cases hp'
    rfl
  | cdioFreeDeviceList p => exact ⟨(), _, rfl, rfl⟩
  | cdioQuery p q =>
    cases q with
    | getHwinfo => exact ⟨(none : Option Hwinfo), [], rfl, rfl⟩
    | getDriveCap => exact ⟨((0, 0, 0) : UInt32 × UInt32 × UInt32), [], rfl, rfl⟩
    | runCmd timeout cdb direction buf => exact ⟨((-1, []) : Stored), [], rfl, rfl⟩
    | getConfiguration buf start rt count => exact ⟨((-1, []) : Stored), [], rfl, rfl⟩
  | mmcLastCmdSense p => exact ⟨((0, none) : Int32 × Option Ptr), [], rfl, rfl⟩
  | readSense p =>
    exact ⟨(⟨0, 0, 0, 0, .replicate 4 0, 0, .replicate 3 0, .replicate 46 0⟩ : RequestSense), [],
      rfl, rfl⟩
  | freeSense p => exact ⟨(), _, rfl, rfl⟩
  | udfOpen path => exact ⟨(none : Option Ptr), [], rfl, rfl⟩
  | udfClose p => exact ⟨(), _, rfl, rfl⟩
  | udfGetRoot p any partition => exact ⟨(none : Option Ptr), [], rfl, rfl⟩
  | udfFopen e path => exact ⟨(none : Option Ptr), [], fun _ _ => rfl, rfl⟩
  | udfReaddir e => exact ⟨(none : Option Ptr), _, .inr ⟨fun _ _ => rfl, rfl⟩⟩
  | udfOpendir e => exact ⟨(none : Option Ptr), [], fun _ _ => rfl, rfl⟩
  | udfDirentFree e => exact ⟨(), _, rfl, rfl⟩
  | direntQuery e q =>
    cases q with
    | ids => exact ⟨((0, 0) : UInt32 × UInt32), [], rfl, rfl⟩
    | getFilename => exact ⟨(none : Option Bytes), [], rfl, rfl⟩
    | getModificationTime => exact ⟨(0 : Int64), [], rfl, rfl⟩
    | isDir => exact ⟨false, [], rfl, rfl⟩
    | getFileLength => exact ⟨(0 : UInt64), [], rfl, rfl⟩
    | getPosixFilemode => exact ⟨(0 : UInt32), [], rfl, rfl⟩
    | getLinkCount => exact ⟨(0 : UInt16), [], rfl, rfl⟩
    | setpos offset => exact ⟨(0 : Int), [], rfl, rfl⟩
    | readBlock count => exact ⟨((0, []) : Int × Bytes), [], rfl, rfl⟩
  | iso9660OpenExt path => exact ⟨(none : Option Ptr), [], rfl, rfl⟩
  | iso9660Close p => exact ⟨(), _, rfl, rfl⟩
  | iso9660IfsGetId p id => exact ⟨((false, none) : Bool × Option Ptr), [], rfl, rfl⟩
  | readString p => exact ⟨([] : Bytes), [], rfl, rfl⟩
  | freeString p => exact ⟨(), _, rfl, rfl⟩
  | isoQuery p q =>
    cases q with
    | getJolietLevel => exact ⟨(0 : UInt8), [], Nat.zero_le 3, rfl, rfl⟩
    | haveRr fileLimit => exact ⟨Bool3Way.dunno, [], trivial, rfl, rfl⟩
    | seekRead lsn count => exact ⟨((0, []) : Int × Bytes), [], trivial, rfl, rfl⟩
  | iso9660IfsReaddir p path => exact ⟨(none : Option Ptr), [], rfl, rfl⟩
  | iso9660IfsStat p path => exact ⟨(none : Option Ptr), [], rfl, rfl⟩
  | cdioListBegin p =>
    obtain ⟨v, hv⟩ := Heap.live_iff.mp ha
    refine ⟨(match v with | .list first _ => first | _ => none), [], ?_, rfl, rfl⟩
    intro first nodes hp
    rw [hv] at hp
    cases hp
    rfl
  | cdioListNodeData p =>
    obtain ⟨v, hv⟩ := Heap.live_iff.mp ha
    refine ⟨(match v with | .node data _ => data | _ => none), [], ?_, rfl, rfl⟩
    intro data next hp
    rw [hv] at hp
    cases hp
    rfl
  | cdioListNodeNext p =>
    obtain ⟨v, hv⟩ := Heap.live_iff.mp ha
    refine ⟨(match v with | .node _ next => next | _ => none), [], ?_, rfl, rfl⟩
    intro data next hp
    rw [hv] at hp
    cases hp
    rfl
  | cdioListFree p =>
    obtain ⟨first, nodes, hp, _⟩ := ha
    refine ⟨(), .list p :: nodes.map .node, rfl, ?_⟩
    intro first' nodes' hp'
    rw [hp] at hp'
    cases hp'
    rfl
  | readStat p => exact ⟨(⟨[], 0, 0, false⟩ : IsoStat), [], rfl, rfl⟩
  | iso9660StatFree p => exact ⟨(), _, rfl, rfl⟩
  | iso9660NameTranslateExt name buf level =>
    exact ⟨((0, []) : Int32 × Bytes), [], Int32.le_refl 0, Nat.zero_le _, rfl, rfl⟩

theorem libcdio_answers (bound : Nat) : (libcdio bound).Answers := by
  intro c s ha
  obtain ⟨r, gone, he⟩ := libcdio_reply ha
  exact ⟨r, _, [], gone, he, Change.freeing gone s⟩

end LibcdioRs
