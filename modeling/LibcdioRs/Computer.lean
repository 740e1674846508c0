import LibcdioRs.MmcLibcdio
import LibcdioRs.UdfEntry
import LibcdioRs.Iso9660

/-!
# A small libcdio

A libcdio that keeps the contract and can be run. It has one place for each kind of
object: what is not open yet can be opened, what is open can be used and freed.
-/

namespace LibcdioRs

open Rust Foreign
set_option autoImplicit false

/-- The names of the drives, what a drive answers to every command, the sectors of the ISO 9660
images, and the files that the UDF entries stand for. -/
structure Media where
  devices : List Bytes
  answer : Bytes
  disc : Int → Block
  file : Ptr → Bytes

/-- What there is room for if devices and directory entries number less than `bound`. -/
def Media.Fits (media : Media) (bound : Nat) : Prop := 2 < bound ∧ media.devices.length < bound

instance (media : Media) (bound : Nat) : Decidable (media.Fits bound) :=
  inferInstanceAs (Decidable (_ ∧ _))

namespace Computer

/-- All UDF filesystems share one position. -/
structure State where
  phase : Phase LibCall
  ready : Bool
  memory : Heap Handle Object
  position : Int

variable (media : Media)

def cdioReply : (q : CdioQuery) → q.Reply
  | .getHwinfo => (none : Option Hwinfo)
  | .getDriveCap => ((0, 0, 0) : UInt32 × UInt32 × UInt32)
  | .runCmd .. => ((0, media.answer) : Stored)
  | .getConfiguration .. => ((0, []) : Stored)

def direntReply (p : Ptr) (position : Int) : (q : DirentQuery) → q.Reply × Int
  | .ids => (((0, 0) : UInt32 × UInt32), position)
  | .getFilename => ((none : Option Bytes), position)
  | .getModificationTime => ((0 : Int64), position)
  | .isDir => (false, position)
  | .getFileLength => (UInt64.ofNat (media.file p).length, position)
  | .getPosixFilemode => ((0 : UInt32), position)
  | .getLinkCount => ((0 : UInt16), position)
  | .setpos offset => ((0 : Int), offset)
  | .readBlock _ =>
    let block := (UdfLib.ofFiles media.file).readBlock p position
    (((block.1.1, block.1.2.toList) : Int × Bytes), block.2)

def isoReply : (q : IsoQuery) → q.Reply
  | .getJolietLevel => (0 : UInt8)
  | .haveRr _ => Bool3Way.dunno
  | .seekRead lsn _ => ((blockSize, (media.disc lsn.toInt).toList) : Int × Bytes)

/-- Every directory has two items, one of them without data. -/
def directory : List (Ptr × Option Ptr) := [(0, some 1), (1, none)]

/-- What a call makes if there is a place for it. -/
def makes : LibCall → Cells
  | .cdioOpenAm .. => [cdioCell 0]
  | .cdioGetDevices => [(.deviceList 0, .deviceList media.devices)]
  | .udfOpen _ => [udfCell 0]
  | .udfGetRoot u .. => [(.dirent 0, .dirent u)]
  | .iso9660OpenExt _ => [isoCell 0]
  | .iso9660IfsReaddir .. => listCell 0 directory :: nodeCells directory ++ statCells directory
  | .iso9660IfsStat .. => [(.stat 0, .stat)]
  | _ => []

def fits (s : Heap Handle Object) (c : LibCall) : Bool :=
  (makes media c).all fun x => (s x.1).isNone

def made (s : Heap Handle Object) (c : LibCall) : Cells :=
  if fits media s c then makes media c else []

/-- Whatever is opened is at 0. -/
def opened (s : Heap Handle Object) (c : LibCall) : Option Ptr :=
  if fits media s c then some 0 else none

/-- What is read out of an object is what the memory has there. -/
def reply (s : Heap Handle Object) (position : Int) : (c : LibCall) → c.Reply
  | .cdioLogSetHandler => ()
  | .cdioLoglevelDefault => ()
  | .cdioOpenAm source mode => opened media s (.cdioOpenAm source mode)
  | .cdioDestroy _ => ()
  | .cdioGetDevices => opened media s .cdioGetDevices
  | .deviceAt list i =>
    (match s (.deviceList list) with
      | some (.deviceList devices) => devices[i]?
      | _ => none : Option Bytes)
  | .cdioFreeDeviceList _ => ()
  | .cdioQuery _ q => cdioReply media q
  | .mmcLastCmdSense _ => ((0, none) : Int32 × Option Ptr)
  | .readSense _ =>
    (⟨0, 0, 0, 0, .replicate 4 0, 0, .replicate 3 0, .replicate 46 0⟩ : RequestSense)
  | .freeSense _ => ()
  | .udfOpen path => opened media s (.udfOpen path)
  | .udfClose _ => ()
  | .udfGetRoot u anyPartition partition => opened media s (.udfGetRoot u anyPartition partition)
  | .udfFopen .. => (none : Option Ptr)
  | .udfReaddir _ => (none : Option Ptr)
  | .udfOpendir _ => (none : Option Ptr)
  | .udfDirentFree _ => ()
  | .direntQuery p q => (direntReply media p position q).1
  | .iso9660OpenExt path => opened media s (.iso9660OpenExt path)
  | .iso9660Close _ => ()
  | .iso9660IfsGetId .. => ((false, none) : Bool × Option Ptr)
  | .readString _ => ([] : Bytes)
  | .freeString _ => ()
  | .isoQuery _ q => isoReply media q
  | .iso9660IfsReaddir iso path => opened media s (.iso9660IfsReaddir iso path)
  | .iso9660IfsStat iso path => opened media s (.iso9660IfsStat iso path)
  | .cdioListBegin list =>
    (match s (.list list) with
      | some (.list first _) => first
      | _ => none : Option Ptr)
  | .cdioListNodeData node =>
    (match s (.node node) with
      | some (.node data _) => data
      | _ => none : Option Ptr)
  | .cdioListNodeNext node =>
    (match s (.node node) with
      | some (.node _ next) => next
      | _ => none : Option Ptr)
  | .cdioListFree _ => ()
  | .readStat _ => (⟨[], 0, 0, false⟩ : IsoStat)
  | .iso9660StatFree _ => ()
  | .iso9660NameTranslateExt .. => ((0, []) : Int32 × Bytes)

def positionAfter (position : Int) : LibCall → Int
  | .direntQuery p q => (direntReply media p position q).2
  | _ => position

/-- What a call frees. `udf_readdir` finds no further entry and frees the one it is given. -/
def gone (s : Heap Handle Object) : LibCall → List Handle
  | .cdioDestroy p => [.cdio p]
  | .cdioFreeDeviceList p => [.deviceList p]
  | .freeSense p => [.sense p]
  | .udfClose p => [.udf p]
  | .udfReaddir p => [.dirent p]
  | .udfDirentFree p => [.dirent p]
  | .iso9660Close p => [.iso p]
  | .freeString p => [.string p]
  | .cdioListFree p =>
    match s (.list p) with
    | some (.list _ nodes) => .list p :: nodes.map .node
    | _ => []
  | .iso9660StatFree p => [.stat p]
  | _ => []

def memoryAfter (s : Heap Handle Object) (c : LibCall) : Heap Handle Object :=
  (s.erase (gone s c)).add (made media s c)

def answer : (c : Cmd LibCall) → State → Cmd.Reply LibCall.Reply c × State
  | .lock, s => (false, { s with phase := .locked })
  | .unlock, s => ((), { s with phase := .free })
  | .once, s => if s.ready then (false, s) else (true, { s with phase := .setup [] })
  | .onceDone, s => ((), { s with phase := .free, ready := true })
  | .foreign c, s =>
    (reply media s.memory s.position c,
      ⟨s.phase.called c, s.ready, memoryAfter media s.memory c, positionAfter media s.position c⟩)

end Computer

def computer (media : Media) : Libcdio Computer.State where
  reply := Computer.answer media
  view s := ⟨s.phase, s.ready, s.memory⟩

namespace Computer
variable {media : Media} {s : Heap Handle Object} {position : Int}

theorem makes_nodup (c : LibCall) : ((makes media c).map Prod.fst).Nodup := by
  cases c with
  | cdioGetDevices => exact List.nodup_singleton _
  | udfGetRoot u anyPartition partition => exact List.nodup_singleton _
  | iso9660IfsReaddir iso path =>
    change ((listCell 0 directory :: nodeCells directory ++ statCells directory).map Prod.fst).Nodup
    decide
  | cdioOpenAm source mode => exact List.nodup_singleton _
  | udfOpen path => exact List.nodup_singleton _
  | iso9660OpenExt path => exact List.nodup_singleton _
  | iso9660IfsStat iso path => exact List.nodup_singleton _
  | _ => exact List.nodup_nil

theorem gone_or_makes (s : Heap Handle Object) (c : LibCall) :
    gone s c = [] ∨ makes media c = [] := by
  cases c <;> first | exact .inl rfl | exact .inr rfl

theorem made_cases (s : Heap Handle Object) (c : LibCall) :
    (made media s c = makes media c ∧ opened media s c = some 0 ∧
      ∀ x ∈ makes media c, s x.1 = none) ∨ made media s c = [] ∧ opened media s c = none := by
  unfold made opened
  cases hfits : fits media s c with
  | true =>
    refine .inl ⟨rfl, rfl, ?_⟩
    intro x hx
    exact Option.isNone_iff_eq_none.mp (List.all_eq_true.mp hfits x hx)
  | false => exact .inr ⟨rfl, rfl⟩

theorem change (s : Heap Handle Object) (c : LibCall) :
    Change (made media s c) (gone s c) s (memoryAfter media s c) := by
  rcases made_cases s c with ⟨hmade, _, hfresh⟩ | ⟨hmade, _⟩
  · refine .add_erase ?_ ?_ ?_
    · rw [hmade]
      exact makes_nodup c
    · rw [hmade]
      exact hfresh
    · rw [hmade]
      rcases gone_or_makes s c with hgone | hmakes
      · rw [hgone]
        exact nofun
      · rw [hmakes]
        exact fun _ _ => List.not_mem_nil
  · unfold memoryAfter
    rw [hmade]
    exact .add_erase List.nodup_nil nofun fun _ _ => List.not_mem_nil

theorem made_eq {c : LibCall} {cell : Ptr → Handle × Object} (hc : makes media c = [cell 0]) :
    made media s c = (opened media s c).toList.map cell := by
  rcases made_cases s c with ⟨hmade, hopened, _⟩ | ⟨hmade, hopened⟩
  · rw [hmade, hopened, hc]
    rfl
  · rw [hmade, hopened]
    rfl

theorem effect {bound : Nat} (hb : media.Fits bound) (c : LibCall) :
    c.effect bound s (reply media s position c) (made media s c) (gone s c) := by
  cases c with
  | cdioOpenAm source mode => exact ⟨made_eq rfl, rfl⟩
  | udfOpen path => exact ⟨made_eq rfl, rfl⟩
  | udfGetRoot u anyPartition partition => exact ⟨made_eq rfl, rfl⟩
  | iso9660OpenExt path => exact ⟨made_eq rfl, rfl⟩
  | iso9660IfsStat iso path => exact ⟨made_eq rfl, rfl⟩
  | iso9660IfsReaddir iso path =>
    rcases made_cases s (.iso9660IfsReaddir iso path) with ⟨hmade, hopened, _⟩ | ⟨hmade, hopened⟩
    · have hreply : reply media s position (.iso9660IfsReaddir iso path) = (some 0 : Option Ptr) :=
        hopened
      rw [hreply, hmade]
      exact ⟨directory, hb.1, rfl, rfl⟩
    · have hreply : reply media s position (.iso9660IfsReaddir iso path) = (none : Option Ptr) :=
        hopened
      rw [hreply, hmade]
      exact ⟨rfl, rfl⟩
  | cdioGetDevices =>
    rcases made_cases s .cdioGetDevices with ⟨hmade, hopened, _⟩ | ⟨hmade, hopened⟩
    · have hreply : reply media s position .cdioGetDevices = (some 0 : Option Ptr) := hopened
      rw [hreply, hmade]
      exact ⟨media.devices, hb.2, rfl, rfl⟩
    · have hreply : reply media s position .cdioGetDevices = (none : Option Ptr) := hopened
      rw [hreply, hmade]
      exact ⟨rfl, rfl⟩
  | deviceAt list i =>
    refine ⟨?_, rfl, rfl⟩
    intro devices hs
    simp only [reply, hs]
    rfl
  | cdioListBegin list =>
    refine ⟨?_, rfl, rfl⟩
    intro first nodes hs
    simp only [reply, hs]
    rfl
  | cdioListNodeData node =>
    refine ⟨?_, rfl, rfl⟩
    intro data next hs
    simp only [reply, hs]
    rfl
  | cdioListNodeNext node =>
    refine ⟨?_, rfl, rfl⟩
    intro data next hs
    simp only [reply, hs]
    rfl
  | cdioListFree list =>
    refine ⟨rfl, ?_⟩
    intro first nodes hs
    simp only [gone, hs]
  | udfFopen e path => exact ⟨fun _ _ => rfl, rfl⟩
  | udfOpendir e => exact ⟨fun _ _ => rfl, rfl⟩
  | udfReaddir e => exact .inr ⟨fun _ _ => rfl, rfl⟩
  | isoQuery p q =>
    cases q with
    | getJolietLevel => exact ⟨Nat.zero_le 3, rfl, rfl⟩
    | haveRr limit => exact ⟨trivial, rfl, rfl⟩
    | seekRead lsn count => exact ⟨trivial, rfl, rfl⟩
  | iso9660NameTranslateExt name buf level => exact ⟨Int32.le_refl 0, Nat.zero_le _, rfl, rfl⟩
  | _ => exact ⟨rfl, rfl⟩

theorem keeps (media : Media) {bound : Nat} (hb : media.Fits bound) :
    (computer media).Keeps (rules bound) := by
  intro c s ha
  cases c with
  | lock => exact ⟨rfl, rfl⟩
  | unlock => exact rfl
  | onceDone => exact rfl
  | once =>
    rcases s with ⟨phase, ready, memory, position⟩
    cases ready with
    | true => exact rfl
    | false => exact ⟨rfl, rfl⟩
  | foreign c => exact ⟨_, ⟨_, _, effect hb c, change s.memory c⟩, rfl⟩

/-- The given objects are there, nothing else. -/
def start (cells : Cells) : State := ⟨.free, true, .ofCells cells, 0⟩

theorem holds_start (media : Media) (cells : Cells) (h : (cells.map Prod.fst).Nodup) :
    Holds .free true cells ((computer media).view (start cells)) := ⟨rfl, rfl, .ofCells h⟩

theorem answersWith (media : Media) (codes : ReturnCodes) (p : Ptr) (s : State) :
    (Mmc.ofLibrary (computer media) codes p).AnswersWith s media.answer := by
  intro timeout cdb direction buf hlen
  refine ⟨Int32.le_refl 0, ?_⟩
  change overwrite buf media.answer = media.answer
  have hle : media.answer.length ≤ buf.length := Nat.le_of_eq hlen.symm
  rw [overwrite_of_le hle, List.drop_of_length_le (Nat.le_of_eq hlen), List.append_nil]

end Computer

def noMedia : Media := ⟨[], [0x05], fun _ => Vector.replicate blockSize 0, fun _ => []⟩

theorem noMedia_fits : noMedia.Fits 3 := by decide

theorem mmcMethods_keep_memory_eject : ∃ s',
    MmcMethod.runAll ⟨.w64, .w64, true⟩ .plain (Mmc.ofLibrary (computer noMedia) ⟨-2, -4, -5⟩ 0)
        [.testUnitReady, .preventMediaRemoval, .eject] (Computer.start [cdioCell 0]) = .ret s' ∧
      Holds .free true [cdioCell 0] ((computer noMedia).view s') := by
  have hstart := Computer.holds_start noMedia [cdioCell 0] (List.nodup_singleton _)
  refine ⟨_, rfl, ?_⟩
  exact mmcMethods_keep_memory ⟨.w64, .w64, true⟩ .plain (Computer.keeps noMedia noMedia_fits)
    List.mem_cons_self [.testUnitReady, .preventMediaRemoval, .eject] hstart rfl

end LibcdioRs
