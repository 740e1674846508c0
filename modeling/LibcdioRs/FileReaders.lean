import LibcdioRs.Computer
import LibcdioRs.Iso9660
import LibcdioRs.IsoEntry

/-!
# Reading files through libcdio

The entry readers over a libcdio, on the states in which the images and entries
are open. A read leaves such a state; that is part of the type of the state. Any
number of readers, of files on ISO 9660 images and of files on UDF filesystems, may
be used by turns.
-/

namespace LibcdioRs

open Rust Foreign Cursor Interleave
set_option autoImplicit false

variable {σ ι : Type} {bound : Nat} {cells : Cells} {L : Libcdio σ}

/-- The states in which `cells` are the open objects. -/
abbrev Opened (L : Libcdio σ) (cells : Cells) : Type :=
  {s : σ // Holds .free true cells (L.view s)}

/-- A call that leaves the open objects as they are. -/
def Opened.ask (hL : L.Keeps (rules bound)) (c : LibCall)
    (hc : ∀ l, Holds .free true cells l →
      (ffi c).Sat (rules bound) l fun _ l' => Holds .free true cells l')
    (s : Opened L cells) : c.Reply × Opened L cells :=
  ((L.reply (.foreign c) s.1).1, ⟨(L.reply (.foreign c) s.1).2, holds_run hL (hc _ s.2) rfl⟩)

/-- What a block holds that was all zeros before. -/
def blockOf (stored : Bytes) : Block := .ofFn fun i => stored.getD i 0

theorem blockOf_toList (block : Block) : blockOf block.toList = block := by
  apply Vector.ext
  intro i hi
  simp [blockOf, List.getD_eq_getElem?_getD]

abbrev Image (cells : Cells) : Type := {p : Ptr // isoCell p ∈ cells}

abbrev Filesystem (cells : Cells) : Type := {u : Ptr // udfCell u ∈ cells}

/-- The entries of an open filesystem. -/
abbrev Dirent (cells : Cells) (u : Filesystem cells) : Type :=
  {p : Ptr // (.dirent p, .dirent u.1) ∈ cells}

def IsoLib.ofLibrary (hL : L.Keeps (rules bound)) (image : Image cells) :
    IsoLib (Opened L cells) where
  seekRead lsn s :=
    let r : (Int × Bytes) × Opened L cells :=
      s.ask hL (.isoQuery image.1 (.seekRead lsn 1)) fun _ h => seekRead_sat h image.2
    ((r.1.1, blockOf r.1.2), r.2)

theorem direntAsk_sat {u : Filesystem cells} (e : Dirent cells u) (q : DirentQuery) (l : Known)
    (h : Holds .free true cells l) :
    (ffi (.direntQuery e.1 q)).Sat (rules bound) l fun _ l' => Holds .free true cells l' :=
  direntQuery_sat (f := fun r => .ret r) h u.2 e.2 fun _ _ h' => h'

def UdfLib.ofLibrary (hL : L.Keeps (rules bound)) (u : Filesystem cells) :
    UdfLib (Dirent cells u) (Opened L cells) where
  setpos e offset s := s.ask hL (.direntQuery e.1 (.setpos offset)) (direntAsk_sat e _)
  readBlock e s :=
    let r : (Int × Bytes) × Opened L cells :=
      s.ask hL (.direntQuery e.1 (.readBlock 1)) (direntAsk_sat e _)
    ((r.1.1, blockOf r.1.2), r.2)

/-- A reader, with what it borrows. -/
inductive FileReader (cells : Cells) where
  | iso (image : Image cells) (entry : IsoEntry)
  | udf (udf : Filesystem cells) (entry : UdfEntry (Dirent cells udf))

namespace FileReader
variable {T : Target}

def op (T : Target) (hL : L.Keeps (rules bound)) :
    FileReader cells → Op UInt8 → Nat → Opened L cells →
      Exec (Obs IoError UInt8 × Nat × Opened L cells)
  | .iso image entry => IsoEntryReader.op T (.ofLibrary hL image) entry
  | .udf u entry => UdfEntryReader.op T (.ofLibrary hL u) entry

/-- What libcdio has to deliver for a reader to read `F`: the sectors of an image do not change,
and the entries of a filesystem share a position. Nothing is said about the other images and
filesystems. -/
inductive Delivers (hL : L.Keeps (rules bound)) : FileReader cells → Bytes → Prop where
  | iso {image : Image cells} {entry : IsoEntry} {disc : Int → Block}
      (reads : (IsoLib.ofLibrary hL image).Reads disc)
      (sectors : entry.lsn.toInt + entry.blocks < 2 ^ 31) (size : entry.blocks ≤ 2 ^ 31) :
      Delivers hL (.iso image entry) (entry.file disc)
  | udf {u : Filesystem cells} {entry : UdfEntry (Dirent cells u)} {position : Opened L cells → Int}
      {file : Dirent cells u → Bytes}
      (shares : (UdfLib.ofLibrary hL u).SharesPosition position file)
      (length : (file entry.entry).length = entry.fileLength.toNat)
      (size : entry.fileLength.toNat < 2 ^ 63) :
      Delivers hL (.udf u entry) (file entry.entry)

theorem blockIndexFits {entry : IsoEntry} {disc : Int → Block} (h : entry.blocks ≤ 2 ^ 31)
    (o : Op UInt8) (p : Nat) : BlockIndexFits T (entry.file disc) o p := by
  cases o with
  | read buf =>
    intro q _ hq _ _
    rw [entry.length_file] at hq
    unfold IsoEntry.blocks blockSize at h
    unfold blockSize
    omega
  | seek pos => trivial

/-- One step of a reader is one of a cursor over its file, whatever the other readers have done to
libcdio before. -/
theorem op_conforms (hT : T.usizeWidth = .w64) (hoff : T.offTWidth = .w64)
    {hL : L.Keeps (rules bound)} {reader : FileReader cells} {F : Bytes}
    (h : reader.Delivers hL F) (o : Op UInt8) (p : Nat) (hr : InRange 64 F o p) :
    Conforms (reader.op T hL) (fileStep F) o p := by
  cases h with
  | iso reads sectors size =>
    exact LibcdioRs.op_conforms sectors hT reads o p hr (blockIndexFits size o p)
  | udf shares length size => exact udf_op_conforms hT hoff shares length size o p hr

end FileReader

/-- Readers of files on all the open images and filesystems, used by turns in any order: each of
them answers as if it read a file of its own, and what is open stays open. -/
theorem fileReaders_eq_solo [DecidableEq ι] {T : Target} (hT : T.usizeWidth = .w64)
    (hoff : T.offTWidth = .w64) (hL : L.Keeps (rules bound)) (readers : ι → FileReader cells)
    (files : ι → Bytes) (hd : ∀ i, (readers i).Delivers hL (files i))
    (sched : List (ι × Op UInt8)) (s : Opened L cells)
    (hr : ∀ i, Allowed (fileStep (files i)) (InRange 64 (files i)) (ofAgent i sched) 0) :
    ∃ log ps s', runAll (fun i => (readers i).op T hL) sched (fun _ => 0) s =
        .ret (log, ps, s') ∧
      (∀ i, solo (fileStep (files i)) (ofAgent i sched) 0 = (ofAgent i log, ps i)) ∧
      Holds .free true cells (L.view s'.1) := by
  obtain ⟨log, ps, s', hrun, hsolo⟩ :=
    runAll_eq_solo (fun i o p h => FileReader.op_conforms hT hoff (hd i) o p h) sched _ s hr
  exact ⟨log, ps, s', hrun, hsolo, s'.2⟩

namespace Computer
variable {media : Media} (hb : media.Fits bound)

theorem iso_reads (image : Image cells) :
    (IsoLib.ofLibrary (keeps media hb) image).Reads media.disc where
  count _ _ := rfl
  block lsn _ := blockOf_toList (media.disc lsn.toInt)

theorem udf_shares (u : Filesystem cells) :
    (UdfLib.ofLibrary (keeps media hb) u).SharesPosition (fun s => s.1.position)
      fun e => media.file e.1 where
  setpos _ _ _ := rfl
  count _ _ := rfl
  block e s k hs := by
    have hblock := (UdfLib.ofFiles_shares media.file).block e.1 s.1.position k hs
    have hread : ((UdfLib.ofLibrary (keeps media hb) u).readBlock e s).1.2 =
        ((UdfLib.ofFiles media.file).readBlock e.1 s.1.position).1.2 := by
      simp only [UdfLib.ofLibrary, Opened.ask, computer, answer, reply, direntReply]
      exact blockOf_toList _
    rw [hread]
    exact hblock

theorem delivers_iso {image : Image cells} {entry : IsoEntry}
    (sectors : entry.lsn.toInt + entry.blocks < 2 ^ 31) (size : entry.blocks ≤ 2 ^ 31) :
    (FileReader.iso image entry).Delivers (keeps media hb) (entry.file media.disc) :=
  .iso (iso_reads hb image) sectors size

theorem delivers_udf {u : Filesystem cells} {entry : UdfEntry (Dirent cells u)}
    (length : (media.file entry.entry.1).length = entry.fileLength.toNat)
    (size : entry.fileLength.toNat < 2 ^ 63) :
    (FileReader.udf u entry).Delivers (keeps media hb) (media.file entry.entry.1) :=
  .udf (udf_shares hb u) length size

end Computer

section Concrete

def oneFile : Media := ⟨[], [], fun _ => Vector.replicate blockSize 7, fun _ => [1, 2, 3]⟩

theorem oneFile_fits : oneFile.Fits 3 := by decide

def openFiles : Cells := [isoCell 0, udfCell 0, (.dirent 0, .dirent 0)]

def bothReaders : Bool → FileReader openFiles
  | true => .udf ⟨0, .tail _ (.head _)⟩ ⟨⟨0, .tail _ (.tail _ (.head _))⟩, 3⟩
  | false => .iso ⟨0, .head _⟩ ⟨5000, 27⟩

def bothFiles : Bool → Bytes
  | true => oneFile.file 0
  | false => (IsoEntry.mk 5000 27).file oneFile.disc

def byTurns : List (Bool × Op UInt8) :=
  [(false, .read [0, 0]), (true, .read [0]), (false, .seek (.start 4999)), (true, .read [0, 0, 0]),
    (false, .read [0])]

theorem bothReaders_eq_solo : ∃ log ps s',
    runAll
        (fun i => (bothReaders i).op ⟨.w64, .w64, true⟩ (Computer.keeps oneFile oneFile_fits))
        byTurns (fun _ => 0)
        ⟨Computer.start openFiles, Computer.holds_start oneFile openFiles (by decide)⟩ =
          .ret (log, ps, s') ∧
      (∀ i, solo (fileStep (bothFiles i)) (ofAgent i byTurns) 0 = (ofAgent i log, ps i)) ∧
      Holds .free true openFiles ((computer oneFile).view s'.1) := by
  refine fileReaders_eq_solo rfl rfl (Computer.keeps oneFile oneFile_fits) bothReaders bothFiles
    ?_ byTurns _ ?_
  · intro i
    cases i with
    | true => exact Computer.delivers_udf oneFile_fits rfl (by decide)
    | false => exact Computer.delivers_iso oneFile_fits (by decide) (by decide)
  · intro i
    cases i with
    | true => exact ⟨trivial, trivial, trivial⟩
    | false => exact ⟨trivial, ⟨Int.natCast_nonneg _, by decide⟩, trivial, trivial⟩

end Concrete

end LibcdioRs
