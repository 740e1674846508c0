import LibcdioRs.ReadToEnd
import LibcdioRs.FailedRead

/-!
# Reading a UDF file through its extents

`udf_read_block` returns the number of valid bytes, which is less than a block
where the extent that holds the position is shorter than one. The reader takes
every count but a whole block for an error.
-/

namespace LibcdioRs

open Rust Cursor
set_option autoImplicit false

variable {E σ : Type}

/-- The length of the extent that holds the position `p`. -/
def extentAt : List Nat → Nat → Nat
  | [], _ => 0
  | len :: extents, p => if p < len then len else extentAt extents (p - len)

/-- The extents of a file: none is empty, and all but the last are whole blocks. -/
structure Extents (block : Nat) (extents : List Nat) (fileLength : Nat) : Prop where
  total : extents.sum = fileLength
  nonempty : ∀ len ∈ extents, 0 < len
  whole : ∀ len ∈ extents.dropLast, block ∣ len

def LastIsBlock (block : Nat) (extents : List Nat) : Prop := ∀ len ∈ extents.getLast?, block ≤ len

/-- `setpos` sets the position, and a read stores the block that holds it and returns how many
of its bytes are valid. -/
structure UdfLib.ReadsExtents (L : UdfLib E σ) (position : σ → Int) (file : E → Bytes)
    (extents : E → List Nat) : Prop where
  setpos : ∀ e off s, position (L.setpos e off s).2 = off
  count : ∀ e s (p : Nat), position s = p → p < (file e).length →
    (L.readBlock e s).1.1 = (min blockSize (extentAt (extents e) p) : Nat)
  block : ∀ e s (p : Nat), position s = p → IsBlockOf (file e) (p / blockSize) (L.readBlock e s).1.2

section Extent
variable {block n : Nat} {extents : List Nat}

theorem extentAt_cons_of_lt {len p : Nat} (h : p < len) :
    extentAt (len :: extents) p = len := if_pos h

theorem extentAt_cons_add (len p : Nat) :
    extentAt (len :: extents) (len + p) = extentAt extents p := by
  rw [extentAt, if_neg (Nat.not_lt_of_le (Nat.le_add_right len p)), Nat.add_sub_cancel_left]

/-- Every block lies in an extent of a block's length at least exactly when the last extent has
that length. -/
theorem extentAt_blocks_iff (hblock : 0 < block) (h : Extents block extents n) :
    (∀ k, block * k < n → block ≤ extentAt extents (block * k)) ↔ LastIsBlock block extents := by
  obtain ⟨htotal, hnonempty, hwhole⟩ := h
  induction extents generalizing n with
  | nil =>
    subst htotal
    simp [LastIsBlock]
  | cons len extents ih =>
    have hpos := hnonempty len List.mem_cons_self
    rw [List.sum_cons] at htotal
    cases extents with
    | nil =>
      rw [List.sum_nil, Nat.add_zero] at htotal
      subst htotal
      constructor
      · intro hall len' hlen'
        cases hlen'
        have h0 := hall 0 hpos
        rwa [extentAt_cons_of_lt (by exact hpos)] at h0
      · intro hlast k hk
        rw [extentAt_cons_of_lt hk]
        exact hlast len rfl
    | cons len' extents =>
      obtain ⟨m, rfl⟩ : block ∣ len := hwhole len List.mem_cons_self
      have hrest := ih (n := (len' :: extents).sum) rfl
        (fun l hl => hnonempty l (List.mem_cons_of_mem _ hl))
        (fun l hl => hwhole l (List.mem_cons_of_mem _ hl))
      rw [LastIsBlock, List.getLast?_cons_cons, ← LastIsBlock, ← hrest, ← htotal]
      constructor
      · intro hall k hk
        have h := hall (m + k) (by rw [Nat.mul_add]; omega)
        rwa [Nat.mul_add, extentAt_cons_add] at h
      · intro hall k hk
        by_cases hfirst : block * k < block * m
        · rw [extentAt_cons_of_lt hfirst]
          exact Nat.le_mul_of_pos_right block (Nat.pos_of_mul_pos_left hpos)
        · have hm : m ≤ k := Nat.le_of_mul_le_mul_left (Nat.le_of_not_lt hfirst) hblock
          obtain ⟨k, rfl⟩ := Nat.exists_eq_add_of_le hm
          rw [Nat.mul_add] at hk ⊢
          rw [extentAt_cons_add]
          exact hall k (by omega)

end Extent

section Fetch
variable {T : Target} {L : UdfLib E σ} {entry : UdfEntry E}

theorem udf_runsLoop (T : Target) (L : UdfLib E σ) (entry : UdfEntry E) :
    RunsLoop (fun p => UdfEntryReader.read T L ⟨p, entry⟩) (T.asUsize entry.fileLength.toNat)
      (UdfEntryReader.fetch T L entry) := by
  intro p buf lib
  exact ⟨_, UdfEntryReader.read_eq T L entry p buf lib⟩

theorem offsetFits_iff {n : Nat} :
    (∀ q, q < n → OffsetFits T (q / blockSize) = true) ↔ n ≤ 2 ^ (T.offTWidth.bits - 1) := by
  have hbits : T.offTWidth.bits - 1 = 31 ∨ T.offTWidth.bits - 1 = 63 := by
    cases T.offTWidth with
    | w32 => exact .inl rfl
    | w64 => exact .inr rfl
  simp only [OffsetFits, decide_eq_true_eq]
  unfold blockSize
  constructor
  · intro h
    by_contra hlong
    have hlast := h (n - 1)
    rcases hbits with hbits | hbits <;> rw [hbits] at hlast hlong <;> omega
  · intro h q hq
    have := Nat.div_mul_le_self q 2048
    omega

variable {position : σ → Int} {file : E → Bytes} {extents : E → List Nat}
variable (hL : L.ReadsExtents position file extents)
  (hlen : (file entry.entry).length = entry.fileLength.toNat)
include hL hlen

theorem readsBlock_iff {k : Nat} (hk : k * blockSize < entry.fileLength.toNat) (lib : σ) :
    (L.readsBlock entry k lib).1 = true ↔
      blockSize ≤ extentAt (extents entry.entry) (blockSize * k) := by
  have hpos : position (L.setpos entry.entry (k * blockSize : Nat) lib).2 = (k * blockSize : Nat) :=
    hL.setpos _ _ _
  have hcount := hL.count entry.entry _ _ hpos (by omega)
  rw [UdfLib.readsBlock, hcount, beq_iff_eq, Nat.mul_comm k, Nat.cast_inj, min_eq_left_iff]

theorem udf_fetches : Fetches (T.asUsize entry.fileLength.toNat) (UdfEntryReader.fetch T L entry)
    (fun k => OffsetFits T k = true ∧
      blockSize ≤ extentAt (extents entry.entry) (blockSize * k)) True True := by
  have hasks := udf_asksLib (T := T) L entry
  have hstart : ∀ q, q < T.asUsize entry.fileLength.toNat →
      q / blockSize * blockSize < entry.fileLength.toNat := by
    intro q hq
    have hle := T.asUsize_le entry.fileLength.toNat
    have hq' := Nat.div_mul_le_self q blockSize
    omega
  constructor
  · intro q hq hgood lib
    obtain ⟨block, hb⟩ := hasks.ok q lib hq hgood.1
      ((readsBlock_iff hL hlen (hstart q hq) lib).mpr hgood.2)
    exact ⟨block, _, hb⟩
  · intro q hq hbad lib
    cases ha : OffsetFits T (q / blockSize) with
    | false => exact .inr ⟨trivial, hasks.panic q lib hq ha⟩
    | true =>
      have hcall : (L.readsBlock entry (q / blockSize) lib).1 = false := by
        rw [Bool.eq_false_iff]
        intro hc
        exact hbad ⟨ha, (readsBlock_iff hL hlen (hstart q hq) lib).mp hc⟩
      obtain ⟨e, he⟩ := hasks.error q lib hq ha hcall
      exact .inl ⟨trivial, e, _, he⟩

theorem udf_extent_serves {q : Nat} (hq : q < T.asUsize entry.fileLength.toNat)
    (hoff : OffsetFits T (q / blockSize) = true)
    (hext : blockSize ≤ extentAt (extents entry.entry) (blockSize * (q / blockSize))) :
    Serves (file entry.entry) (UdfEntryReader.fetch T L entry) q := by
  intro lib
  have hset := setPosition_apply L entry (blockOffset_lt hq) (of_decide_eq_true hoff) lib
  let lib₁ := (L.setpos entry.entry (q / blockSize * blockSize : Nat) lib).2
  have hpos : position lib₁ = (q / blockSize * blockSize : Nat) := hL.setpos _ _ _
  have hle := T.asUsize_le entry.fileLength.toNat
  have hstart := Nat.div_mul_le_self q blockSize
  have hcount := hL.count entry.entry lib₁ _ hpos (by omega)
  rw [Nat.mul_comm (q / blockSize), Nat.min_eq_left hext] at hcount
  have hblock := hL.block entry.entry lib₁ _ hpos
  rw [Nat.mul_div_cancel _ (by decide)] at hblock
  refine ⟨(L.readBlock entry.entry lib₁).1.2, (L.readBlock entry.entry lib₁).2, ?_, hblock⟩
  simp only [UdfEntryReader.fetch, Act.bind_ok hset, Act.call_bind_apply]
  rw [if_neg (fun h => h hcount)]
  rfl

end Fetch

/-- A UDF file is read to its end, without an error, exactly when its last extent has the length
of a block, if there is one, and the target's `usize` and `off_t` can hold its length. -/
theorem udf_readToEnd_iff (T : Target) (L : UdfLib E σ) (position : σ → Int) (file : E → Bytes)
    (extents : E → List Nat) (hL : L.ReadsExtents position file extents) (entry : UdfEntry E)
    (hlen : (file entry.entry).length = entry.fileLength.toNat)
    (hext : Extents blockSize (extents entry.entry) entry.fileLength.toNat) (bufs : Nat → Bytes)
    (hbufs : ∀ i, bufs i ≠ []) (fuel : Nat) (hfuel : entry.fileLength.toNat < fuel) (lib : σ) :
    readToEnd (fun p => UdfEntryReader.read T L ⟨p, entry⟩) bufs fuel 0 entry.reader.bytesRead lib =
        .ret (.ok (file entry.entry)) ↔
      LastIsBlock blockSize (extents entry.entry) ∧
        entry.fileLength.toNat < 2 ^ T.usizeBits ∧
        entry.fileLength.toNat ≤ 2 ^ (T.offTWidth.bits - 1) := by
  have hloop := udf_runsLoop T L entry
  constructor
  · intro hread
    have hle := T.asUsize_le entry.fileLength.toNat
    have hsat := readToEnd_counts hloop (udf_fetches (T := T) hL hlen) hbufs fuel 0
      entry.reader.bytesRead lib (by omega)
    rw [hread] at hsat
    rcases hsat with ⟨bs, hbs, hcount, hnone⟩ | ⟨⟨e, he⟩, _⟩
    · cases hbs
      have hsize : T.asUsize entry.fileLength.toNat = entry.fileLength.toNat := by
        change _ = _ - 0 at hcount
        omega
      have hgood : ∀ q, q < entry.fileLength.toNat → OffsetFits T (q / blockSize) = true ∧
          blockSize ≤ extentAt (extents entry.entry) (blockSize * (q / blockSize)) := by
        intro q hq
        by_contra hbad
        exact hnone ⟨q, Nat.zero_le q, by omega, hbad⟩
      refine ⟨(extentAt_blocks_iff (by decide) hext).mp ?_, ?_, ?_⟩
      · intro k hk
        have h := (hgood (blockSize * k) hk).2
        rwa [Nat.mul_div_cancel_left k (by decide)] at h
      · rw [← hsize]
        exact Nat.mod_lt _ (Nat.two_pow_pos _)
      · apply offsetFits_iff.mp
        intro q hq
        exact (hgood q hq).1
    · cases he
  · intro hgood
    rcases hgood with ⟨hlast, husize, hoff⟩
    have hsize : T.asUsize entry.fileLength.toNat = entry.fileLength.toNat := Nat.mod_eq_of_lt husize
    rw [hsize, ← hlen] at hloop
    refine readToEnd_served hloop ?_ hbufs fuel 0 0 lib (by omega)
    intro q hq
    rw [hlen] at hq
    have hstart := Nat.mul_div_le q blockSize
    exact udf_extent_serves hL hlen (by rwa [hsize]) (offsetFits_iff.mpr hoff q hq)
      ((extentAt_blocks_iff (by decide) hext).mpr hlast _ (by omega))

section Concrete

def UdfLib.ofExtents (file : E → Bytes) (extents : E → List Nat) : UdfLib E Int where
  setpos _ offset _ := (0, offset)
  readBlock e position :=
    (((min blockSize (extentAt (extents e) position.toNat) : Nat),
      .ofFn fun i => (file e).getD (position.toNat / blockSize * blockSize + i) 0), position)

theorem UdfLib.ofExtents_reads (file : E → Bytes) (extents : E → List Nat) :
    (UdfLib.ofExtents file extents).ReadsExtents id file extents where
  setpos _ _ _ := rfl
  count e s p hs _ := by
    have hp : s = p := hs
    subst hp
    rfl
  block e s p hs := by
    intro i h h'
    have hp : s = p := hs
    subst hp
    simp [UdfLib.ofExtents, h']

def longFile : Bytes := List.replicate 6200 7

/-- Two extents, the second of which is no whole number of blocks. -/
theorem longFile_readToEnd :
    readToEnd (fun p => UdfEntryReader.read ⟨.w64, .w64, true⟩
        (.ofExtents (fun _ => longFile) fun _ => [2048, 4152]) ⟨p, ⟨(), 6200⟩⟩)
      (fun _ => [0, 0, 0]) 6201 0 0 5 = .ret (.ok longFile) := by
  refine (udf_readToEnd_iff ⟨.w64, .w64, true⟩ _ id (fun _ => longFile) (fun _ => [2048, 4152])
    (UdfLib.ofExtents_reads _ _) ⟨(), 6200⟩ List.length_replicate ⟨rfl, ?_, ?_⟩ _ ?_ 6201
    (by decide) 5).mpr ⟨?_, by decide, by decide⟩
  · simp
  · simp
  · intro i
    exact List.cons_ne_nil _ _
  · intro len hlen
    cases hlen
    decide

/-- A file of three bytes is never read. -/
theorem shortExtent_readToEnd :
    readToEnd (fun p => UdfEntryReader.read ⟨.w64, .w64, true⟩
        (.ofExtents (fun _ => [1, 2, 3]) fun _ => [3]) ⟨p, ⟨(), 3⟩⟩) (fun _ => [0, 0, 0]) 4 0 0 0 =
      .ret (.error ⟨"error reading udf block number: 0"⟩) := by
  decide +kernel

end Concrete

end LibcdioRs
