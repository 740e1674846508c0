import LibcdioRs.Mmc.FeatureDescriptor

/-!
# The descriptor loop

What `features` does with a whole response. The descriptor area of a response
is well formed when it is a run of descriptors that their decoders can read,
with at most three bytes left over; these are exactly the areas that the loop
gets through.
-/

namespace LibcdioRs

open Rust
set_option autoImplicit false

namespace FeatureDescriptor

def bytesOf (ds : List FeatureDescriptor) : Bytes := ds.flatMap bytes

def WellFormed (area : Bytes) : Prop :=
  ∃ ds stray, area = bytesOf ds ++ stray ∧ (∀ d ∈ ds, d.Decodable) ∧ stray.length < 4

@[simp] theorem bytesOf_nil : bytesOf [] = [] := rfl

@[simp] theorem bytesOf_cons (d : FeatureDescriptor) (ds : List FeatureDescriptor) :
    bytesOf (d :: ds) = d.bytes ++ bytesOf ds := List.flatMap_cons

theorem bytes_append_inj {d d' : FeatureDescriptor} {rest rest' : Bytes}
    (h : d.bytes ++ rest = d'.bytes ++ rest') : d = d' ∧ rest = rest' := by
  have hcode : readU16 (d.bytes ++ rest) = readU16 (d'.bytes ++ rest') := by rw [h]
  have hflags : index (d.bytes ++ rest) 2 = index (d'.bytes ++ rest') 2 := by rw [h]
  have hlength : index (d.bytes ++ rest) 3 = index (d'.bytes ++ rest') 3 := by rw [h]
  simp only [bytes, List.cons_append, readU16, be16_toBe16, Exec.ret.injEq] at hcode
  simp only [bytes, List.cons_append, index_cons_succ, index_cons_zero, Exec.ret.injEq]
    at hflags hlength
  have hlen : d.data.length = d'.data.length := by
    rw [← d.length_byte, ← d'.length_byte, hlength]
  have hbytes : d.bytes = d'.bytes ∧ rest = rest' := List.append_inj h (by simp [hlen])
  have hdata : d.data = d'.data := by
    simp only [bytes, List.cons.injEq] at hbytes
    exact hbytes.1.2.2.2.2
  obtain ⟨code, flags, data, _⟩ := d
  obtain ⟨code', flags', data', _⟩ := d'
  simp only at hcode hflags hdata
  subst hcode hflags hdata
  exact ⟨rfl, hbytes.2⟩

theorem exists_of_header {area : Bytes} (h : 4 ≤ area.length) :
    (∃ d rest, area = bytes d ++ rest) ∨
      ∃ k, index area 3 = .ret k ∧ area.length < k.toNat + 4 := by
  obtain ⟨b0, b1, flags, k, rest, rfl⟩ :
      ∃ b0 b1 flags k rest, area = b0 :: b1 :: flags :: k :: rest := by
    rcases area with _ | ⟨b0, _ | ⟨b1, _ | ⟨b2, _ | ⟨b3, rest⟩⟩⟩⟩ <;> simp at h ⊢
  by_cases hk : k.toNat ≤ rest.length
  · have hlen : (rest.take k.toNat).length = k.toNat := List.length_take_of_le hk
    have hk255 := k.toNat_lt
    refine .inl ⟨⟨be16 b0 b1, flags, rest.take k.toNat, by omega⟩, rest.drop k.toNat, ?_⟩
    obtain ⟨hhi, hlo⟩ := toBe16_be16 b0 b1
    simp only [bytes, hlen, hhi, hlo, UInt8.ofNat_toNat, List.cons_append, List.take_append_drop]
  · refine .inr ⟨k, rfl, ?_⟩
    simp only [List.length_cons]
    omega

theorem wellFormed_short {area : Bytes} (h : area.length < 4) : WellFormed area :=
  ⟨[], area, rfl, by simp, h⟩

theorem wellFormed_append_iff (d : FeatureDescriptor) (rest : Bytes) :
    WellFormed (d.bytes ++ rest) ↔ d.Decodable ∧ WellFormed rest := by
  constructor
  · intro hwf
    rcases hwf with ⟨ds, stray, heq, hdec, hstray⟩
    cases ds with
    | nil =>
      have hlen := congrArg List.length heq
      simp only [bytesOf_nil, List.nil_append, List.length_append, length_bytes] at hlen
      omega
    | cons d' ds =>
      rw [bytesOf_cons, List.append_assoc] at heq
      obtain ⟨rfl, rfl⟩ := bytes_append_inj heq
      refine ⟨hdec d List.mem_cons_self, ds, stray, rfl, ?_, hstray⟩
      intro e he
      exact hdec e (List.mem_cons_of_mem d he)
  · intro hparts
    rcases hparts with ⟨hd, ds, stray, rfl, hdec, hstray⟩
    refine ⟨d :: ds, stray, by rw [bytesOf_cons, List.append_assoc], ?_, hstray⟩
    intro e he
    rcases List.mem_cons.mp he with rfl | he
    · exact hd
    · exact hdec e he

theorem not_wellFormed_of_overrun {area : Bytes} {k : UInt8} (h4 : 4 ≤ area.length)
    (hk : index area 3 = .ret k) (hover : area.length < k.toNat + 4) : ¬ WellFormed area := by
  intro hwf
  rcases hwf with ⟨ds, stray, rfl, _, hstray⟩
  cases ds with
  | nil => simp only [bytesOf_nil, List.nil_append] at h4; omega
  | cons d ds =>
    rw [bytesOf_cons, List.append_assoc] at hk hover
    simp only [bytes, List.cons_append, index_cons_succ, index_cons_zero, Exec.ret.injEq] at hk
    rw [← hk, d.length_byte] at hover
    simp only [List.length_append, length_bytes] at hover
    omega

end FeatureDescriptor

namespace DtorLoop
open FeatureDescriptor

theorem guard_iff (dtors : Bytes) (st : DtorLoop) :
    guard dtors st = true ↔ st.i + 3 < dtors.length := by
  simp [guard]

section Round
variable {pre rest : Bytes} {d : FeatureDescriptor} {st : DtorLoop} (hi : st.i = pre.length)
include hi

theorem index_header : index (pre ++ d.bytes ++ rest) (st.i + 3) = .ret (.ofNat d.data.length) := by
  rw [hi, List.append_assoc, index_append_right]
  rfl

theorem slice_descriptor :
    slice (pre ++ d.bytes ++ rest) st.i (st.i + (d.data.length + 4)) = .ret d.bytes :=
  slice_append hi (by rw [hi, d.length_bytes])

theorem round_of_parse {o : Option MmcFeature} (ho : FeatureDtor.parse d.bytes = .ret o) :
    round (pre ++ d.bytes ++ rest) st =
      .ret (.ok (), ⟨st.i + d.bytes.length, st.features ++ o.toList⟩) := by
  simp only [round, Act.get_bind_apply, index_header hi, Act.lift_ret_bind_apply, d.length_byte,
    slice_descriptor hi, ho, d.length_bytes]
  cases o with
  | none => simp
  | some feature => simp

theorem round_of_panic {why : Panic} (h : FeatureDtor.parse d.bytes = .panic why) :
    round (pre ++ d.bytes ++ rest) st = .panic why := by
  simp only [round, Act.get_bind_apply, index_header hi, Act.lift_ret_bind_apply, d.length_byte,
    slice_descriptor hi, h, Act.lift_panic_bind_apply]

theorem round_overrun {area : Bytes} {k : UInt8} (hk : index area 3 = .ret k)
    (hover : area.length < k.toNat + 4) : round (pre ++ area) st = .panic .slice := by
  have hindex : index (pre ++ area) (st.i + 3) = .ret k := by
    rw [hi, index_append_right, hk]
  have hslice : slice (pre ++ area) st.i (st.i + (k.toNat + 4)) = .panic .slice := by
    apply slice_panic
    rw [List.length_append]
    omega
  simp only [round, Act.get_bind_apply, hindex, Act.lift_ret_bind_apply, hslice,
    Act.lift_panic_bind_apply]

end Round

/-- Where the loop stands: `pre` is behind it, and what lies ahead decides for the whole. -/
def AtBoundary (dtors : Bytes) (st : DtorLoop) : Prop :=
  ∃ pre area, dtors = pre ++ area ∧ st.i = pre.length ∧ (WellFormed area ↔ WellFormed dtors)

theorem round_sat {dtors : Bytes} {st : DtorLoop} (hst : AtBoundary dtors st)
    (hg : guard dtors st = true) :
    (round dtors st).Sat
      (Act.post (fun _ st' => AtBoundary dtors st' ∧
        dtors.length - st'.i < dtors.length - st.i) fun _ _ => False)
      fun _ => ¬ WellFormed dtors := by
  obtain ⟨pre, area, rfl, hi, hwf⟩ := hst
  have hlen := (guard_iff _ _).mp hg
  rw [List.length_append] at hlen
  have harea : 4 ≤ area.length := by omega
  rcases exists_of_header harea with ⟨d, rest, rfl⟩ | ⟨k, hk, hover⟩
  · rw [wellFormed_append_iff] at hwf
    have hparse := FeatureDtor.parse_returnsIff d
    cases hp : FeatureDtor.parse d.bytes with
    | ret o =>
      have hdec : d.Decodable := hparse.iff.mp ⟨o, hp⟩
      rw [← List.append_assoc, round_of_parse hi hp]
      refine ⟨⟨pre ++ d.bytes, rest, rfl, by simp [hi], ?_⟩, ?_⟩
      · rw [List.append_assoc, ← hwf]
        exact ⟨fun h => ⟨hdec, h⟩, fun h => h.2⟩
      · simp only [List.length_append, FeatureDescriptor.length_bytes] at hlen ⊢
        omega
    | panic why =>
      have hdec : ¬ d.Decodable := by
        intro h
        obtain ⟨o, ho⟩ := hparse.iff.mpr h
        rw [hp] at ho
        cases ho
      rw [← List.append_assoc, round_of_panic hi hp, List.append_assoc, ← hwf]
      intro hboth
      rcases hboth with ⟨h, _⟩
      exact hdec h
    | spin => exact absurd hp hparse.ne_spin
  · rw [round_overrun hi hk hover]
    rw [← hwf]
    exact not_wellFormed_of_overrun (by omega) hk hover

end DtorLoop

open FeatureDescriptor

theorem dtorLoop_returnsIff (dtors : Bytes) :
    (dtorLoop dtors ⟨0, []⟩).ReturnsIff (WellFormed dtors) := by
  have hstart : DtorLoop.AtBoundary dtors ⟨0, []⟩ := ⟨[], dtors, rfl, rfl, Iff.rfl⟩
  have hloop := Act.whileLoop_sat (fun st hst hg => DtorLoop.round_sat hst hg)
    (dtors.length + 1) _ hstart (by simp)
  refine .of_sat (hloop.mono ?_ fun _ h => h)
  rintro ⟨res, st⟩ hpost
  cases res with
  | ok _ =>
    obtain ⟨⟨pre, area, rfl, hi, hwf⟩, hg⟩ := hpost
    have hstop : ¬ st.i + 3 < (pre ++ area).length := by
      rw [← DtorLoop.guard_iff, hg]
      simp
    rw [List.length_append] at hstop
    exact hwf.mp (wellFormed_short (by omega))
  | error e => exact hpost.elim

def ParsesTo (ds : List FeatureDescriptor) (os : List (Option MmcFeature)) : Prop :=
  List.Forall₂ (fun d o => FeatureDtor.parse (bytes d) = .ret o) ds os

theorem exists_parsesTo {ds : List FeatureDescriptor} (h : ∀ d ∈ ds, d.Decodable) :
    ∃ os, ParsesTo ds os := by
  induction ds with
  | nil => exact ⟨[], .nil⟩
  | cons d ds ih =>
    obtain ⟨o, ho⟩ := (FeatureDtor.parse_returnsIff d).iff.mpr (h d List.mem_cons_self)
    obtain ⟨os, hos⟩ := ih fun e he => h e (List.mem_cons_of_mem d he)
    exact ⟨o :: os, .cons ho hos⟩

theorem dtorLoop_run {ds : List FeatureDescriptor} {os : List (Option MmcFeature)} {stray : Bytes}
    (hos : ParsesTo ds os) (hstray : stray.length < 4) :
    ∀ (pre : Bytes) (fs : List MmcFeature) (fuel : Nat), ds.length < fuel →
      ∃ i, Act.whileLoop (DtorLoop.guard (pre ++ (bytesOf ds ++ stray)))
          (DtorLoop.round (pre ++ (bytesOf ds ++ stray))) fuel ⟨pre.length, fs⟩ =
        .ret (.ok (), ⟨i, fs ++ os.filterMap id⟩) := by
  induction hos with
  | nil =>
    intro pre fs fuel hfuel
    obtain ⟨fuel, rfl⟩ := Nat.exists_eq_succ_of_ne_zero (Nat.ne_of_gt hfuel)
    have hstop : DtorLoop.guard (pre ++ ([] ++ stray)) ⟨pre.length, fs⟩ = false := by
      rw [Bool.eq_false_iff, ne_eq, DtorLoop.guard_iff]
      simp only [List.nil_append, List.length_append]
      omega
    refine ⟨pre.length, ?_⟩
    rw [bytesOf_nil, Act.whileLoop_stop hstop]
    simp
  | @cons d o ds os ho _ ih =>
    intro pre fs fuel hfuel
    obtain ⟨fuel, rfl⟩ := Nat.exists_eq_succ_of_ne_zero (Nat.ne_of_gt (Nat.zero_lt_of_lt hfuel))
    have hsplit :
        pre ++ (bytesOf (d :: ds) ++ stray) = pre ++ d.bytes ++ (bytesOf ds ++ stray) := by
      simp only [bytesOf_cons, List.append_assoc]
    have hguard :
        DtorLoop.guard (pre ++ d.bytes ++ (bytesOf ds ++ stray)) ⟨pre.length, fs⟩ = true := by
      rw [DtorLoop.guard_iff]
      simp only [List.length_append, length_bytes]
      omega
    obtain ⟨i, hi⟩ := ih (pre ++ d.bytes) (fs ++ o.toList) fuel (Nat.lt_of_succ_lt_succ hfuel)
    refine ⟨i, ?_⟩
    rw [hsplit, Act.whileLoop_next hguard (DtorLoop.round_of_parse rfl ho)]
    simp only [List.length_append] at hi ⊢
    rw [hi]
    cases o <;> simp

theorem length_le_bytesOf (ds : List FeatureDescriptor) : ds.length ≤ (bytesOf ds).length := by
  induction ds with
  | nil => exact Nat.le_refl 0
  | cons d ds ih =>
    simp only [bytesOf_cons, List.length_append, length_bytes, List.length_cons]
    omega

namespace Mmc
variable {σ : Type}

/-- What `mmc_get_configuration` returns and leaves in the zeroed buffer. -/
def configuration (m : Mmc σ) (s : σ) : Int32 × Bytes :=
  ((m.getConfiguration (List.replicate allocBufSize 0) getConfRetTypeZero startingFeatureNumber
      timeoutMillis s).1.1,
    overwrite (List.replicate allocBufSize 0)
      (m.getConfiguration (List.replicate allocBufSize 0) getConfRetTypeZero startingFeatureNumber
        timeoutMillis s).1.2)

def lengthField (buf : Bytes) : Nat :=
  (be32 (buf.getD 0 0) (buf.getD 1 0) (buf.getD 2 0) (buf.getD 3 0)).toNat

/-- The descriptors that the length field announces; it also counts four bytes of the header. -/
def descriptorArea (buf : Bytes) : Bytes := (buf.drop 8).take (lengthField buf - 4)

theorem length_configuration (m : Mmc σ) (s : σ) : (m.configuration s).2.length = 4096 := by
  rw [configuration, length_overwrite, List.length_replicate]
  rfl

theorem configuration_replying (d : Bytes) (h : d.length ≤ 4096) :
    ((replying d).configuration ()).2 = d ++ List.replicate (4096 - d.length) 0 := by
  rw [configuration, overwrite_of_le (by rw [List.length_replicate]; exact h), List.drop_replicate]
  rfl

theorem readU32_buffer {buf : Bytes} (hlen : buf.length = 4096) :
    ∃ len : UInt32, readU32 buf = .ret len ∧ len.toNat = lengthField buf := by
  rcases buf with _ | ⟨b0, _ | ⟨b1, _ | ⟨b2, _ | ⟨b3, rest⟩⟩⟩⟩ <;> simp at hlen
  exact ⟨be32 b0 b1 b2 b3, rfl, rfl⟩

section Descriptors
variable {T : Target} {buf : Bytes} (hlen : buf.length = 4096)
include hlen

theorem featureDescriptors_error (hfit : lengthField buf + 4 < 2 ^ T.usizeBits)
    (hlong : 4096 < lengthField buf + 4) (s : σ) :
    featureDescriptors T buf s = .ret (.error .mk, s) := by
  obtain ⟨len, hread, hval⟩ := readU32_buffer hlen
  simp only [featureDescriptors, hread, Act.lift_ret_bind_apply, T.asUsize_u32, hval,
    T.usize_eq hfit, hlen, if_pos hlong]
  rfl

theorem featureDescriptors_slice {expected bufEnd : Nat}
    (hexp : T.usize (lengthField buf + 4) = .ret expected) (hle : expected ≤ 4096)
    (hend : T.usize (8 + lengthField buf) = .ret bufEnd) (h4 : 4 ≤ bufEnd) (s : σ) :
    featureDescriptors T buf s = Act.lift (slice buf 8 (bufEnd - 4)) s := by
  obtain ⟨len, hread, hval⟩ := readU32_buffer hlen
  simp only [featureDescriptors, hread, Act.lift_ret_bind_apply, T.asUsize_u32, hval, hexp, hlen]
  rw [if_neg (by omega)]
  simp only [hend, Act.lift_ret_bind_apply, T.subUsize_eq h4]

theorem featureDescriptors_ok (h4 : 4 ≤ lengthField buf) (hfit : lengthField buf ≤ 4092) (s : σ) :
    featureDescriptors T buf s = .ret (.ok (descriptorArea buf), s) := by
  have h32 : 2 ^ 32 ≤ 2 ^ T.usizeBits := Nat.pow_le_pow_right (by decide) T.bits_le_usizeBits
  have harea : 8 + lengthField buf - 4 - 8 = lengthField buf - 4 := by omega
  rw [featureDescriptors_slice hlen (T.usize_eq (by omega)) (by omega) (T.usize_eq (by omega))
    (by omega), slice_eq (by omega) (by omega), harea]
  rfl

/-- A length field below four makes the slice end before it starts; one that leaves `usize`
with four added panics there, or wraps round to such a slice. -/
theorem featureDescriptors_panic (h : lengthField buf < 4 ∨ 2 ^ T.usizeBits ≤ lengthField buf + 4)
    (s : σ) : ∃ why, featureDescriptors T buf s = .panic why := by
  have h32 : 2 ^ 32 ≤ 2 ^ T.usizeBits := Nat.pow_le_pow_right (by decide) T.bits_le_usizeBits
  obtain ⟨len, hread, hval⟩ := readU32_buffer hlen
  have hlt : lengthField buf < 2 ^ T.usizeBits := hval ▸ T.u32_lt_usize len
  rcases h with h | h
  · refine ⟨.slice, ?_⟩
    rw [featureDescriptors_slice hlen (T.usize_eq (by omega)) (by omega) (T.usize_eq (by omega))
      (by omega), slice_panic (by omega)]
    rfl
  · cases hc : T.overflowChecks with
    | true =>
      refine ⟨.overflow, ?_⟩
      simp only [featureDescriptors, hread, Act.lift_ret_bind_apply, T.asUsize_u32, hval,
        T.usize_panic hc h, Act.lift_panic_bind_apply]
    | false =>
      have hexp : (lengthField buf + 4) % 2 ^ T.usizeBits =
          lengthField buf + 4 - 2 ^ T.usizeBits := by
        rw [Nat.mod_eq_sub_mod h, Nat.mod_eq_of_lt (by omega)]
      have hend : (8 + lengthField buf) % 2 ^ T.usizeBits =
          8 + lengthField buf - 2 ^ T.usizeBits := by
        rw [Nat.mod_eq_sub_mod (by omega), Nat.mod_eq_of_lt (by omega)]
      refine ⟨.slice, ?_⟩
      rw [featureDescriptors_slice hlen (T.usize_wrap hc _) (by omega) (T.usize_wrap hc _)
        (by omega), slice_panic (by omega)]
      rfl

end Descriptors

/-- Responses that `features` gets through: one that announces more than the buffer holds,
which it reports as an error, or one whose descriptors are well formed. -/
def Readable (T : Target) (buf : Bytes) : Prop :=
  4096 < lengthField buf + 4 ∧ lengthField buf + 4 < 2 ^ T.usizeBits ∨
    4 ≤ lengthField buf ∧ lengthField buf ≤ 4092 ∧ WellFormed (descriptorArea buf)

theorem collect_returnsIff {T : Target} {buf : Bytes} (hlen : buf.length = 4096) (s : σ) :
    ((featureDescriptors T buf >>= fun dtors => Act.onLocals (dtorLoop dtors) ⟨0, []⟩ >>= fun x =>
      pure x.2.features) s).ReturnsIff (Readable T buf) := by
  have h32 : 2 ^ 32 ≤ 2 ^ T.usizeBits := Nat.pow_le_pow_right (by decide) T.bits_le_usizeBits
  by_cases hbad : lengthField buf < 4 ∨ 2 ^ T.usizeBits ≤ lengthField buf + 4
  · obtain ⟨why, hpanic⟩ := featureDescriptors_panic hlen hbad s
    rw [Act.bind_panic hpanic]
    apply Exec.returnsIff_panic why
    unfold Readable
    rintro (h | h) <;> omega
  · by_cases hlong : 4096 < lengthField buf + 4
    · rw [Act.bind_error (featureDescriptors_error hlen (by omega) hlong s)]
      exact Exec.returnsIff_ret _ (.inl ⟨hlong, by omega⟩)
    · rw [Act.bind_ok (featureDescriptors_ok hlen (by omega) (by omega) s)]
      have hloop := dtorLoop_returnsIff (descriptorArea buf)
      refine (Act.onLocals_returnsIff hloop (fun x => x.2.features) s).congr ?_
      constructor
      · exact fun h => .inr ⟨by omega, by omega, h⟩
      · rintro (h | h)
        · exact absurd h.1 hlong
        · exact h.2.2

section Features
variable {T : Target} {m : Mmc σ} {s : σ}

theorem features_retval (h : (m.configuration s).1 ≠ 0) :
    ∃ s', m.features T s = .ret (.error .mk, s') := by
  simp only [configuration] at h
  simp only [features, Act.call_bind_apply, if_pos h, Act.fail_apply]
  exact ⟨_, rfl⟩

theorem features_success (h : (m.configuration s).1 = 0) :
    ∃ s', m.features T s = (featureDescriptors T (m.configuration s).2 >>= fun dtors =>
      Act.onLocals (dtorLoop dtors) ⟨0, []⟩ >>= fun x => pure x.2.features) s' := by
  simp only [configuration] at h ⊢
  simp only [features, Act.call_bind_apply, h, ne_eq, not_true_eq_false, if_false]
  exact ⟨_, rfl⟩

theorem features_returnsIff :
    (m.features T s).ReturnsIff ((m.configuration s).1 ≠ 0 ∨ Readable T (m.configuration s).2) := by
  by_cases hret : (m.configuration s).1 = 0
  · obtain ⟨s', hfeatures⟩ := features_success (T := T) hret
    rw [hfeatures]
    refine (collect_returnsIff (m.length_configuration s) s').congr ?_
    exact ⟨.inr, fun h => h.resolve_left fun hne => hne hret⟩
  · obtain ⟨s', hfeatures⟩ := features_retval (T := T) hret
    rw [hfeatures]
    exact Exec.returnsIff_ret _ (.inl hret)

end Features

/-- `features` gets through a response exactly when the device reports a failure or the
response is readable, and its loop always ends. -/
theorem features_returns_iff (T : Target) (m : Mmc σ) (s : σ) :
    ((∃ r, m.features T s = .ret r) ↔
      (m.configuration s).1 ≠ 0 ∨ Readable T (m.configuration s).2) ∧
    m.features T s ≠ .spin :=
  ⟨features_returnsIff.iff, features_returnsIff.ne_spin⟩

/-- A response without length, one with a Core descriptor that has no data, and one whose
descriptor runs past the reported data. -/
theorem features_panics :
    (replying []).features ⟨.w64, .w64, true⟩ () = .panic .slice ∧
    (replying [0, 0, 0, 8, 0, 0, 0, 0, 0, 1, 1, 0]).features ⟨.w64, .w64, true⟩ () =
      .panic (.expect "mmc data buffer should be sufficiently large") ∧
    (replying [0, 0, 0, 8, 0, 0, 0, 0, 0xFF, 0, 1, 1]).features ⟨.w64, .w64, true⟩ () =
      .panic .slice := by
  decide +kernel

theorem lengthField_append (len : UInt32) (rest : Bytes) :
    lengthField (toBe32 len ++ rest) = len.toNat :=
  congrArg UInt32.toNat (be32_toBe32 len)

theorem descriptorArea_append {len : UInt32} {header area : Bytes} (hheader : header.length = 4)
    (hlen : len.toNat = area.length + 4) (rest : Bytes) :
    descriptorArea (toBe32 len ++ (header ++ (area ++ rest))) = area := by
  have htoBe : (toBe32 len).length = 4 := rfl
  have hdrop : (toBe32 len ++ (header ++ (area ++ rest))).drop 8 = area ++ rest := by
    rw [← List.append_assoc]
    exact List.drop_left' (by rw [List.length_append, htoBe, hheader])
  rw [descriptorArea, lengthField_append, hdrop, hlen, Nat.add_sub_cancel]
  exact List.take_left

/-- The features of a response are what its descriptors parse to, in order, whatever follows
them and whatever else the buffer holds. -/
theorem features_eq_parse (T : Target) (m : Mmc σ) (s : σ) (ds : List FeatureDescriptor)
    (stray header rest : Bytes) (len : UInt32) (hdec : ∀ d ∈ ds, d.Decodable)
    (hstray : stray.length ≤ 3) (hheader : header.length = 4)
    (hlen : len.toNat = (bytesOf ds ++ stray).length + 4)
    (hfit : (bytesOf ds ++ stray).length ≤ 4088) (hret : (m.configuration s).1 = 0)
    (hbuf : (m.configuration s).2 = toBe32 len ++ (header ++ (bytesOf ds ++ stray ++ rest))) :
    ∃ os s', ParsesTo ds os ∧ m.features T s = .ret (.ok (os.filterMap id), s') := by
  obtain ⟨os, hos⟩ := exists_parsesTo hdec
  obtain ⟨s', hfeatures⟩ := features_success (T := T) hret
  have hsize := m.length_configuration s
  rw [hbuf] at hfeatures hsize
  have hfield := lengthField_append len (header ++ (bytesOf ds ++ stray ++ rest))
  have harea : featureDescriptors T (toBe32 len ++ (header ++ (bytesOf ds ++ stray ++ rest))) s' =
      .ret (.ok (bytesOf ds ++ stray), s') := by
    rw [featureDescriptors_ok hsize (by omega) (by omega), descriptorArea_append hheader hlen]
  have hfuel : ds.length < (bytesOf ds ++ stray).length + 1 := by
    have h := length_le_bytesOf ds
    rw [List.length_append]
    omega
  obtain ⟨i, hrun⟩ := dtorLoop_run hos (by omega : stray.length < 4) [] [] _ hfuel
  have hloop : dtorLoop (bytesOf ds ++ stray) ⟨0, []⟩ =
      .ret (.ok (), ⟨i, os.filterMap id⟩) := hrun
  refine ⟨os, s', hos, ?_⟩
  rw [hfeatures, Act.bind_ok harea, Act.bind_ok (Act.onLocals_ok hloop s')]
  rfl

section Concrete

def threeDescriptors : List FeatureDescriptor :=
  [⟨0x0001, 0x03, [0, 0, 0, 1, 9], by decide⟩, ⟨0x0010, 0x01, [8, 0], by decide⟩,
    ⟨0x0002, 0x07, [0x02], by decide⟩]

def threeResponse : Bytes :=
  toBe32 26 ++ ([0, 0, 0, 8] ++ (bytesOf threeDescriptors ++ [0xFF, 0xFF]))

theorem threeResponse_features :
    ∃ os s', ParsesTo threeDescriptors os ∧
      (replying threeResponse).features ⟨.w64, .w64, true⟩ () =
        .ret (.ok (os.filterMap id), s') := by
  have hbuf := configuration_replying threeResponse (by decide)
  rw [threeResponse, List.append_assoc, List.append_assoc, ← threeResponse] at hbuf
  exact features_eq_parse _ _ _ threeDescriptors [0xFF, 0xFF] [0, 0, 0, 8] _ 26 (by decide)
    (by decide) rfl (by decide) (by decide) rfl hbuf

end Concrete

end Mmc

end LibcdioRs
