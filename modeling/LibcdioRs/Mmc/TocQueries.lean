import LibcdioRs.Mmc.CdText
import LibcdioRs.Shared.FixedSize

/-!
# The type and the last sector of a disc

`cd_type` and `last_sector` on a device that holds one response of any size.
Each reads one descriptor after the header, wherever the first 64 bytes end.
-/

namespace LibcdioRs

open Rust Parse ReadToc
set_option autoImplicit false

variable {σ α β : Type}

/-- What a query answers: `Ok` exactly when `Valid`, with a value that satisfies `Value`. -/
structure TocAnswer (Valid : Prop) (Value : α → Prop) (r : Except MmcTocError α) : Prop where
  ok_iff : (∃ v, r = .ok v) ↔ Valid
  value_of_ok : ∀ v, r = .ok v → Value v
  invalid : (∀ v, r ≠ .ok v) → ∃ text, r = .error (.invalidResponse text)

theorem tocAnswer_ok {Valid : Prop} {Value : α → Prop} {v : α} (h : Valid) (hv : Value v) :
    TocAnswer Valid Value (.ok v) where
  ok_iff := iff_of_true ⟨v, rfl⟩ h
  value_of_ok
    | _, rfl => hv
  invalid h := absurd rfl (h v)

theorem tocAnswer_error {Valid : Prop} {Value : α → Prop} (h : ¬ Valid) (text : String) :
    TocAnswer Valid Value (.error (.invalidResponse text) : Except MmcTocError α) where
  ok_iff := iff_of_false nofun h
  value_of_ok := nofun
  invalid _ := ⟨text, rfl⟩

namespace ReadToc

section Descriptor
variable {W : Winnow} (hW : W.AsDocumented)
include hW

theorem adrAndControl_accept :
    accept (adrAndControl W) = .byteOf fun b => (b >>> 4, b &&& 15) := by
  rw [adrAndControl, hW.bits, hW.seq, hW.bitsTake, Grammar.bits_nibbles]

end Descriptor

end ReadToc

namespace CdType

theorem exists_tryFrom_iff (b : UInt8) :
    (∃ t, tryFrom CdType b.toNat = some t) ↔ b = 0x00 ∨ b = 0x10 ∨ b = 0x20 := by
  constructor
  · intro hsome
    rcases hsome with ⟨t, ht⟩
    have hcode : t.code = b := UInt8.toNat.inj (tryFrom_eq_some_iff.mp ht)
    cases t with
    | cddaOrCdData => exact .inl hcode.symm
    | cdi => exact .inr (.inl hcode.symm)
    | cdromXa => exact .inr (.inr hcode.symm)
  · intro hcode
    rcases hcode with rfl | rfl | rfl
    · exact ⟨cddaOrCdData, by decide⟩
    · exact ⟨cdi, by decide⟩
    · exact ⟨cdromXa, by decide⟩

end CdType

/-- `saturating_sub(1)` -/
theorem toNat_saturatingSubOne (n : UInt32) :
    (if n = 0 then 0 else n - 1 : UInt32).toNat = n.toNat - 1 := by
  by_cases h : n = 0
  · subst h
    rfl
  · have hone : 1 ≤ n.toNat := Nat.one_le_iff_ne_zero.mpr fun hn => h (UInt32.toNat.inj hn)
    have hle : (1 : UInt32) ≤ n := UInt32.le_iff_toNat_le.mpr hone
    rw [if_neg h, UInt32.toNat_sub_of_le _ _ hle]
    rfl

namespace Mmc

section Queries
variable {W : Winnow} {m : Mmc σ} {R : Bytes} (hm : m.Holds R)
variable (hR : announced R = R.length - 2) (hmax : R.length ≤ 65533)
include hm hR hmax

variable (hW : W.AsDocumented)
include hW

/-- A query that reads one descriptor after the header, and `f` of what it reads. -/
theorem query_framed {p : Parser Bytes W.ContextError β} {g : Grammar Bytes β} {size : Nat}
    {ok : Bytes → Prop} {value : Bytes → β} {b : β} {f : β × Bytes → Act σ MmcTocError α}
    {Read Valid : Prop} {Value : α → Prop} (hsize : 4 + size ≤ R.length) (hp : accept p = g)
    (hreads : Reads g size ok value) (hok : ok ((R.drop 4).take size) ↔ Read)
    (hb : value ((R.drop 4).take size) = b) (hread : Valid → Read)
    (hf : Read → ∀ rest s, ∃ r, f (b, rest) s = .ret (r, s) ∧ TocAnswer Valid Value r)
    (format : ResponseFormat) (s : σ) :
    ∃ r s', (m.readToc format >>= fun data =>
        Act.onLocals (parseHeader W >>= fun _ => parseNext (.ofContext W) p) data >>= f) s =
      .ret (r, s') ∧ TocAnswer Valid Value r := by
  obtain ⟨s', hdata⟩ := readToc_framed hm hR hmax s (by omega) format
  obtain ⟨fields, hheader⟩ := parseHeader_padded hW (by omega) hR (Nat.le_max_right 64 _)
  have hroom : size ≤ (R.drop 4).length := by
    rw [List.length_drop]
    omega
  rw [Act.bind_ok hdata]
  by_cases h : Read
  · have haccept := hreads.accepts_append hroom (hok.mpr h) [0, 0]
    rw [hb, ← hp] at haccept
    obtain ⟨r, hr, hanswer⟩ := hf h _ s'
    exact ⟨r, s', (Act.bind_ok (Act.onLocals_ok
      ((Act.bind_ok hheader _).trans (parseNext_some haccept)) s') f).trans hr, hanswer⟩
  · have hreject := hreads.rejects_append hroom (fun hx => h (hok.mp hx)) [0, 0]
    rw [← hp] at hreject
    obtain ⟨e, he⟩ := parseNext_none hreject
    exact ⟨_, s', Act.bind_error (Act.onLocals_error ((Act.bind_ok hheader _).trans he) s') f,
      tocAnswer_error (fun hv => h (hread hv)) _⟩

theorem cdType_framed (s : σ) (hlen : 15 ≤ R.length) :
    ∃ r s', m.cdType W s = .ret (r, s') ∧
      TocAnswer (R[7]! = 0xA0 ∧ R[11]! = 0 ∧ (R[13]! = 0x00 ∨ R[13]! = 0x10 ∨ R[13]! = 0x20))
        (fun t : CdType => t.code = R[13]!) r := by
  refine query_framed hm hR hmax hW
    (b := (R[4]!, (R[5]! >>> 4, R[5]! &&& 15), R[6]!, R[7]!, R[8]!, R[9]!, R[10]!, R[11]!,
      R[12]!, R[13]!, R[14]!)) (show 4 + 11 ≤ R.length by omega) ?_
    (Reads.u8.seq ((Reads.byteOf fun b => (b >>> 4, b &&& 15)).seq (Reads.u8.seq
      ((Reads.byte 0xA0).seq (Reads.u8.seq (Reads.u8.seq (Reads.u8.seq ((Reads.byte 0).seq
        (Reads.u8.seq (Reads.u8.seq .u8))))))))))
    (show _ ↔ R[7]! = 0xA0 ∧ R[11]! = 0 from ?_) ?_ ?_ ?_ _ s
  · simp only [hW.context, hW.seq, hW.u8, hW.verify, ReadToc.adrAndControl_accept hW]
  · rw [take_drop_eq_ofFn (show 4 + 11 ≤ R.length by omega)]
    simp
  · rw [take_drop_eq_ofFn (show 4 + 11 ≤ R.length by omega)]
    rfl
  · intro hvalid
    rcases hvalid with ⟨h7, h11, _⟩
    exact ⟨h7, h11⟩
  · rintro ⟨h7, h11⟩ rest s'
    cases htype : tryFrom CdType R[13]!.toNat with
    | some t =>
      refine ⟨.ok t, by simp only [htype]; rfl, tocAnswer_ok ?_ ?_⟩
      · exact ⟨h7, h11, (CdType.exists_tryFrom_iff _).mp ⟨t, htype⟩⟩
      · exact UInt8.toNat.inj (tryFrom_eq_some_iff.mp htype)
    | none =>
      refine ⟨_, by simp only [htype]; rfl, tocAnswer_error ?_ _⟩
      intro hvalid
      rcases hvalid with ⟨_, _, h13⟩
      obtain ⟨t, ht⟩ := (CdType.exists_tryFrom_iff _).mpr h13
      rw [htype] at ht
      cases ht

theorem lastSector_framed (s : σ) (hlen : 12 ≤ R.length) :
    ∃ r s', m.lastSector W s = .ret (r, s') ∧
      TocAnswer (R[6]! = 0xAA)
        (fun v : UInt32 => v.toNat = (be32 R[8]! R[9]! R[10]! R[11]!).toNat - 1) r := by
  refine query_framed hm hR hmax hW
    (b := (R[4]!, (R[5]! >>> 4, R[5]! &&& 15), R[6]!, R[7]!, be32 R[8]! R[9]! R[10]! R[11]!))
    (show 4 + 8 ≤ R.length by omega) ?_
    (Reads.u8.seq ((Reads.byteOf fun b => (b >>> 4, b &&& 15)).seq ((Reads.byte 0xAA).seq
      (Reads.u8.seq .beU32)))) (show _ ↔ R[6]! = 0xAA from ?_) ?_ id ?_ _ s
  · simp only [hW.context, hW.seq, hW.u8, hW.verify, hW.beU32, ReadToc.adrAndControl_accept hW]
    rfl
  · rw [take_drop_eq_ofFn (show 4 + 8 ≤ R.length by omega)]
    simp
  · rw [take_drop_eq_ofFn (show 4 + 8 ≤ R.length by omega)]
    rfl
  · intro h6 rest s'
    exact ⟨_, rfl, tocAnswer_ok h6 (toNat_saturatingSubOne _)⟩

end Queries

/-- Both queries decode every complete response, whichever of the two commands brings it. -/
theorem tocQueries_exact (W : Winnow) (hW : W.AsDocumented) (m : Mmc σ) (s : σ) (R : Bytes)
    (hmax : R.length ≤ 65533) (hR : announced R = R.length - 2) (hm : m.Holds R) :
    (15 ≤ R.length → ∃ r s', m.cdType W s = .ret (r, s') ∧
      TocAnswer (R[7]! = 0xA0 ∧ R[11]! = 0 ∧ (R[13]! = 0x00 ∨ R[13]! = 0x10 ∨ R[13]! = 0x20))
        (fun t => t.code = R[13]!) r) ∧
    (12 ≤ R.length → ∃ r s', m.lastSector W s = .ret (r, s') ∧
      TocAnswer (R[6]! = 0xAA)
        (fun v => v.toNat = (be32 R[8]! R[9]! R[10]! R[11]!).toNat - 1) r) := by
  constructor
  · intro hlen
    exact cdType_framed hm hR hmax hW s hlen
  · intro hlen
    exact lastSector_framed hm hR hmax hW s hlen

section Concrete

/-- A response that both queries accept. -/
def bothAccept : Bytes := [0, 13, 1, 1, 1, 0x14, 0xAA, 0xA0, 0, 1, 0, 0, 1, 0x20, 0]

theorem tocQueries_bothAccept :
    (∃ r s', (holding bothAccept).cdType .plain () = .ret (r, s') ∧
      TocAnswer (bothAccept[7]! = 0xA0 ∧ bothAccept[11]! = 0 ∧
          (bothAccept[13]! = 0x00 ∨ bothAccept[13]! = 0x10 ∨ bothAccept[13]! = 0x20))
        (fun t => t.code = bothAccept[13]!) r) ∧
    ∃ r s', (holding bothAccept).lastSector .plain () = .ret (r, s') ∧
      TocAnswer (bothAccept[6]! = 0xAA)
        (fun v => v.toNat =
          (be32 bothAccept[8]! bothAccept[9]! bothAccept[10]! bothAccept[11]!).toNat - 1) r :=
  (tocQueries_exact .plain Winnow.plain_asDocumented (holding bothAccept) () bothAccept
    (by decide) (by decide) (holding_holds _)).imp (fun h => h (by decide)) fun h => h (by decide)

example : (holding bothAccept).cdType .plain () = .ret (.ok .cdromXa, ()) ∧
    (holding bothAccept).lastSector .plain () = .ret (.ok 65535, ()) := by
  decide +kernel

end Concrete

end Mmc

end LibcdioRs
