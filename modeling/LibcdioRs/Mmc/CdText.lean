import LibcdioRs.Mmc.AdaptiveRead

/-!
# The CD-TEXT of a disc

`read_toc` on a device that holds one response, whatever its size, and what
`cd_text` makes of it. The length field counts the bytes after itself; the code
takes it for the number of bytes after the four of the header.
-/

namespace LibcdioRs

open Rust Parse ReadToc
set_option autoImplicit false

variable {σ : Type}

namespace ReadToc

section Header
variable {W : Winnow} (hW : W.AsDocumented)
include hW

theorem lengthField_accept (b0 b1 : UInt8) (rest : Bytes) :
    accept (W.context "READ TOC/PMA/ATIP header" W.beU16) (b0 :: b1 :: rest) =
      some (be16 b0 b1, rest) := by
  rw [hW.context, hW.beU16]
  rfl

theorem parseHeader_ok (b0 b1 c0 c1 : UInt8) {rest : Bytes}
    (h : (be16 b0 b1).toNat ≤ rest.length) :
    parseHeader W (b0 :: b1 :: c0 :: c1 :: rest) =
      .ret (.ok (c0, c1), rest.take (be16 b0 b1).toNat) := by
  have hlen := lengthField_accept hW b0 b1 (c0 :: c1 :: rest)
  have hfields : accept (W.context "READ TOC/PMA/ATIP header"
      (W.seq W.u8 (W.seq W.u8 (W.take (be16 b0 b1).toNat)))) (c0 :: c1 :: rest) =
        some ((c0, c1, rest.take (be16 b0 b1).toNat), rest.drop (be16 b0 b1).toNat) := by
    simp only [hW.context, hW.seq, hW.u8, hW.take]
    simp [Grammar.seq, Grammar.u8, Grammar.take, h]
  simp only [parseHeader, Act.bind_ok (parseNext_some hlen), Act.bind_ok (parseNext_some hfields)]
  rfl

theorem parseHeader_overrun (b0 b1 c0 c1 : UInt8) {rest : Bytes}
    (h : rest.length < (be16 b0 b1).toNat) :
    ∃ text input, parseHeader W (b0 :: b1 :: c0 :: c1 :: rest) =
      .ret (.error (.invalidResponse text), input) := by
  have hlen := lengthField_accept hW b0 b1 (c0 :: c1 :: rest)
  have hfields : accept (W.context "READ TOC/PMA/ATIP header"
      (W.seq W.u8 (W.seq W.u8 (W.take (be16 b0 b1).toNat)))) (c0 :: c1 :: rest) = none := by
    simp only [hW.context, hW.seq, hW.u8, hW.take]
    simp [Grammar.seq, Grammar.u8, Grammar.take, Nat.not_le_of_lt h]
  obtain ⟨e, he⟩ : ∃ e, parseNext (MmcTocError.ofContext W) _ _ =
    .ret (.error (.ofContext W e), _) := parseNext_none hfields
  refine ⟨W.text e, c0 :: c1 :: rest, ?_⟩
  simp only [parseHeader, Act.bind_ok (parseNext_some hlen), Act.bind_error he]
  rfl

variable {R : Bytes} {N : Nat} (hlen : 4 ≤ R.length) (hR : announced R = R.length - 2)
variable (hN : R.length + 2 ≤ N)
include hlen hR hN

/-- The header hands on the descriptors with two of the zeros after them. -/
theorem parseHeader_padded :
    ∃ fields, parseHeader W (padded R N) = .ret (.ok fields, R.drop 4 ++ [0, 0]) := by
  obtain ⟨k, hk⟩ : ∃ k, N - R.length = k + 2 := ⟨N - R.length - 2, by omega⟩
  rcases R with _ | ⟨b0, _ | ⟨b1, _ | ⟨b2, _ | ⟨b3, body⟩⟩⟩⟩
  case cons.cons.cons.cons =>
    have hn : (be16 b0 b1).toNat = body.length + 2 := hR
    have hroom : (be16 b0 b1).toNat ≤ (body ++ List.replicate (k + 2) (0 : UInt8)).length := by
      rw [hn]
      simp
    refine ⟨(b2, b3), ?_⟩
    rw [padded_of_le (by omega), hk]
    have h := parseHeader_ok hW b0 b1 b2 b3 hroom
    rw [hn, List.take_length_add_append, List.take_replicate, Nat.min_eq_left (by omega)] at h
    exact h
  all_goals simp at hlen

end Header

end ReadToc

namespace Mmc

section Framed
variable {m : Mmc σ} {R : Bytes} (hm : m.Holds R)
variable (hR : announced R = R.length - 2) (hmax : R.length ≤ 65533)
include hm hR hmax

/-- The response with zeros after it, at least the two that `read_toc` has room for. -/
theorem readToc_framed (s : σ) (hlo : 2 ≤ R.length) (format : ResponseFormat) :
    ∃ s', m.readToc format s = .ret (.ok (padded R (max 64 (R.length + 2))), s') := by
  have hsize : announced R + 4 = R.length + 2 := by omega
  obtain ⟨s', h⟩ := m.adaptiveRead_holds s format.cdb hm hlo
    (show announced R + 4 < 2 ^ 16 by omega) "buffer length is greater than two bytes"
  rw [hsize] at h
  exact ⟨s', readToc_ret h⟩

end Framed

/-- What `cd_text` does with the buffer. -/
theorem cdText_rest {W : Winnow} {B input : Bytes} {fields : UInt8 × UInt8}
    (hheader : parseHeader W B = .ret (.ok fields, input)) (hlen : 4 ≤ B.length) (s : σ) :
    (Act.onLocals (parseHeader W) B >>= fun x => Act.lift (drain B 4) >>= fun data =>
      pure (data.take x.2.length) : Act σ MmcTocError Bytes) s =
        .ret (.ok ((B.drop 4).take input.length), s) := by
  rw [Act.bind_ok (Act.onLocals_ok hheader s), drain_eq hlen, Act.lift_ret_bind_apply]
  rfl

def cdTextResponse (payload : Bytes) (r0 r1 : UInt8) : Bytes :=
  toBe16 (.ofNat (payload.length + 2)) ++ [r0, r1] ++ payload

section CdText
variable {W : Winnow} (hW : W.AsDocumented) {payload : Bytes} (hlen : payload.length ≤ 65529)
variable {m : Mmc σ} {s : σ}
include hW hlen

theorem cdText_holds (r0 r1 : UInt8) (hm : m.Holds (cdTextResponse payload r0 r1)) :
    ∃ s', m.cdText W s = .ret (.ok (payload ++ [0, 0]), s') := by
  have hsize : (cdTextResponse payload r0 r1).length = payload.length + 4 := by
    simp [cdTextResponse, toBe16]
  have hR : announced (cdTextResponse payload r0 r1) =
      (cdTextResponse payload r0 r1).length - 2 := by
    have hfield : announced (cdTextResponse payload r0 r1) =
        (UInt16.ofNat (payload.length + 2)).toNat := congrArg UInt16.toNat (be16_toBe16 _)
    rw [hfield, hsize, UInt16.toNat_ofNat']
    omega
  obtain ⟨s', hread⟩ := readToc_framed hm hR (by omega) s (by omega) .cdtext
  obtain ⟨fields, hheader⟩ := parseHeader_padded hW (by omega) hR (Nat.le_max_right 64 _)
  obtain ⟨k, hk⟩ : ∃ k, max 64 ((cdTextResponse payload r0 r1).length + 2) -
      (cdTextResponse payload r0 r1).length = 2 + k := Nat.exists_eq_add_of_le (by omega)
  have hdata : (padded (cdTextResponse payload r0 r1)
      (max 64 ((cdTextResponse payload r0 r1).length + 2))).drop 4 =
        payload ++ [0, 0] ++ List.replicate k 0 := by
    rw [padded_of_le (by omega), hk, ← List.replicate_append_replicate, List.append_assoc]
    rfl
  refine ⟨s', ?_⟩
  rw [cdText, Act.bind_ok hread]
  apply (cdText_rest hheader (by rw [length_padded]; omega) s').trans
  rw [hdata]
  exact congrArg (fun data => Exec.ret (Except.ok data, s')) List.take_left

end CdText

/-- Two bytes that the device did not send follow every CD-TEXT, which is never returned as
it is. -/
theorem cdText_never_exact (W : Winnow) (hW : W.AsDocumented) (m : Mmc σ) (s : σ) (payload : Bytes)
    (r0 r1 : UInt8) (hlen : payload.length ≤ 65529) (hm : m.Holds (cdTextResponse payload r0 r1)) :
    (∃ s', m.cdText W s = .ret (.ok (payload ++ [0, 0]), s')) ∧
      ∀ s', m.cdText W s ≠ .ret (.ok payload, s') := by
  obtain ⟨s₁, h⟩ := cdText_holds (s := s) hW hlen r0 r1 hm
  refine ⟨⟨s₁, h⟩, ?_⟩
  intro s' hexact
  rw [h] at hexact
  simp at hexact

section Concrete

theorem cdText_empty :
    (holding (cdTextResponse [] 0 0)).cdText .plain () = .ret (.ok [0, 0], ()) ∧
      (holding (cdTextResponse [] 0 0)).cdText .plain () ≠ .ret (.ok [], ()) := by
  decide +kernel

theorem cdText_three :
    (∃ s', (holding (cdTextResponse [7, 8, 9] 1 1)).cdText .plain () =
        .ret (.ok ([7, 8, 9] ++ [0, 0]), s')) ∧
      ∀ s', (holding (cdTextResponse [7, 8, 9] 1 1)).cdText .plain () ≠ .ret (.ok [7, 8, 9], s') :=
  cdText_never_exact .plain Winnow.plain_asDocumented (holding (cdTextResponse [7, 8, 9] 1 1)) ()
    [7, 8, 9] 1 1 (by decide) (holding_holds _)

end Concrete

end Mmc

end LibcdioRs
