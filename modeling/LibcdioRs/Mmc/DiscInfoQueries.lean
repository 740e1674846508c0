import LibcdioRs.Mmc.AdaptiveRead

/-!
# Disc information on every device

A device that holds one response, and a device that stores anything at all. The
byte that `is_disc_erasable` inspects is there when the length field is not zero.
-/

namespace LibcdioRs

open Rust
set_option autoImplicit false

variable {σ : Type}

namespace Mmc

/-- The device's response comes back whole and alone, in one command or two. -/
theorem readDiscInformation_exact (m : Mmc σ) (s : σ) (kind : DiscInfoKind) (R : Bytes)
    (hlo : 2 ≤ R.length) (hhi : R.length ≤ 65535) (hR : announced R = R.length - 2)
    (hm : m.Holds R) : ∃ s', m.readDiscInformation kind s = .ret (.ok R, s') := by
  have hsize : announced R + 2 = R.length := by omega
  obtain ⟨s', h⟩ := m.adaptiveRead_holds s kind.cdb hm hlo (show announced R + 2 < 2 ^ 16 by omega)
    "initial buffer length is greater than two bytes"
  refine ⟨s', ?_⟩
  rw [readDiscInformation_ret h, hsize]
  change Exec.ret (Except.ok ((padded R (max 64 R.length)).take R.length), s') = _
  rw [take_padded (Nat.le_max_right _ _)]

theorem readDiscInformation_exact_grown :
    ∃ s', (holding ([0, 68] ++ List.replicate 68 7)).readDiscInformation .trackResources () =
      .ret (.ok ([0, 68] ++ List.replicate 68 7), s') :=
  readDiscInformation_exact (holding ([0, 68] ++ List.replicate 68 7)) () .trackResources
    ([0, 68] ++ List.replicate 68 7) (by decide) (by decide) (by decide) (holding_holds _)

/-- The length of what `read_disc_information` returns is what the first answer announces. -/
theorem readDiscInformation_sat (m : Mmc σ) (s : σ) (kind : DiscInfoKind) :
    (m.readDiscInformation kind s).Sat
      (Act.post
        (fun data _ => ∃ buf, m.firstAnswer kind.cdb s = some buf ∧
          data.length = announced buf + 2)
        fun _ _ => ∀ buf, m.firstAnswer kind.cdb s = some buf → 62 < announced buf)
      fun _ => False := by
  obtain ⟨⟨r, s'⟩, h, hpost⟩ := (m.adaptiveRead_sat s kind.cdb
    "initial buffer length is greater than two bytes" (show 2 ≤ 2 ^ 16 by decide)).exists_ret
      (fun _ => id)
  rw [readDiscInformation_ret h]
  cases r with
  | error e =>
    intro buf hbuf
    have := hpost buf hbuf
    omega
  | ok x =>
    obtain ⟨hlen, buf, hbuf, hsize⟩ := hpost
    refine ⟨buf, hbuf, ?_⟩
    rw [List.length_take, hlen, hsize]
    omega

/-- `is_disc_erasable` returns unless the length field of the first answer is zero. -/
theorem isDiscErasable_returns_iff (m : Mmc σ) (s : σ) :
    (m.isDiscErasable s).ReturnsIff
      (∀ buf, m.firstAnswer DiscInfoKind.standard.cdb s = some buf → announced buf ≠ 0) := by
  obtain ⟨⟨r, s'⟩, h, hpost⟩ := (m.readDiscInformation_sat s .standard).exists_ret (fun _ => id)
  cases r with
  | error e =>
    rw [isDiscErasable, Act.bind_error h]
    apply Exec.returnsIff_ret
    intro buf hbuf
    have := hpost buf hbuf
    omega
  | ok data =>
    obtain ⟨buf, hbuf, hlen⟩ := hpost
    rw [isDiscErasable, Act.bind_ok h]
    by_cases hzero : announced buf = 0
    · rw [index_panic (by omega), Act.lift_panic_bind_apply]
      apply Exec.returnsIff_panic
      intro hall
      exact hall buf hbuf hzero
    · rw [index_eq (i := 2) (by omega), Act.lift_ret_bind_apply]
      apply Exec.returnsIff_ret
      intro buf' hbuf'
      rw [hbuf] at hbuf'
      cases hbuf'
      exact hzero

theorem isDiscErasable_no_data : (replying [0, 0]).isDiscErasable () = .panic .index := by
  decide +kernel

end Mmc

end LibcdioRs
