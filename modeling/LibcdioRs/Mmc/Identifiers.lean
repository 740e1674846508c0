import LibcdioRs.Mmc.Inquiry

/-!
# The identification of a drive

The standard INQUIRY data hold three texts in fields of fixed width, filled up
with spaces. What a drive puts there is what `hardware_identifiers` returns, and
no answer of a drive makes it panic.
-/

namespace LibcdioRs

open Rust
set_option autoImplicit false

variable {σ : Type}

/-- A text for a field of the given width. The drive fills the field up, so that white space at
an end could not be told from the filling. -/
structure Identifier (width : Nat) where
  text : String
  fits : (toUtf8 text).length ≤ width
  trimmed : Trimmed text.toList

namespace Identifier
variable {width : Nat} (a : Identifier width)

def field : Bytes := toUtf8 a.text ++ List.replicate (width - (toUtf8 a.text).length) 0x20

@[simp] theorem length_field : a.field.length = width := by
  rw [field, List.length_append, List.length_replicate]
  exact Nat.add_sub_cancel' a.fits

theorem trim_field : trim (fromUtf8Lossy a.field) = a.text := by
  rw [fromUtf8Lossy, field, lossyChars_toUtf8_append, lossyChars_spaces]
  exact trim_padded a.trimmed (by decide) _

end Identifier

/-- The standard INQUIRY data as far as the identification goes. `flags` are the eight bytes
before it. -/
def Inquiry.standardData (flags : Vector UInt8 8) (vendor : Identifier 8) (product : Identifier 16)
    (revision : Identifier 4) : Bytes :=
  flags.toList ++ vendor.field ++ product.field ++ revision.field

namespace Mmc
variable {m : Mmc σ} {s : σ}

theorem inquiry_eq (m : Mmc σ) (kind : InquiryKind) : ∃ buf : Bytes,
    buf.length = Inquiry.allocLen ∧
      m.inquiry kind = (m.runCommand (some .read) buf kind.cdb).mapError .os := by
  unfold inquiry
  generalize hbuf : (List.replicate Inquiry.allocLen (0 : UInt8)) = buf
  refine ⟨buf, ?_, rfl⟩
  rw [← hbuf]
  exact List.length_replicate

theorem inquiry_returns (m : Mmc σ) (s : σ) (kind : InquiryKind) :
    ∃ r s', m.inquiry kind s = .ret (r, s') ∧ ∀ buf, r = .ok buf → buf.length = 255 := by
  obtain ⟨buf, hlen, heq⟩ := m.inquiry_eq kind
  have h255 : buf.length = 255 := hlen
  obtain ⟨⟨r, s'⟩, hrun, hpost⟩ :=
    (m.runCommand_sat s (some .read) buf kind.cdb (by omega)).exists_ret fun _ => id
  refine ⟨_, s', heq ▸ Act.mapError_ret hrun, ?_⟩
  cases r with
  | error e =>
    intro buf' h
    cases h
  | ok buf' =>
    rintro _ ⟨⟩
    exact Eq.trans hpost h255

theorem inquiry_answer {d : Bytes} (hm : m.AnswersWith s d) (hd : d.length = 255)
    (kind : InquiryKind) : ∃ s', m.inquiry kind s = .ret (.ok d, s') := by
  obtain ⟨buf, hlen, heq⟩ := m.inquiry_eq kind
  obtain ⟨s', hrun⟩ :=
    runCommand_answer hm buf (Eq.trans hlen hd.symm) (by omega) (some .read) kind.cdb
  exact ⟨s', by rw [heq, Act.mapError_ok hrun]⟩

theorem identifier_eq {buf : Bytes} {first last : Nat} (hle : first ≤ last + 1)
    (hlen : last + 1 ≤ buf.length) :
    identifier buf first last =
      .ret (trim (fromUtf8Lossy ((buf.drop first).take (last + 1 - first)))) := by
  rw [identifier, slice_eq hle hlen]
  rfl

/-- What becomes of a response, by its format. -/
def identifiersOf (d : Bytes) : Except GetHardwareIdentifiersError HardwareIdentifiers :=
  let format := d.getD 3 0 &&& 0b1111
  let text (first len : Nat) : String := trim (fromUtf8Lossy ((d.drop first).take len))
  if format = 2 then .ok ⟨text 16 16, text 8 8, text 32 4⟩
  else .error ⟨.invalidResponse ("unsupported non-standard INQUIRY response format, " ++
    "got response data format of " ++ toString format.toNat)⟩

theorem identifiersOf_standardData {flags : Vector UInt8 8} (vendor : Identifier 8)
    (product : Identifier 16) (revision : Identifier 4) (rest : Bytes)
    (hformat : flags[3] &&& 0b1111 = 2) :
    identifiersOf (Inquiry.standardData flags vendor product revision ++ rest) =
      .ok ⟨product.text, vendor.text, revision.text⟩ := by
  -- every field is what is left of the data in front of it, as far as its width goes
  have hfield : ∀ {n : Nat} (pre post : Bytes) (a : Identifier n),
      ((pre ++ a.field ++ post).drop pre.length).take n = a.field := by
    intro n pre post a
    rw [List.append_assoc, List.drop_left, List.take_left' a.length_field]
  have hflags : flags.toList.length = 8 := Vector.length_toList
  have hv := hfield flags.toList (product.field ++ revision.field ++ rest) vendor
  have hp := hfield (flags.toList ++ vendor.field) (revision.field ++ rest) product
  have hr := hfield (flags.toList ++ vendor.field ++ product.field) rest revision
  have hf : (Inquiry.standardData flags vendor product revision ++ rest).getD 3 0 = flags[3] := by
    simp [Inquiry.standardData, List.getElem?_append, hflags]
  simp only [List.length_append, Identifier.length_field, hflags, ← List.append_assoc] at hv hp hr
  rw [identifiersOf, hf, if_pos hformat]
  simp only [Inquiry.standardData, hv, hp, hr, Identifier.trim_field]

theorem hardwareIdentifiers_eq {d : Bytes} {s' : σ} (hd : d.length = 255)
    (h : m.inquiry .standard s = .ret (.ok d, s')) :
    m.hardwareIdentifiers s = .ret (identifiersOf d, s') := by
  have hformat : index d 3 = .ret (d.getD 3 0) := by
    rw [index_eq (by omega), List.getD_eq_getElem _ _ (by omega)]
  simp only [hardwareIdentifiers, Act.bind_ok (Act.mapError_ok h), hformat, Act.lift_ret_bind_apply,
    identifiersOf]
  by_cases hf : d.getD 3 0 &&& 0b1111 = 2
  · simp only [if_neg (not_not_intro hf), if_pos hf, identifier_eq (show 8 ≤ 15 + 1 by decide)
      (show 15 + 1 ≤ d.length by omega), identifier_eq (show 16 ≤ 31 + 1 by decide)
      (show 31 + 1 ≤ d.length by omega), identifier_eq (show 32 ≤ 35 + 1 by decide)
      (show 35 + 1 ≤ d.length by omega), Act.lift_ret_bind_apply]
    rfl
  · simp only [if_pos hf, if_neg hf]
    rfl

/-- Whatever the drive does, `hardware_identifiers` and `is_mmc_device` return. -/
theorem inquiries_return (m : Mmc σ) (s : σ) :
    (∃ r, m.hardwareIdentifiers s = .ret r) ∧ ∃ r, m.isMmcDevice s = .ret r := by
  obtain ⟨r, s', hrun, hpost⟩ := m.inquiry_returns s .standard
  cases r with
  | error e =>
    exact ⟨⟨_, Act.bind_error (Act.mapError_error hrun) _⟩, _, Act.bind_error hrun _⟩
  | ok d =>
    have hlen := hpost d rfl
    refine ⟨⟨_, hardwareIdentifiers_eq hlen hrun⟩, ?_⟩
    have hindex := index_eq (show 0 < d.length by omega)
    simp only [isMmcDevice, Act.bind_ok hrun, Inquiry.isCdDvd, hindex]
    exact ⟨_, rfl⟩

end Mmc

end LibcdioRs
