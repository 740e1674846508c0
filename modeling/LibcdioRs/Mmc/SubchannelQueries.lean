import LibcdioRs.Mmc.SubchannelGrammar

/-!
# The four sub-channel queries

What each query answers to every response with ASCII text, and when a query
panics on a response: the codes are taken from the disc, and the queries expect
them to be UTF-8.
-/

namespace LibcdioRs

open Rust Parse ReadSubchannel
set_option autoImplicit false

variable {σ φ ε α : Type}

/-- What a query with a descriptor answers to the response `d`; `value` is its answer when it
accepts the response. -/
structure SubchannelRule.Answers (rule : SubchannelRule φ α) (d : Vector UInt8 24) (value : α)
    (r : Except MmcSubchannelError α) : Prop where
  ok_iff : (∃ v, r = .ok v) ↔ rule.Accepts d
  value_of_ok : ∀ v, r = .ok v → v = value
  invalid : (∀ v, r ≠ .ok v) → ∃ text, r = .error (.invalidResponse text)

structure AudioAnswers (d : Vector UInt8 24) (r : Except MmcAudioStatusError MmcAudioStatus) :
    Prop where
  invalid_iff : (∃ text, r = .error (.invalidResponse text)) ↔ ¬ HeaderAccepted d
  notSupported_iff : r = .error .notSupported ↔ HeaderAccepted d ∧ d[1]! = 0
  ok_iff : ∀ status, r = .ok status ↔
    HeaderAccepted d ∧ d[1]! ≠ 0 ∧ Discriminants.code status = d[1]!.toNat

/-- What `x` returns as `Ok`, `y` returns as well. -/
def SameOk (x y : Exec (Except ε α × σ)) : Prop :=
  ∀ v s, x = .ret (.ok v, s) → ∃ s', y = .ret (.ok v, s')

theorem optionalText_returnsIff (msg : String) (present : Bool) (text : Bytes) :
    (optionalText msg present text).ReturnsIff ¬ (present = true ∧ fromUtf8 text = none) := by
  cases present with
  | false =>
    apply Exec.returnsIff_ret
    intro hboth
    rcases hboth with ⟨hpresent, _⟩
    cases hpresent
  | true =>
    rw [optionalText, if_pos rfl, expectUtf8]
    cases htext : fromUtf8 text with
    | some text =>
      apply Exec.returnsIff_ret
      intro hboth
      rcases hboth with ⟨_, hnone⟩
      cases hnone
    | none =>
      apply Exec.returnsIff_panic
      intro h
      exact h ⟨rfl, rfl⟩

theorem optionalText_panic (msg : String) {text : Bytes} (h : fromUtf8 text = none) :
    optionalText msg true text = .panic (.expect msg) := by
  simp [optionalText, expectUtf8, h]

theorem optionalText_ascii (msg : String) (present : Bool) {text : Bytes} (h : Ascii text) :
    optionalText msg present text = .ret (if present then some (asciiText text) else none) := by
  cases present with
  | false => rfl
  | true => simp [optionalText, expectUtf8, fromUtf8_ascii h]

namespace Mmc

section Queries
variable {W : Winnow} {m : Mmc σ} {s : σ} {d : Vector UInt8 24}
variable (hW : W.AsDocumented) (hm : m.AnswersWith s d.toList)
include hW hm

section Descriptor
variable {descriptor : Act Bytes MmcSubchannelError α} {rule : SubchannelRule φ α}
variable (hdesc : Describes descriptor rule d)
include hdesc

theorem subchannel_returnsIff {P : Prop} (hfinish : (rule.finish (rule.fields d)).ReturnsIff P)
    (addressFormat : AddressFormat) (param : SubchannelParameter) :
    (m.subchannel W addressFormat param descriptor s).ReturnsIff (rule.Accepts d → P) := by
  by_cases h : rule.Accepts d
  · obtain ⟨s', hs⟩ := subchannel_accepts hm hW hdesc h addressFormat param
    rw [hs]
    exact (hfinish.bind_ret _).congr ⟨fun hp _ => hp, fun hp => hp h⟩
  · obtain ⟨text, s', hs⟩ := subchannel_rejects hm hW hdesc h addressFormat param
    rw [hs]
    exact Exec.returnsIff_ret _ fun ha => absurd ha h

theorem subchannel_answers {value : α} (hfinish : rule.finish (rule.fields d) = .ret value)
    (addressFormat : AddressFormat) (param : SubchannelParameter) :
    ∃ r s', m.subchannel W addressFormat param descriptor s = .ret (r, s') ∧
      rule.Answers d value r := by
  by_cases h : rule.Accepts d
  · obtain ⟨s', hs⟩ := subchannel_accepts hm hW hdesc h addressFormat param
    rw [hfinish] at hs
    refine ⟨_, s', hs, iff_of_true ⟨value, rfl⟩ h, ?_, ?_⟩
    · intro v hv
      exact (Except.ok.inj hv).symm
    · intro hne
      exact absurd rfl (hne value)
  · obtain ⟨text, s', hs⟩ := subchannel_rejects hm hW hdesc h addressFormat param
    exact ⟨_, s', hs, iff_of_false nofun h, nofun, fun _ => ⟨text, rfl⟩⟩

theorem subchannel_sameOk {m' : Mmc σ} {s' : σ} {d' : Vector UInt8 24}
    (hm' : m'.AnswersWith s' d'.toList) (hdesc' : Describes descriptor rule d')
    (hhead : HeaderAccepted d') (hsize : rule.size ≤ subchannelLength d')
    (hfields : rule.fields d' = rule.fields d) (addressFormat : AddressFormat)
    (param : SubchannelParameter) :
    SameOk (m.subchannel W addressFormat param descriptor s)
      (m'.subchannel W addressFormat param descriptor s') := by
  intro v s₁ hok
  by_cases h : rule.Accepts d
  · obtain ⟨s₂, hs⟩ := subchannel_accepts hm hW hdesc h addressFormat param
    obtain ⟨s₃, hs'⟩ := subchannel_accepts hm' hW hdesc' ⟨hhead, hsize, hfields ▸ h.2.2⟩
      addressFormat param
    rw [hs] at hok
    rw [hfields] at hs'
    cases hv : rule.finish (rule.fields d) with
    | ret w =>
      rw [hv] at hok hs'
      cases hok
      exact ⟨s₃, hs'⟩
    | panic why => rw [hv] at hok; cases hok
    | spin => rw [hv] at hok; cases hok
  · obtain ⟨text, s₂, hs⟩ := subchannel_rejects hm hW hdesc h addressFormat param
    rw [hs] at hok
    cases hok

end Descriptor

theorem audioStatus_answers :
    ∃ r s', m.audioStatus W s = .ret (r, s') ∧ AudioAnswers d r := by
  obtain ⟨s', hdata⟩ := readSubchannel_answer hm .lba .cdCurrentPosition
  rw [audioStatus, Act.bind_ok (Act.mapError_ok hdata)]
  by_cases hhead : HeaderAccepted d
  · obtain ⟨status, hcode, hheader⟩ := parseHeader_accepts hW hhead
    rw [Act.bind_ok (Act.mapError_ok (Act.onLocals_ok hheader s'))]
    cases status with
    | none =>
      have hzero : d[1]! = 0 := UInt8.toNat.inj (nonZero_eq_none_iff.mp hcode.symm)
      refine ⟨_, s', rfl, ?_, iff_of_true rfl ⟨hhead, hzero⟩, ?_⟩
      · exact iff_of_false nofun (not_not.mpr hhead)
      · intro other
        exact iff_of_false nofun fun h => h.2.1 hzero
    | some status =>
      obtain ⟨hne, hcode⟩ := nonZero_eq_some_iff.mp hcode.symm
      have hzero : d[1]! ≠ 0 := fun h => hne (congrArg UInt8.toNat h)
      refine ⟨_, s', rfl, ?_, iff_of_false nofun fun h => hzero h.2, ?_⟩
      · exact iff_of_false nofun (not_not.mpr hhead)
      · intro other
        constructor
        · intro h
          cases h
          exact ⟨hhead, hzero, hcode.symm⟩
        · intro hstatus
          rcases hstatus with ⟨_, _, hother⟩
          rw [code_injective (hother.trans hcode)]
  · obtain ⟨text, rest, hheader⟩ := parseHeader_rejects hW hhead
    rw [Act.bind_error (Act.mapError_error (Act.onLocals_error hheader s'))]
    refine ⟨_, s', rfl, iff_of_true ⟨text, rfl⟩ hhead, ?_, ?_⟩
    · exact iff_of_false nofun fun h => hhead h.1
    · intro other
      exact iff_of_false nofun fun h => hhead h.1

theorem audioStatus_sameOk {m' : Mmc σ} {s' : σ} {d' : Vector UInt8 24}
    (hm' : m'.AnswersWith s' d'.toList) (hhead : HeaderAccepted d') (hstatus : d'[1]! = d[1]!) :
    SameOk (m.audioStatus W s) (m'.audioStatus W s') := by
  intro v s₁ hok
  obtain ⟨r, s₂, hr, hanswers⟩ := audioStatus_answers hW hm
  obtain ⟨r', s₃, hr', hanswers'⟩ := audioStatus_answers hW hm'
  rw [hok] at hr
  cases hr
  obtain ⟨_, hne, hcode⟩ := (hanswers.ok_iff v).mp rfl
  exact ⟨s₃, ((hanswers'.ok_iff v).mpr ⟨hhead, hstatus ▸ hne, hstatus ▸ hcode⟩) ▸ hr'⟩

end Queries

/-- For a response whose text is ASCII: what the four queries answer, and that an `Ok` of theirs
depends on nothing but the fields that they read. -/
theorem subchannelQueries_answer (W : Winnow) (hW : W.AsDocumented) (m : Mmc σ) (s : σ)
    (d : Vector UInt8 24) (hm : m.AnswersWith s d.toList) (hascii : Ascii (mcnText d))
    (t : TrackNumber) :
    ((∃ r s', m.audioStatus W s = .ret (r, s') ∧ AudioAnswers d r) ∧
      (∃ r s', m.mediaCatalogNumber W s = .ret (r, s') ∧
        mcnRule.Answers d (if bit d[8]! 7 then some (asciiText (mcnText d)) else none) r) ∧
      (∃ r s', m.isrc W t s = .ret (r, s') ∧
        (isrcRule t).Answers d (if bit d[8]! 7 then some (asciiText (isrcText d)) else none) r) ∧
      (∃ r s', m.cdCurrentPosition W s = .ret (r, s') ∧
        positionRule.Answers d
          ⟨d[6]!, d[7]!, ⟨d[8]!, d[9]!, d[10]!, d[11]!⟩, ⟨d[12]!, d[13]!, d[14]!, d[15]!⟩⟩ r)) ∧
    ∀ (m' : Mmc σ) (s' : σ) (d' : Vector UInt8 24), m'.AnswersWith s' d'.toList →
      HeaderAccepted d' →
      (d'[1]! = d[1]! → SameOk (m.audioStatus W s) (m'.audioStatus W s')) ∧
      (mcnRule.size ≤ subchannelLength d' → mcnRule.fields d' = mcnRule.fields d →
        SameOk (m.mediaCatalogNumber W s) (m'.mediaCatalogNumber W s')) ∧
      ((isrcRule t).size ≤ subchannelLength d' → (isrcRule t).fields d' = (isrcRule t).fields d →
        SameOk (m.isrc W t s) (m'.isrc W t s')) ∧
      (positionRule.size ≤ subchannelLength d' → positionRule.fields d' = positionRule.fields d →
        SameOk (m.cdCurrentPosition W s) (m'.cdCurrentPosition W s')) := by
  have hisrc : Ascii (isrcText d) := by
    intro b hb
    refine hascii b (List.mem_of_mem_take (?_ : b ∈ (mcnText d).take 12))
    rwa [mcnText, List.take_take]
  constructor
  · refine ⟨audioStatus_answers hW hm, ?_, ?_, ?_⟩
    · exact subchannel_answers hW hm (mcnDescriptor_describes hW)
        (optionalText_ascii _ _ hascii) _ _
    · exact subchannel_answers hW hm (isrcDescriptor_describes hW t)
        (optionalText_ascii _ _ hisrc) _ _
    · exact subchannel_answers hW hm (positionDescriptor_describes hW) rfl _ _
  · intro m' s' d' hm' hhead
    refine ⟨audioStatus_sameOk hW hm hm' hhead, ?_, ?_, ?_⟩
    · intro hsize hfields
      exact subchannel_sameOk hW hm (mcnDescriptor_describes hW) hm'
        (mcnDescriptor_describes hW) hhead hsize hfields _ _
    · intro hsize hfields
      exact subchannel_sameOk hW hm (isrcDescriptor_describes hW t) hm'
        (isrcDescriptor_describes hW t) hhead hsize hfields _ _
    · intro hsize hfields
      exact subchannel_sameOk hW hm (positionDescriptor_describes hW) hm'
        (positionDescriptor_describes hW) hhead hsize hfields _ _

def mcnResponse : Vector UInt8 24 :=
  #v[0, 0x15, 0, 20, 0x02, 0, 0, 0, 0x80, 52, 48, 48, 54, 51, 56, 49, 51, 51, 51, 57, 51, 49, 0, 7]

theorem mcnResponse_number : ∃ s', (replying mcnResponse.toList).mediaCatalogNumber .plain () =
    .ret (.ok (some "4006381333931"), s') := by
  obtain ⟨⟨-, ⟨r, s', hr, h⟩, -⟩, -⟩ := subchannelQueries_answer .plain Winnow.plain_asDocumented
    (replying mcnResponse.toList) () mcnResponse (replying_answersWith _)
    (by decide) .default
  obtain ⟨v, rfl⟩ := h.ok_iff.mpr ⟨⟨by decide, .inr (by decide)⟩, by decide, by decide, by decide⟩
  rw [h.value_of_ok v rfl] at hr
  exact ⟨s', hr⟩

def CarriesMcn (d : Vector UInt8 24) : Prop := mcnRule.Accepts d ∧ bit d[8]! 7 = true

def CarriesIsrc (t : TrackNumber) (d : Vector UInt8 24) : Prop :=
  (isrcRule t).Accepts d ∧ bit d[8]! 7 = true

/-- No query panics, and a code that is no text is reported as an error. -/
structure CrashFree (W : Winnow) (m : Mmc σ) (s : σ) (t : TrackNumber) (d : Vector UInt8 24) :
    Prop where
  audioStatus : ∃ r, m.audioStatus W s = .ret r
  mediaCatalogNumber : ∃ r, m.mediaCatalogNumber W s = .ret r
  isrc : ∃ r, m.isrc W t s = .ret r
  cdCurrentPosition : ∃ r, m.cdCurrentPosition W s = .ret r
  mcn_error : CarriesMcn d → fromUtf8 (mcnText d) = none →
    ∃ e s', m.mediaCatalogNumber W s = .ret (.error e, s')
  isrc_error : CarriesIsrc t d → fromUtf8 (isrcText d) = none →
    ∃ e s', m.isrc W t s = .ret (.error e, s')

section Crashes
variable {W : Winnow} {m : Mmc σ} {s : σ} {d : Vector UInt8 24}
variable (hW : W.AsDocumented) (hm : m.AnswersWith s d.toList)
include hW hm

theorem mediaCatalogNumber_returnsIff :
    (m.mediaCatalogNumber W s).ReturnsIff ¬ (CarriesMcn d ∧ fromUtf8 (mcnText d) = none) := by
  have h := subchannel_returnsIff hW hm (mcnDescriptor_describes hW)
    (optionalText_returnsIff _ _ _) .lba .mcn
  apply h.congr
  rw [← not_and, ← and_assoc]
  rfl

theorem isrc_returnsIff (t : TrackNumber) :
    (m.isrc W t s).ReturnsIff ¬ (CarriesIsrc t d ∧ fromUtf8 (isrcText d) = none) := by
  have h := subchannel_returnsIff hW hm (isrcDescriptor_describes hW t)
    (optionalText_returnsIff _ _ _) .lba (.isrc t.number)
  apply h.congr
  rw [← not_and, ← and_assoc]
  rfl

theorem cdCurrentPosition_returns : ∃ r, m.cdCurrentPosition W s = .ret r := by
  have h := subchannel_returnsIff hW hm (positionDescriptor_describes hW)
    (Exec.returnsIff_ret _ trivial) .time .cdCurrentPosition
  exact h.iff.mpr fun _ => trivial

end Crashes

/-- The queries are free of crashes exactly when no accepted code is anything but UTF-8. -/
theorem crashFree_iff (W : Winnow) (hW : W.AsDocumented) (m : Mmc σ) (s : σ)
    (d : Vector UInt8 24) (hm : m.AnswersWith s d.toList) (t : TrackNumber) :
    CrashFree W m s t d ↔
      ¬ (CarriesMcn d ∧ fromUtf8 (mcnText d) = none) ∧
        ¬ (CarriesIsrc t d ∧ fromUtf8 (isrcText d) = none) := by
  constructor
  · intro h
    exact ⟨(mediaCatalogNumber_returnsIff hW hm).iff.mp h.mediaCatalogNumber,
      (isrc_returnsIff hW hm t).iff.mp h.isrc⟩
  · intro htexts
    rcases htexts with ⟨hmcn, hisrc⟩
    obtain ⟨r, s', hr, -⟩ := audioStatus_answers hW hm
    refine ⟨⟨_, hr⟩, ?_, ?_, cdCurrentPosition_returns hW hm, ?_, ?_⟩
    · exact (mediaCatalogNumber_returnsIff hW hm).iff.mpr hmcn
    · exact (isrc_returnsIff hW hm t).iff.mpr hisrc
    · intro hcarries hnone
      exact absurd ⟨hcarries, hnone⟩ hmcn
    · intro hcarries hnone
      exact absurd ⟨hcarries, hnone⟩ hisrc

section Concrete

theorem mcnResponse_crashFree :
    CrashFree .plain (replying mcnResponse.toList) () .default mcnResponse := by
  refine (crashFree_iff .plain Winnow.plain_asDocumented (replying mcnResponse.toList) ()
    mcnResponse (replying_answersWith _) .default).mpr ⟨?_, ?_⟩
  · intro hbad
    rcases hbad with ⟨_, hnone⟩
    have hascii : Ascii (mcnText mcnResponse) := by decide
    rw [fromUtf8_ascii hascii] at hnone
    cases hnone
  · rintro ⟨⟨⟨_, _, hformat, _⟩, _⟩, _⟩
    exact absurd hformat (by decide)

def scratchedMcn : Vector UInt8 24 := mcnResponse.set! 9 0xFF

def scratchedIsrc : Vector UInt8 24 :=
  #v[0, 0x15, 0, 20, 0x03, 0, 1, 0, 0x80, 0xFF, 0, 0, 0, 0, 0, 0, 0, 0, 0, 0, 0, 0, 0, 0]

theorem scratched_panics :
    (replying scratchedMcn.toList).mediaCatalogNumber .plain () =
        .panic (.expect "mcn should not contain non utf8 characters") ∧
      (replying scratchedIsrc.toList).isrc .plain .default () =
        .panic (.expect "isrc should not contain non utf8 characters") := by
  have hfirst : ¬ UInt8.IsUTF8FirstByte 0xFF := by decide
  constructor
  · obtain ⟨s', h⟩ := subchannel_accepts (replying_answersWith scratchedMcn.toList)
      Winnow.plain_asDocumented (mcnDescriptor_describes Winnow.plain_asDocumented)
      ⟨⟨by decide, .inr (by decide)⟩, by decide, by decide, by decide⟩ .lba .mcn
    have hfinish : mcnRule.finish (mcnRule.fields scratchedMcn) = .panic _ :=
      optionalText_panic _ (fromUtf8_eq_none hfirst)
    rw [hfinish] at h
    exact h
  · obtain ⟨s', h⟩ := subchannel_accepts (replying_answersWith scratchedIsrc.toList)
      Winnow.plain_asDocumented (isrcDescriptor_describes Winnow.plain_asDocumented .default)
      ⟨⟨by decide, .inr (by decide)⟩, by decide, by decide, by decide, by decide⟩ .lba (.isrc 1)
    have hfinish : (isrcRule .default).finish ((isrcRule .default).fields scratchedIsrc) =
        .panic _ := optionalText_panic _ (fromUtf8_eq_none hfirst)
    rw [hfinish] at h
    exact h

end Concrete

end Mmc

end LibcdioRs
