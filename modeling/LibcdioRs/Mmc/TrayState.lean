import LibcdioRs.Mmc.EventQueries

/-!
# Supported events and the tray

`supported_events` asks for no class, so that the checks of the header let every
response pass that has a header at all. `is_tray_open` is what is left of the media
status.
-/

namespace LibcdioRs

open Rust Parse GetEventStatus
set_option autoImplicit false

variable {σ α β : Type}

/-- The tray is open when the first bit of the media status is set. -/
def trayRule : EventRule Bool where
  eventClass := mediaRule.eventClass
  size := mediaRule.size
  Valid := mediaRule.Valid
  Meets d open' := open' = bit d[5]! 0

namespace GetEventStatus

theorem parseHeader_empty {T : Target} {W : Winnow} {d : Vector UInt8 12} {n : Nat}
    (hW : W.AsDocumented) (hlen : eventLength d = n + 2) (hn : n ≤ 8) :
    parseHeader T W .empty d.toList =
      .ret (.ok (.fromBitsTruncate d[3]!), (d.toList.drop 4).take n) := by
  have hsome : headerGrammar d.toList = some (((bit d[2]! 7, d[2]! &&& 7), d[3]!,
      (d.toList.drop 4).take n), (d.toList.drop 4).drop n) := by
    nth_rewrite 1 [toList_header]
    exact headerGrammar_some hlen (by rwa [length_body])
  have hparse := (congrFun (header_accept hW) d.toList).trans hsome
  simp only [parseHeader, Act.bind_ok (parseNext_some hparse), Act.modify_bind_apply,
    T.shlU8_eq 1 (class_lt d[2]!)]
  rfl

/-- A header decides, whatever it says about the event that follows it. -/
theorem parseHeader_empty_checks {T : Target} {W : Winnow} (hW : W.AsDocumented)
    (d : Vector UInt8 12) : ∃ r rest, parseHeader T W .empty d.toList = .ret (r, rest) ∧
      Checks r (2 ≤ eventLength d ∧ eventLength d ≤ 10) fun v => v = .fromBitsTruncate d[3]! := by
  by_cases hlen : 2 ≤ eventLength d ∧ eventLength d ≤ 10
  · obtain ⟨n, hn⟩ := Nat.exists_eq_add_of_le' hlen.1
    refine ⟨_, _, parseHeader_empty hW hn (by omega), ?_⟩
    have hok : Checks (.ok (.fromBitsTruncate d[3]!)) True
        fun v : EventClass => v = .fromBitsTruncate d[3]! := .ok rfl
    exact hok.congr (iff_of_true trivial hlen)
  · obtain ⟨text, rest, hr⟩ := parseHeader_invalid (T := T) hW .empty hlen
    refine ⟨_, _, hr, ?_, nofun, ?_⟩
    · refine iff_of_false ?_ hlen
      rintro ⟨v, ⟨⟩⟩
    · rintro _ ⟨⟩
      exact ⟨text, rfl⟩

end GetEventStatus

/-- The answers of a query whose value is computed from another one's. -/
theorem EventRule.Answers.map {rule : EventRule α} {rule' : EventRule β} {d : Vector UInt8 12}
    {r : Except MmcStatusError α} (h : rule.Answers d r) (f : α → β)
    (hclass : rule'.eventClass = rule.eventClass) (hsize : rule'.size = rule.size)
    (hvalid : rule'.Valid = rule.Valid) (hmeets : ∀ v, rule.Meets d v → rule'.Meets d (f v)) :
    rule'.Answers d (f <$> r) := by
  cases r with
  | ok v =>
    refine ⟨?_, ?_, ?_, ?_⟩
    · rw [hclass]
      refine iff_of_false nofun ?_
      intro hnea
      exact nomatch h.unsupported_iff.mpr hnea
    · have hok := h.ok_iff.mp ⟨v, rfl⟩
      unfold EventRule.Asked at *
      rw [hclass, hsize, hvalid]
      exact iff_of_true ⟨f v, rfl⟩ hok
    · rintro _ ⟨⟩
      exact hmeets v (h.meets v rfl)
    · intro _ hno
      exact absurd rfl (hno (f v))
  | error e =>
    refine ⟨?_, ?_, nofun, ?_⟩
    · rw [hclass, ← h.unsupported_iff]
      exact ⟨fun he => congrArg _ (Except.error.inj he), fun he => congrArg _ (Except.error.inj he)⟩
    · have hok := h.ok_iff
      unfold EventRule.Asked at *
      rw [hclass, hsize, hvalid, ← hok]
      exact iff_of_false nofun nofun
    · intro hne _
      have hne' : e ≠ .eventNotSupported rule.eventClass := by
        rintro rfl
        exact hne (by rw [hclass]; rfl)
      obtain ⟨text, htext⟩ := h.invalid (fun he => hne' (Except.error.inj he)) nofun
      exact ⟨text, congrArg _ (Except.error.inj htext)⟩

theorem contains_doorOrTrayOpen (b : UInt8) :
    MediaState.contains ⟨b &&& 3⟩ .doorOrTrayOpen = bit b 0 := by
  have all : ∀ n : Fin 256,
      MediaState.contains ⟨UInt8.ofNat n &&& 3⟩ .doorOrTrayOpen = bit (UInt8.ofNat n) 0 := by
    decide +kernel
  have hb := all ⟨b.toNat, b.toNat_lt⟩
  rwa [UInt8.ofNat_toNat] at hb

namespace Mmc
variable {T : Target} {W : Winnow} {m : Mmc σ} {s : σ} {d : Vector UInt8 12}

theorem supportedEvents_checks (hW : W.AsDocumented) (hm : m.AnswersWith s d.toList) :
    ∃ r s', m.supportedEvents T W s = .ret (r, s') ∧
      Checks r (2 ≤ eventLength d ∧ eventLength d ≤ 10) fun v => v = .fromBitsTruncate d[3]! := by
  obtain ⟨s', hrun⟩ := runCommand_answer hm (List.replicate 12 0) (by simp) (by simp)
    (some .read) ((GetEventStatus.cdb .polled .empty).setAllocationLength 12)
  have hdata : m.getEventStatusNotification .polled .empty s = .ret (.ok d.toList, s') := hrun
  obtain ⟨r, rest, hr, h⟩ := parseHeader_empty_checks (T := T) hW d
  refine ⟨r, s', ?_, h⟩
  rw [supportedEvents, Act.bind_ok (Act.mapError_ok hdata)]
  exact Act.onLocals_fst hr s'

theorem isTrayOpen_of_mediaStatus {r : Except MmcStatusError MediaStatus} {s' : σ}
    (h : m.mediaStatus T W s = .ret (r, s')) : m.isTrayOpen T W s =
      .ret ((fun status : MediaStatus => status.state.contains .doorOrTrayOpen) <$> r, s') := by
  cases r with
  | ok status => exact Act.bind_ok h _
  | error e => exact Act.bind_error h _

/-- `supported_events` accepts every response with a whole header, of no matter which class and
with an event or without; `is_tray_open` accepts what `media_status` accepts. -/
theorem supportedEvents_isTrayOpen (T : Target) (W : Winnow) (hW : W.AsDocumented) (m : Mmc σ)
    (s : σ) (d : Vector UInt8 12) (hm : m.AnswersWith s d.toList) :
    (∃ r s', m.supportedEvents T W s = .ret (r, s') ∧
      Checks r (2 ≤ eventLength d ∧ eventLength d ≤ 10) fun v => v = .fromBitsTruncate d[3]!) ∧
    ∃ r s', m.isTrayOpen T W s = .ret (r, s') ∧ trayRule.Answers d r := by
  refine ⟨supportedEvents_checks hW hm, ?_⟩
  obtain ⟨r, s', hr, h⟩ :=
    eventStatus_answers (T := T) mediaRule hW (mediaDescriptor_decodes hW) rfl hm
  refine ⟨_, s', isTrayOpen_of_mediaStatus hr, h.map _ rfl rfl rfl ?_⟩
  intro v hv
  have hstate : v.state = ⟨d[5]! &&& 3⟩ := congrArg MediaState.mk hv.2.1
  rw [hstate]
  exact contains_doorOrTrayOpen d[5]!

def noEventResponse : Vector UInt8 12 := #v[0, 2, 0x80, 0xFF, 0, 0, 0, 0, 0, 0, 0, 0]

def trayOpenResponse : Vector UInt8 12 := #v[0, 6, 0x04, 0x7E, 0x01, 0x01, 0, 0, 0, 0, 0, 0]

theorem supportedEvents_isTrayOpen_responses :
    (∃ s', (replying noEventResponse.toList).supportedEvents ⟨.w64, .w64, true⟩ .plain () =
      .ret (.ok ⟨0x7E⟩, s')) ∧
    ∃ s', (replying trayOpenResponse.toList).isTrayOpen ⟨.w64, .w64, true⟩ .plain () =
      .ret (.ok true, s') := by
  constructor
  · obtain ⟨hevents, -⟩ := supportedEvents_isTrayOpen ⟨.w64, .w64, true⟩ .plain
      Winnow.plain_asDocumented (replying noEventResponse.toList) () noEventResponse
      (replying_answersWith _)
    obtain ⟨r, s', hr, h⟩ := hevents
    obtain ⟨v, rfl⟩ := h.ok_iff.mpr (by decide)
    have hv := h.value v rfl
    exact ⟨s', by rw [hr, hv]; rfl⟩
  · obtain ⟨-, htray⟩ := supportedEvents_isTrayOpen ⟨.w64, .w64, true⟩ .plain
      Winnow.plain_asDocumented (replying trayOpenResponse.toList) () trayOpenResponse
      (replying_answersWith _)
    obtain ⟨r, s', hr, h⟩ := htray
    have hvalid : trayRule.Valid trayOpenResponse := by
      change (trayOpenResponse[4]! &&& 15).toNat ≤ 6
      decide
    obtain ⟨v, rfl⟩ := h.ok_iff.mpr ⟨by decide, by decide, ⟨by decide, by decide⟩, hvalid⟩
    have hv := h.meets v rfl
    exact ⟨s', by rw [hr, hv]; rfl⟩

end Mmc

end LibcdioRs
