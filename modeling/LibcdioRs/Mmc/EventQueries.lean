import LibcdioRs.Mmc.EventGrammar

/-!
# The six event queries

The header of a response decides between an unsupported class, a rejected
response and an event descriptor. With the rules of the descriptors this gives
what each query answers, for every response.
-/

namespace LibcdioRs

open Rust Parse GetEventStatus
set_option autoImplicit false

variable {σ α : Type}

/-- The header's length field, which counts the bytes after itself. -/
def eventLength (d : Vector UInt8 12) : Nat := (be16 d[0]! d[1]!).toNat

def EventRule.Asked (rule : EventRule α) (d : Vector UInt8 12) : Prop :=
  bit d[2]! 7 = false ∧ (1 : UInt8) <<< (d[2]! &&& 7) = rule.eventClass.bits

/-- What a query answers to the response `d`. -/
structure EventRule.Answers (rule : EventRule α) (d : Vector UInt8 12)
    (r : Except MmcStatusError α) : Prop where
  unsupported_iff : r = .error (.eventNotSupported rule.eventClass) ↔
    2 ≤ eventLength d ∧ eventLength d ≤ 10 ∧ bit d[2]! 7 = true
  ok_iff : (∃ v, r = .ok v) ↔
    rule.size + 2 ≤ eventLength d ∧ eventLength d ≤ 10 ∧ rule.Asked d ∧ rule.Valid d
  meets : ∀ v, r = .ok v → rule.Meets d v
  invalid : r ≠ .error (.eventNotSupported rule.eventClass) → (∀ v, r ≠ .ok v) →
    ∃ text, r = .error (.invalidResponse text)

theorem class_lt (c : UInt8) : c &&& 7 < 8 := by
  apply UInt8.lt_iff_toNat_lt.mpr
  rw [UInt8.toNat_and]
  exact Nat.lt_succ_of_le Nat.and_le_right

namespace GetEventStatus

section Header
variable {W : Winnow} {d : Vector UInt8 12} {n : Nat} {b0 b1 c events : UInt8} {body : Bytes}

def headerGrammar : Grammar Bytes ((Bool × UInt8) × UInt8 × Bytes) :=
  .lengthAndThen .beU16 (.seq (.byteOf fun b => (bit b 7, b &&& 7)) (.seq .u8 .rest))

theorem headerGrammar_some (hlen : (be16 b0 b1).toNat = n + 2) (hn : n ≤ body.length) :
    headerGrammar (b0 :: b1 :: c :: events :: body) =
      some (((bit c 7, c &&& 7), events, body.take n), body.drop n) := by
  simp [headerGrammar, Grammar.lengthAndThen, Grammar.lengthTake, Grammar.beU16, Grammar.take,
    hlen, hn, Grammar.seq, Grammar.byteOf, Grammar.u8, Grammar.rest]

theorem headerGrammar_none
    (h : ¬ (2 ≤ (be16 b0 b1).toNat ∧ (be16 b0 b1).toNat ≤ body.length + 2)) :
    headerGrammar (b0 :: b1 :: c :: events :: body) = none := by
  have hcases : (be16 b0 b1).toNat = 0 ∨ (be16 b0 b1).toNat = 1 ∨
      ¬ (be16 b0 b1).toNat ≤ body.length + 2 := by omega
  rcases hcases with hlen | hlen | hlen <;>
    simp [headerGrammar, Grammar.lengthAndThen, Grammar.lengthTake, Grammar.beU16, Grammar.take,
      hlen, Grammar.seq, Grammar.byteOf, Grammar.u8]

theorem toList_header (d : Vector UInt8 12) :
    d.toList = d[0]! :: d[1]! :: d[2]! :: d[3]! :: d.toList.drop 4 := by
  rw [toList_twelve]
  rfl

theorem length_body (d : Vector UInt8 12) : (d.toList.drop 4).length = 8 := by
  rw [List.length_drop, Vector.length_toList]

variable {T : Target} (hW : W.AsDocumented)
include hW

theorem header_accept : accept (W.context "GET EVENT STATUS NOTIFICATION response header"
    (W.lengthAndThen W.beU16 (W.seq (W.bits (W.separatedPair W.bool (W.bitsTake 4) (W.bitsTake 3)))
      (W.seq W.u8 W.rest)))) = headerGrammar := by
  rw [hW.context, hW.lengthAndThen, hW.seq, hW.seq, hW.bits, hW.separatedPair, hW.bool, hW.bitsTake,
    hW.bitsTake, hW.u8, hW.rest, hW.beU16, Grammar.bits_highBit_lowBits]
  rfl

theorem parseHeader_invalid (eventClass : EventClass)
    (h : ¬ (2 ≤ eventLength d ∧ eventLength d ≤ 10)) :
    ∃ text rest, parseHeader T W eventClass d.toList =
      .ret (.error (.invalidResponse text), rest) := by
  have hnone : headerGrammar d.toList = none := by
    rw [toList_header]
    exact headerGrammar_none (by rwa [length_body])
  obtain ⟨e, he⟩ := parseNext_none ((congrFun (header_accept hW) d.toList).trans hnone)
  exact ⟨_, _, Act.bind_error he _⟩

theorem parseHeader_eq {eventClass : EventClass} (hlen : eventLength d = n + 2) (hn : n ≤ 8)
    (hclass : eventClass.isEmpty = false) :
    parseHeader T W eventClass d.toList = .ret
      (if bit d[2]! 7 then .error (.eventNotSupported eventClass)
        else if (1 : UInt8) <<< (d[2]! &&& 7) = eventClass.bits then .ok (.fromBitsTruncate d[3]!)
        else .error (.invalidResponse ("invalid event code, expected 0b" ++
          binary eventClass.bits ++ " got 0b" ++ binary ((1 : UInt8) <<< (d[2]! &&& 7)))),
      (d.toList.drop 4).take n) := by
  have hsome : headerGrammar d.toList = some (((bit d[2]! 7, d[2]! &&& 7), d[3]!,
      (d.toList.drop 4).take n), (d.toList.drop 4).drop n) := by
    nth_rewrite 1 [toList_header]
    exact headerGrammar_some hlen (by rwa [length_body])
  have hparse := (congrFun (header_accept hW) d.toList).trans hsome
  simp only [parseHeader, Act.bind_ok (parseNext_some hparse), Act.modify_bind_apply, hclass,
    Bool.not_false, Bool.true_and, T.shlU8_eq 1 (class_lt d[2]!)]
  generalize d[2]! = c
  cases bit c 7 with
  | true => rfl
  | false =>
    by_cases hasked : (1 : UInt8) <<< (c &&& 7) = eventClass.bits <;> simp [hasked]

end Header

end GetEventStatus

namespace Mmc

section Queries
variable {T : Target} {W : Winnow} {m : Mmc σ} {s : σ} {d : Vector UInt8 12} {rule : EventRule α}

theorem answers_invalid {text : String}
    (hnea : ¬ (2 ≤ eventLength d ∧ eventLength d ≤ 10 ∧ bit d[2]! 7 = true))
    (hok : ¬ (rule.size + 2 ≤ eventLength d ∧ eventLength d ≤ 10 ∧ rule.Asked d ∧ rule.Valid d)) :
    rule.Answers d (.error (.invalidResponse text)) where
  unsupported_iff := ⟨nofun, fun h => absurd h hnea⟩
  ok_iff := ⟨nofun, fun h => absurd h hok⟩
  meets := nofun
  invalid _ _ := ⟨text, rfl⟩

theorem answers_unsupported
    (hnea : 2 ≤ eventLength d ∧ eventLength d ≤ 10 ∧ bit d[2]! 7 = true) :
    rule.Answers d (.error (.eventNotSupported rule.eventClass)) where
  unsupported_iff := iff_of_true rfl hnea
  ok_iff := by
    refine ⟨nofun, ?_⟩
    intro haccepted
    rcases haccepted with ⟨_, _, hasked, _⟩
    exact absurd hasked.1 (ne_false_of_eq_true hnea.2.2)
  meets := nofun
  invalid h := absurd rfl h

theorem answers_of_checks {r : Except MmcStatusError α} (hsize : rule.size + 2 ≤ eventLength d)
    (hlen : eventLength d ≤ 10) (hasked : rule.Asked d)
    (h : Checks r (rule.Valid d) (rule.Meets d)) : rule.Answers d r where
  unsupported_iff := by
    constructor
    · intro hr
      obtain ⟨text, htext⟩ := h.invalid _ hr
      cases htext
    · intro hnone
      rcases hnone with ⟨_, _, hnea⟩
      exact absurd hasked.1 (ne_false_of_eq_true hnea)
  ok_iff := by
    rw [h.ok_iff]
    constructor
    · intro hvalid
      exact ⟨hsize, hlen, hasked, hvalid⟩
    · intro hall
      rcases hall with ⟨_, _, _, hvalid⟩
      exact hvalid
  meets := h.value
  invalid _ hok := by
    cases r with
    | ok v => exact absurd rfl (hok v)
    | error e =>
      obtain ⟨text, htext⟩ := h.invalid e rfl
      exact ⟨text, congrArg Except.error htext⟩

variable (hW : W.AsDocumented) {descriptor : Act Bytes MmcStatusError α}
  (hdec : Decodes descriptor rule d) (hclass : rule.eventClass.isEmpty = false)
include hW hdec hclass

theorem parse_answers : ∃ r rest,
    (parseHeader T W rule.eventClass >>= fun _ => descriptor) d.toList = .ret (r, rest) ∧
      rule.Answers d r := by
  by_cases hlen : 2 ≤ eventLength d ∧ eventLength d ≤ 10
  · obtain ⟨n, hn⟩ := Nat.exists_eq_add_of_le' hlen.1
    have hheader := parseHeader_eq (T := T) hW hn (by omega) hclass
    cases hnea : bit d[2]! 7 with
    | true =>
      rw [hnea] at hheader
      exact ⟨_, _, Act.bind_error hheader _, answers_unsupported ⟨hlen.1, hlen.2, hnea⟩⟩
    | false =>
      have hsupported : ¬ (2 ≤ eventLength d ∧ eventLength d ≤ 10 ∧ bit d[2]! 7 = true) := by
        intro hsupported
        rcases hsupported with ⟨_, _, h⟩
        exact absurd hnea (ne_false_of_eq_true h)
      by_cases hasked : (1 : UInt8) <<< (d[2]! &&& 7) = rule.eventClass.bits
      · rw [hnea, if_neg Bool.false_ne_true, if_pos hasked] at hheader
        rw [Act.bind_ok hheader]
        by_cases hsize : rule.size ≤ n
        · obtain ⟨r, rest, hr, hc⟩ := hdec.long n hsize
          exact ⟨r, rest, hr, answers_of_checks (by omega) hlen.2 ⟨hnea, hasked⟩ hc⟩
        · obtain ⟨text, rest, hr⟩ := hdec.short n (by omega)
          refine ⟨_, rest, hr, answers_invalid hsupported ?_⟩
          intro hvalid
          rcases hvalid with ⟨hlong, _⟩
          exact hsize (by omega)
      · rw [hnea, if_neg Bool.false_ne_true, if_neg hasked] at hheader
        refine ⟨_, _, Act.bind_error hheader _, answers_invalid hsupported ?_⟩
        intro hvalid
        rcases hvalid with ⟨_, _, h, _⟩
        exact hasked h.2
  · obtain ⟨text, rest, hr⟩ := parseHeader_invalid (T := T) hW rule.eventClass hlen
    refine ⟨_, _, Act.bind_error hr _, answers_invalid ?_ ?_⟩
    · intro hsupported
      rcases hsupported with ⟨h2, h10, _⟩
      exact hlen ⟨h2, h10⟩
    · intro hvalid
      rcases hvalid with ⟨hlong, h10, _⟩
      exact hlen ⟨by omega, h10⟩

variable (rule) in
theorem eventStatus_answers (hm : m.AnswersWith s d.toList) : ∃ r s',
    m.eventStatus T W rule.eventClass descriptor s = .ret (r, s') ∧ rule.Answers d r := by
  obtain ⟨s', hrun⟩ := runCommand_answer hm (List.replicate 12 0) (by simp) (by simp)
    (some .read) ((GetEventStatus.cdb .polled rule.eventClass).setAllocationLength 12)
  have hdata : m.getEventStatusNotification .polled rule.eventClass s = .ret (.ok d.toList, s') :=
    hrun
  obtain ⟨r, rest, hr, h⟩ := parse_answers (T := T) hW hdec hclass
  refine ⟨r, s', ?_, h⟩
  rw [eventStatus, Act.bind_ok (Act.mapError_ok hdata)]
  exact Act.onLocals_fst hr s'

end Queries

/-- The six queries never panic, and accept exactly what their rules say. -/
theorem eventQueries_answer (T : Target) (W : Winnow) (hW : W.AsDocumented) (m : Mmc σ) (s : σ)
    (d : Vector UInt8 12) (hm : m.AnswersWith s d.toList) :
    (∃ r s', m.operationalEventStatus T W s = .ret (r, s') ∧ operationalRule.Answers d r) ∧
    (∃ r s', m.powerStatus T W s = .ret (r, s') ∧ powerRule.Answers d r) ∧
    (∃ r s', m.externalStatus T W s = .ret (r, s') ∧ externalRule.Answers d r) ∧
    (∃ r s', m.mediaStatus T W s = .ret (r, s') ∧ mediaRule.Answers d r) ∧
    (∃ r s', m.multihostStatus T W s = .ret (r, s') ∧ multihostRule.Answers d r) ∧
    (∃ r s', m.busyStatus T W s = .ret (r, s') ∧ busyRule.Answers d r) := by
  refine ⟨?_, ?_, ?_, ?_, ?_, ?_⟩
  · exact eventStatus_answers operationalRule hW (operationalDescriptor_decodes hW) rfl hm
  · exact eventStatus_answers powerRule hW (powerDescriptor_decodes hW) rfl hm
  · exact eventStatus_answers externalRule hW (externalDescriptor_decodes hW) rfl hm
  · exact eventStatus_answers mediaRule hW (mediaDescriptor_decodes hW) rfl hm
  · exact eventStatus_answers multihostRule hW (multihostDescriptor_decodes hW) rfl hm
  · exact eventStatus_answers busyRule hW (busyDescriptor_decodes hW) rfl hm

def newMediaResponse : Vector UInt8 12 := #v[0, 6, 0x04, 0x7E, 0x02, 0x03, 0, 1, 0, 0, 0, 0]

theorem newMediaResponse_answers :
    (∃ r s', (replying newMediaResponse.toList).mediaStatus ⟨.w64, .w64, true⟩ .plain () =
      .ret (r, s') ∧ mediaRule.Answers newMediaResponse r) ∧
    (replying newMediaResponse.toList).mediaStatus ⟨.w64, .w64, true⟩ .plain () =
      .ret (.ok ⟨some .newMedia, ⟨3⟩, 0, 1⟩, ()) := by
  constructor
  · obtain ⟨-, -, -, hmedia, -, -⟩ := eventQueries_answer ⟨.w64, .w64, true⟩ .plain
      Winnow.plain_asDocumented (replying newMediaResponse.toList) () newMediaResponse
      (replying_answersWith _)
    exact hmedia
  · decide +kernel

end Mmc

end LibcdioRs
