import LibcdioRs.Mmc.ReadSubchannel
import LibcdioRs.Shared.FixedSize

/-!
# The responses that the sub-channel queries accept

Each query reads a few fields of the 24 bytes of a response. Its rule says
which fields these are, which values of them are valid, and what the query
makes of them once the response is accepted.
-/

namespace LibcdioRs

open Rust Parse ReadSubchannel
set_option autoImplicit false

variable {σ φ α β : Type}

/-- The header's length field, which counts the bytes after the header. -/
def subchannelLength (d : Vector UInt8 24) : Nat := (be16 d[2]! d[3]!).toNat

def HeaderAccepted (d : Vector UInt8 24) : Prop :=
  subchannelLength d ≤ 20 ∧ (d[1]! = 0 ∨ 0x11 ≤ d[1]!.toNat ∧ d[1]!.toNat ≤ 0x15)

/-- What a query reads of a response, and what it makes of it; this may panic. -/
structure SubchannelRule (φ α : Type) where
  size : Nat
  fields : Vector UInt8 24 → φ
  Valid : φ → Prop
  finish : φ → Exec α

def SubchannelRule.Accepts (rule : SubchannelRule φ α) (d : Vector UInt8 24) : Prop :=
  HeaderAccepted d ∧ rule.size ≤ subchannelLength d ∧ rule.Valid (rule.fields d)

def optionalText (msg : String) (present : Bool) (text : Bytes) : Exec (Option String) :=
  if present then expectUtf8 msg text >>= fun text => .ret (some text) else .ret none

def mcnText (d : Vector UInt8 24) : Bytes := (d.toList.drop 9).take 13

def isrcText (d : Vector UInt8 24) : Bytes := (d.toList.drop 9).take 12

def mcnRule : SubchannelRule (UInt8 × Bool × Bytes × UInt8) (Option String) where
  size := 20
  fields d := (d[4]!, bit d[8]! 7, mcnText d, d[22]!)
  Valid := fun (format, _, _, zero) => format = 2 ∧ zero = 0
  finish := fun (_, mcval, mcn, _) =>
    optionalText "mcn should not contain non utf8 characters" mcval mcn

def isrcRule (trackNumber : TrackNumber) :
    SubchannelRule (UInt8 × UInt8 × Bool × Bytes × UInt8) (Option String) where
  size := 19
  fields d := (d[4]!, d[6]!, bit d[8]! 7, isrcText d, d[21]!)
  Valid := fun (format, track, _, _, zero) =>
    format = 3 ∧ track = trackNumber.number ∧ zero = 0
  finish := fun (_, _, tcval, isrc, _) =>
    optionalText "isrc should not contain non utf8 characters" tcval isrc

def positionRule :
    SubchannelRule (UInt8 × UInt8 × UInt8 × TimePosition × TimePosition) CdCurrentPosition where
  size := 12
  fields d :=
    (d[4]!, d[6]!, d[7]!, ⟨d[8]!, d[9]!, d[10]!, d[11]!⟩, ⟨d[12]!, d[13]!, d[14]!, d[15]!⟩)
  Valid := fun (format, _) => format = 1
  finish := fun (_, track, index, absolute, relative) => .ret ⟨track, index, absolute, relative⟩

theorem toList_twentyFour (d : Vector UInt8 24) :
    d.toList = [d[0]!, d[1]!, d[2]!, d[3]!, d[4]!, d[5]!, d[6]!, d[7]!, d[8]!, d[9]!, d[10]!,
      d[11]!, d[12]!, d[13]!, d[14]!, d[15]!, d[16]!, d[17]!, d[18]!, d[19]!, d[20]!, d[21]!,
      d[22]!, d[23]!] := by
  rw [toList_eq_ofFn]
  rfl

namespace ReadSubchannel

section Header
variable {W : Winnow} {d : Vector UInt8 24} {b0 b1 b2 b3 : UInt8} {body : Bytes}

def headerGrammar : Grammar Bytes (UInt8 × UInt8 × Bytes) :=
  .seq .u8 (.seq .u8 (.lengthTake .beU16))

theorem headerGrammar_some (h : (be16 b2 b3).toNat ≤ body.length) :
    headerGrammar (b0 :: b1 :: b2 :: b3 :: body) =
      some ((b0, b1, body.take (be16 b2 b3).toNat), body.drop (be16 b2 b3).toNat) := by
  simp [headerGrammar, Grammar.lengthTake, Grammar.beU16, Grammar.take, Grammar.seq, Grammar.u8,
    h]

theorem headerGrammar_none (h : ¬ (be16 b2 b3).toNat ≤ body.length) :
    headerGrammar (b0 :: b1 :: b2 :: b3 :: body) = none := by
  simp [headerGrammar, Grammar.lengthTake, Grammar.beU16, Grammar.take, Grammar.seq, Grammar.u8,
    h]

theorem toList_header (d : Vector UInt8 24) :
    d.toList = d[0]! :: d[1]! :: d[2]! :: d[3]! :: d.toList.drop 4 := by
  rw [toList_twentyFour]
  rfl

theorem length_body (d : Vector UInt8 24) : (d.toList.drop 4).length = 20 := by
  rw [List.length_drop, Vector.length_toList]

def headerStatus (audioStatus : UInt8) : Except MmcSubchannelError (Option MmcAudioStatus) :=
  if audioStatus = 0 then .ok none
  else match tryFrom MmcAudioStatus audioStatus.toNat with
    | some status => .ok (some status)
    | none => .error (ofAudioStatus audioStatus)

theorem headerStatus_ok {b : UInt8} (h : b = 0 ∨ 0x11 ≤ b.toNat ∧ b.toNat ≤ 0x15) :
    ∃ status : Option MmcAudioStatus,
      status.map Discriminants.code = nonZero b.toNat ∧ headerStatus b = .ok status := by
  by_cases hzero : b = 0
  · subst hzero
    exact ⟨none, rfl, rfl⟩
  · have hne : b.toNat ≠ 0 := fun hn => hzero (UInt8.toNat.inj hn)
    have hrange : 0x11 ≤ b.toNat ∧ b.toNat < 0x11 + 5 := by
      have := h.resolve_left hzero
      omega
    obtain ⟨status, hstatus⟩ := (exists_tryFrom_iff (E := MmcAudioStatus)
      (by decide : _ = List.range' 0x11 5) b.toNat).mpr hrange
    refine ⟨some status, ?_, ?_⟩
    · rw [Option.map_some, tryFrom_eq_some_iff.mp hstatus, nonZero, if_neg hne]
    · rw [headerStatus, if_neg hzero, hstatus]

theorem headerStatus_error {b : UInt8} (h : ¬ (b = 0 ∨ 0x11 ≤ b.toNat ∧ b.toNat ≤ 0x15)) :
    headerStatus b = .error (ofAudioStatus b) := by
  have hzero : b ≠ 0 := fun hb => h (.inl hb)
  cases hs : tryFrom MmcAudioStatus b.toNat with
  | none => rw [headerStatus, if_neg hzero, hs]
  | some status =>
    have hrange := (exists_tryFrom_iff (by decide : _ = List.range' 0x11 5) b.toNat).mp ⟨status, hs⟩
    exact absurd (.inr ⟨hrange.1, by omega⟩) h

variable (hW : W.AsDocumented)
include hW

theorem header_accept : accept (W.context "READ SUB-CHANNEL response header"
    (W.seq W.u8 (W.seq W.u8 (W.lengthTake W.beU16)))) = headerGrammar := by
  rw [hW.context, hW.seq, hW.seq, hW.u8, hW.lengthTake, hW.beU16]
  rfl

theorem parseHeader_eq (hlen : subchannelLength d ≤ 20) :
    parseHeader W d.toList =
      .ret (headerStatus d[1]!, (d.toList.drop 4).take (subchannelLength d)) := by
  have hsome : headerGrammar d.toList = some ((d[0]!, d[1]!,
      (d.toList.drop 4).take (subchannelLength d)),
      (d.toList.drop 4).drop (subchannelLength d)) := by
    nth_rewrite 1 [toList_header]
    exact headerGrammar_some (by rwa [length_body])
  have hparse := (congrFun (header_accept hW) d.toList).trans hsome
  simp only [parseHeader, headerStatus, Act.bind_ok (parseNext_some hparse), Act.modify_bind_apply]
  generalize d[1]! = b
  by_cases hzero : b = 0
  · simp [hzero]
  · cases hs : tryFrom MmcAudioStatus b.toNat with
    | none => simp [hzero]
    | some status => simp [hzero]

theorem parseHeader_accepts (h : HeaderAccepted d) : ∃ status : Option MmcAudioStatus,
    status.map Discriminants.code = nonZero d[1]!.toNat ∧
      parseHeader W d.toList =
        .ret (.ok status, (d.toList.drop 4).take (subchannelLength d)) := by
  obtain ⟨status, hcode, hstatus⟩ := headerStatus_ok h.2
  exact ⟨status, hcode, by rw [parseHeader_eq hW h.1, hstatus]⟩

theorem parseHeader_rejects (h : ¬ HeaderAccepted d) : ∃ text rest,
    parseHeader W d.toList = .ret (.error (.invalidResponse text), rest) := by
  by_cases hlen : subchannelLength d ≤ 20
  · have herror := headerStatus_error fun hd => h ⟨hlen, hd⟩
    exact ⟨_, _, (parseHeader_eq hW hlen).trans (by rw [herror]; rfl)⟩
  · have hnone : headerGrammar d.toList = none := by
      rw [toList_header]
      exact headerGrammar_none (by rwa [length_body])
    obtain ⟨e, he⟩ := parseNext_none ((congrFun (header_accept hW) d.toList).trans hnone)
    exact ⟨_, _, Act.bind_error he _⟩

end Header

end ReadSubchannel

section Descriptors
variable {W : Winnow} {d : Vector UInt8 24} {rule : SubchannelRule φ α}

/-- The descriptor of the response `d`, cut off after `n` bytes, is read by the rule. -/
structure Describes (descriptor : Act Bytes MmcSubchannelError α) (rule : SubchannelRule φ α)
    (d : Vector UInt8 24) : Prop where
  accepts : ∀ n, rule.size ≤ n → rule.Valid (rule.fields d) → ∃ rest,
    descriptor ((d.toList.drop 4).take n) =
      rule.finish (rule.fields d) >>= fun v => .ret (.ok v, rest)
  rejects : ∀ n, ¬ (rule.size ≤ n ∧ rule.Valid (rule.fields d)) → ∃ text rest,
    descriptor ((d.toList.drop 4).take n) = .ret (.error (.invalidResponse text), rest)

theorem describes_of_reads {p : Parser Bytes W.ContextError β}
    {f : β → Act Bytes MmcSubchannelError α} {g : Grammar Bytes β} {ok : Bytes → Prop}
    {value : Bytes → β} {b : β} (hp : accept p = g) (h : Reads g rule.size ok value)
    (hsize : rule.size ≤ 20)
    (hok : ok ((d.toList.drop 4).take rule.size) ↔ rule.Valid (rule.fields d))
    (hb : value ((d.toList.drop 4).take rule.size) = b)
    (hf : ∀ rest, f b rest = rule.finish (rule.fields d) >>= fun v => .ret (.ok v, rest)) :
    Describes (parseNext (ofContext W) p >>= f) rule d where
  accepts n hn hvalid := by
    have hlen : rule.size ≤ (d.toList.drop 4).length := by simpa using hsize
    obtain ⟨rest, hread⟩ := Reads.parseNext_accepts hp h hn hlen (hok.mpr hvalid)
    rw [hb] at hread
    exact ⟨rest, by rw [Act.bind_ok hread, hf]⟩
  rejects n hn := by
    obtain ⟨e, he⟩ := Reads.parseNext_rejects hp h fun hle hvalid => hn ⟨hle, hok.mp hvalid⟩
    exact ⟨_, _, Act.bind_error he f⟩

theorem optionalText_apply (msg : String) (present : Bool) (text rest : Bytes) :
    (if !present then pure none
      else Act.lift (expectUtf8 msg text) >>= fun text => pure (some text) :
        Act Bytes MmcSubchannelError (Option String)) rest =
      optionalText msg present text >>= fun v => .ret (.ok v, rest) := by
  cases present with
  | false => rfl
  | true =>
    rw [optionalText, expectUtf8]
    cases fromUtf8 text <;> rfl

variable (hW : W.AsDocumented)
include hW

theorem adrAndControl_accept :
    accept (adrAndControl W) = .byteOf fun b => (b >>> 4, b &&& 15) := by
  rw [adrAndControl, hW.bits, hW.seq, hW.bitsTake, Grammar.bits_nibbles]

theorem flag_accept : accept (W.bits W.bool) = .byteOf fun b => bit b 7 := by
  rw [hW.bits, hW.bool, Grammar.bits_highBit]

theorem mcnDescriptor_describes : Describes (mcnDescriptor W) mcnRule d := by
  refine describes_of_reads
    (b := (d[4]!, [d[5]!, d[6]!, d[7]!], bit d[8]! 7, mcnText d, d[22]!, d[23]!)) ?_
    ((Reads.byte 2).seq ((Reads.take 3).seq ((Reads.byteOf fun b => bit b 7).seq
      ((Reads.take 13).seq ((Reads.byte 0).seq .u8))))) (by decide) ?_ ?_ fun rest => ?_
  · rw [hW.context, hW.seq, hW.verify, hW.u8, hW.seq, hW.take, hW.seq, flag_accept hW, hW.seq,
      hW.take, hW.seq, hW.verify, hW.u8]
    rfl
  · rw [toList_twentyFour]
    simp [mcnRule]
  · rw [mcnText, toList_twentyFour]
    rfl
  · exact optionalText_apply _ _ _ rest

theorem isrcDescriptor_describes (t : TrackNumber) :
    Describes (isrcDescriptor W t) (isrcRule t) d := by
  refine describes_of_reads (b := (d[4]!, (d[5]! >>> 4, d[5]! &&& 15), d[6]!, [d[7]!], bit d[8]! 7,
      isrcText d, d[21]!, d[22]!)) ?_
    ((Reads.byte 3).seq ((Reads.byteOf fun b => (b >>> 4, b &&& 15)).seq
      ((Reads.byte t.number).seq ((Reads.take 1).seq ((Reads.byteOf fun b => bit b 7).seq
        ((Reads.take 12).seq ((Reads.byte 0).seq .u8)))))))
    (by decide : 19 ≤ 20) ?_ ?_ fun rest => ?_
  · rw [hW.context, hW.seq, hW.verify, hW.u8, hW.seq, adrAndControl_accept hW, hW.seq, hW.verify,
      hW.u8, hW.seq, hW.take, hW.seq, flag_accept hW, hW.seq, hW.take, hW.seq, hW.verify, hW.u8]
    rfl
  · rw [toList_twentyFour]
    simp [isrcRule]
  · rw [isrcText, toList_twentyFour]
    rfl
  · exact optionalText_apply _ _ _ rest

theorem positionDescriptor_describes : Describes (positionDescriptor W) positionRule d := by
  refine describes_of_reads (b := (d[4]!, (d[5]! >>> 4, d[5]! &&& 15), d[6]!, d[7]!,
      [d[8]!, d[9]!, d[10]!, d[11]!], [d[12]!, d[13]!, d[14]!, d[15]!])) ?_
    ((Reads.byte 1).seq ((Reads.byteOf fun b => (b >>> 4, b &&& 15)).seq (Reads.u8.seq
      (Reads.u8.seq ((Reads.take 4).seq (.take 4)))))) (by decide) ?_ ?_ fun rest => ?_
  · rw [hW.context, hW.seq, hW.verify, hW.u8, hW.seq, adrAndControl_accept hW, hW.seq, hW.u8,
      hW.seq, hW.u8, hW.seq, hW.take]
    rfl
  · rw [toList_twentyFour]
    simp [positionRule]
  · rw [toList_twentyFour]
    rfl
  · rfl

end Descriptors

namespace Mmc

section Queries
variable {W : Winnow} {m : Mmc σ} {s : σ} {d : Vector UInt8 24} (hm : m.AnswersWith s d.toList)
include hm

theorem readSubchannel_answer (addressFormat : AddressFormat) (param : SubchannelParameter) :
    ∃ s', m.readSubchannel addressFormat param s = .ret (.ok d.toList, s') :=
  runCommand_answer hm (List.replicate 24 0) (by simp) (by simp) (some .read)
    ((ReadSubchannel.cdb addressFormat param).setAllocationLength 24)

variable (hW : W.AsDocumented)
include hW

section Descriptor
variable {descriptor : Act Bytes MmcSubchannelError α} {rule : SubchannelRule φ α}
variable (hdesc : Describes descriptor rule d)
include hdesc

theorem subchannel_accepts (h : rule.Accepts d) (addressFormat : AddressFormat)
    (param : SubchannelParameter) : ∃ s', m.subchannel W addressFormat param descriptor s =
      rule.finish (rule.fields d) >>= fun v => .ret (.ok v, s') := by
  obtain ⟨s', hdata⟩ := readSubchannel_answer hm addressFormat param
  obtain ⟨status, _, hheader⟩ := parseHeader_accepts hW h.1
  obtain ⟨rest, hrest⟩ := hdesc.accepts _ h.2.1 h.2.2
  refine ⟨s', ?_⟩
  rw [subchannel, Act.bind_ok (Act.mapError_ok hdata)]
  exact Act.onLocals_fst_bind ((Act.bind_ok hheader fun _ => descriptor).trans hrest) s'

theorem subchannel_rejects (h : ¬ rule.Accepts d) (addressFormat : AddressFormat)
    (param : SubchannelParameter) : ∃ text s', m.subchannel W addressFormat param descriptor s =
      .ret (.error (.invalidResponse text), s') := by
  obtain ⟨s', hdata⟩ := readSubchannel_answer hm addressFormat param
  have hlocals : ∃ text rest, (parseHeader W >>= fun _ => descriptor) d.toList =
      .ret (.error (.invalidResponse text), rest) := by
    by_cases hhead : HeaderAccepted d
    · obtain ⟨status, _, hheader⟩ := parseHeader_accepts hW hhead
      rw [Act.bind_ok hheader]
      exact hdesc.rejects _ fun hd => h ⟨hhead, hd⟩
    · obtain ⟨text, rest, hheader⟩ := parseHeader_rejects hW hhead
      exact ⟨text, rest, Act.bind_error hheader _⟩
  obtain ⟨text, rest, hrest⟩ := hlocals
  refine ⟨text, s', ?_⟩
  rw [subchannel, Act.bind_ok (Act.mapError_ok hdata)]
  exact Act.onLocals_fst hrest s'

end Descriptor

end Queries

end Mmc

end LibcdioRs
