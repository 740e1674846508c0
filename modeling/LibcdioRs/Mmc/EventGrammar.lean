import LibcdioRs.Mmc.GetEventStatus
import LibcdioRs.Shared.FixedSize

/-!
# The responses that the event queries accept

Each query is determined by the twelve bytes of the response. The header
decides between an unsupported class, a rejected response and an event
descriptor; the descriptor is accepted when its coded fields are valid.
-/

namespace LibcdioRs

open Rust Parse GetEventStatus
set_option autoImplicit false

variable {σ α β : Type}

section Checks

/-- `x` is `Ok` exactly when `V` holds, its value then satisfies `Q`, and its errors are about
the response. -/
structure Checks (x : Except MmcStatusError α) (V : Prop) (Q : α → Prop) : Prop where
  ok_iff : (∃ a, x = .ok a) ↔ V
  value : ∀ a, x = .ok a → Q a
  invalid : ∀ e, x = .error e → ∃ text, e = .invalidResponse text

namespace Checks

theorem ok {Q : α → Prop} {a : α} (h : Q a) : Checks (.ok a) True Q where
  ok_iff := ⟨fun _ => trivial, fun _ => ⟨a, rfl⟩⟩
  value _ hb := Except.ok.inj hb ▸ h
  invalid := nofun

/-- An error is handed on, whatever would have been checked after it. -/
theorem error {e : MmcStatusError} {V V' : Prop} {Q : α → Prop} {Q' : β → Prop}
    (h : Checks (.error e) V Q) : Checks (.error e) (V ∧ V') Q' := by
  refine ⟨⟨?_, ?_⟩, nofun, ?_⟩
  · intro hok
    rcases hok with ⟨b, hb⟩
    cases hb
  · intro hboth
    rcases hboth with ⟨hv, _⟩
    obtain ⟨a, ha⟩ := h.ok_iff.mpr hv
    cases ha
  · intro e' he
    cases he
    exact h.invalid e rfl

theorem bind {x : Except MmcStatusError α} {f : α → Except MmcStatusError β} {V V' : Prop}
    {Q : α → Prop} {Q' : β → Prop} (hx : Checks x V Q) (hf : ∀ a, Q a → Checks (f a) V' Q') :
    Checks (x >>= f) (V ∧ V') Q' := by
  cases x with
  | ok a =>
    have hv : V := hx.ok_iff.mp ⟨a, rfl⟩
    have h := hf a (hx.value a rfl)
    exact ⟨h.ok_iff.trans (and_iff_right hv).symm, h.value, h.invalid⟩
  | error e => exact hx.error

theorem congr {x : Except MmcStatusError α} {V V' : Prop} {Q : α → Prop} (h : Checks x V Q)
    (hv : V ↔ V') : Checks x V' Q :=
  ⟨h.ok_iff.trans hv, h.value, h.invalid⟩

end Checks

section Codes
variable {E : Type} [Discriminants E]

theorem tryInto_checks {n : Nat} {e : Option E} {V : Prop} {Q : E → Prop}
    (hv : (∃ x, e = some x) ↔ V) (hq : ∀ x, e = some x → Q x) : Checks (tryInto n e) V Q := by
  cases e with
  | none =>
    refine ⟨⟨?_, ?_⟩, nofun, ?_⟩
    · intro hsome
      rcases hsome with ⟨x, hx⟩
      cases hx
    · intro h
      obtain ⟨x, hx⟩ := hv.mpr h
      cases hx
    · intro e' he
      exact ⟨_, (Except.error.inj he).symm⟩
  | some x =>
    have hvalid : V := hv.mp ⟨x, rfl⟩
    exact (Checks.ok (hq x rfl)).congr (iff_of_true trivial hvalid)

theorem tryNonZero_checks {n : Nat} {e : Option E} {V : Prop} {Q : Option E → Prop}
    (hv : (∃ x, e = some x) ↔ V) (hq : ∀ x, e = some x → n ≠ 0 → Q (some x)) (h0 : n = 0 → Q none) :
    Checks (tryNonZero n e) (n = 0 ∨ V) Q := by
  by_cases hn : n = 0
  · rw [tryNonZero, if_neg (not_not.mpr hn)]
    exact (Checks.ok (h0 hn)).congr (iff_of_true trivial (.inl hn))
  · rw [tryNonZero, if_pos hn]
    have hsome : ∀ x, e = some x → Q (some x) := by
      intro x hx
      exact hq x hx hn
    apply Checks.congr
    · apply (tryInto_checks hv hsome).bind
      intro x hx
      exact Checks.ok hx
    · rw [and_true, or_iff_right hn]

/-- A coded field whose codes have no gaps. -/
theorem checks_code (lo len : Nat)
    (h : (Discriminants.variants : List E).map Discriminants.code = List.range' lo len) (n : Nat) :
    Checks (tryInto n (tryFrom E n)) (lo ≤ n ∧ n < lo + len) fun e => Discriminants.code e = n :=
  tryInto_checks (exists_tryFrom_iff h n) fun _ => tryFrom_eq_some_iff.mp

theorem checks_optional (len : Nat)
    (h : (Discriminants.variants : List E).map Discriminants.code = List.range' 1 len) (n : Nat) :
    Checks (tryNonZero n (tryFrom E n)) (n ≤ len)
      fun e => e.map Discriminants.code = nonZero n := by
  refine (tryNonZero_checks (exists_tryFrom_iff h n) ?_ ?_).congr (by omega)
  · intro x hx hn
    rw [Option.map_some, tryFrom_eq_some_iff.mp hx, nonZero, if_neg hn]
  · intro hn
    rw [nonZero, if_pos hn]
    rfl

end Codes

def RequestCode (n : Nat) : Prop :=
  n = 0x1 ∨ 0x101 ≤ n ∧ n ≤ 0x104 ∨ n = 0x106 ∨ n = 0x107 ∨ 0xF000 ≤ n ∧ n ≤ 0xFFFF

theorem ExternalRequest.code_iff (n : Nat) :
    (∃ x : ExternalRequest, Discriminants.code x = n) ↔ RequestCode n ∧ n ≤ 0xF000 := by
  constructor
  · intro hcode
    rcases hcode with ⟨x, rfl⟩
    unfold RequestCode
    cases x <;> decide
  · intro hcode
    rcases hcode with ⟨h | h | h | h | h, hle⟩
    · exact ⟨.overrun, h.symm⟩
    · have hn : n = 0x101 ∨ n = 0x102 ∨ n = 0x103 ∨ n = 0x104 := by omega
      rcases hn with rfl | rfl | rfl | rfl
      · exact ⟨.play, rfl⟩
      · exact ⟨.rewindOrBack, rfl⟩
      · exact ⟨.fastForward, rfl⟩
      · exact ⟨.pause, rfl⟩
    · exact ⟨.stop, h.symm⟩
    · exact ⟨.ascii, h.symm⟩
    · exact ⟨.vendorUnique, Nat.le_antisymm h.1 hle⟩

theorem ExternalRequest.tryFrom_iff (n : Nat) :
    (∃ x, ExternalRequest.tryFrom n = some x) ↔ RequestCode n := by
  unfold ExternalRequest.tryFrom
  split
  · have hcode : RequestCode n := by
      unfold RequestCode
      omega
    exact iff_of_true ⟨_, rfl⟩ hcode
  · simp only [tryFrom_eq_some_iff, ExternalRequest.code_iff]
    unfold RequestCode
    omega

theorem checks_request (n : Nat) :
    Checks (tryNonZero n (ExternalRequest.tryFrom n)) (n = 0 ∨ RequestCode n) fun request =>
      if 0xF000 ≤ n then request = some .vendorUnique
      else request.map Discriminants.code = nonZero n := by
  apply tryNonZero_checks (ExternalRequest.tryFrom_iff n)
  · intro x hx hn
    unfold ExternalRequest.tryFrom at hx
    split at hx
    · rw [if_pos (by omega), Option.some.inj hx]
    · have hcode : Discriminants.code x = n := tryFrom_eq_some_iff.mp hx
      split
      · have hle := ((ExternalRequest.code_iff n).mp ⟨x, hcode⟩).2
        have hunique : Discriminants.code x = Discriminants.code ExternalRequest.vendorUnique :=
          hcode.trans (Nat.le_antisymm hle ‹_›)
        rw [code_injective hunique]
      · rw [Option.map_some, hcode, nonZero, if_neg hn]
  · rintro rfl
    rfl

end Checks

section Settles

def Settles (x : Act Bytes MmcStatusError α) (input : Bytes) (V : Prop) (Q : α → Prop) : Prop :=
  ∃ r rest, x input = .ret (r, rest) ∧ Checks r V Q

variable {input : Bytes} {V V' : Prop} {Q : α → Prop} {Q' : β → Prop}

theorem settles_pure {a : α} (h : Q a) : Settles (pure a) input True Q :=
  ⟨.ok a, input, rfl, .ok h⟩

theorem settles_bind {x : Except MmcStatusError α} {f : α → Act Bytes MmcStatusError β}
    (hx : Checks x V Q) (hf : ∀ a, Q a → Settles (f a) input V' Q') :
    Settles (Act.ofExcept x >>= f) input (V ∧ V') Q' := by
  cases x with
  | ok a =>
    have hv : V := hx.ok_iff.mp ⟨a, rfl⟩
    obtain ⟨r, rest, hr, h⟩ := hf a (hx.value a rfl)
    exact ⟨r, rest, hr, h.congr (and_iff_right hv).symm⟩
  | error e => exact ⟨.error e, input, rfl, hx.error⟩

theorem Settles.congr {x : Act Bytes MmcStatusError α} (h : Settles x input V Q) (hv : V ↔ V') :
    Settles x input V' Q := by
  obtain ⟨r, rest, hr, hc⟩ := h
  exact ⟨r, rest, hr, hc.congr hv⟩

theorem settles_last {x : Except MmcStatusError α} {f : α → β} (hx : Checks x V Q)
    (hf : ∀ a, Q a → Q' (f a)) : Settles (Act.ofExcept x >>= fun a => pure (f a)) input V Q' :=
  (settles_bind hx fun a ha => settles_pure (hf a ha)).congr (and_iff_left trivial)

end Settles

/-- What a query asks for, and what it makes of the event descriptor. -/
structure EventRule (α : Type) where
  eventClass : EventClass
  size : Nat
  Valid : Vector UInt8 12 → Prop
  Meets : Vector UInt8 12 → α → Prop

def operationalRule : EventRule OperationalStatus where
  eventClass := .operationalChange
  size := 4
  Valid d := (be16 d[6]! d[7]!).toNat ≤ 5
  Meets d v := v.event.map Discriminants.code = nonZero (be16 d[6]! d[7]!).toNat ∧
    v.persistentPrevent = bit d[5]! 7

def powerRule : EventRule PowerStatus where
  eventClass := .powerManagement
  size := 2
  Valid d := (d[4]! &&& 15).toNat ≤ 2 ∧ 1 ≤ d[5]!.toNat ∧ d[5]!.toNat ≤ 4
  Meets d v := v.event.map Discriminants.code = nonZero (d[4]! &&& 15).toNat ∧
    Discriminants.code v.state = d[5]!.toNat

def externalRule : EventRule ExternalRequestStatus where
  eventClass := .externalRequest
  size := 4
  Valid d := (d[4]! &&& 15).toNat ≤ 3 ∧ (d[5]! &&& 15).toNat ≤ 1 ∧
    ((be16 d[6]! d[7]!).toNat = 0 ∨ RequestCode (be16 d[6]! d[7]!).toNat)
  Meets d v := v.event.map Discriminants.code = nonZero (d[4]! &&& 15).toNat ∧
    Discriminants.code v.state = (d[5]! &&& 15).toNat ∧
    if 0xF000 ≤ (be16 d[6]! d[7]!).toNat then v.request = some .vendorUnique
    else v.request.map Discriminants.code = nonZero (be16 d[6]! d[7]!).toNat

def mediaRule : EventRule MediaStatus where
  eventClass := .media
  size := 4
  Valid d := (d[4]! &&& 15).toNat ≤ 6
  Meets d v := v.event.map Discriminants.code = nonZero (d[4]! &&& 15).toNat ∧
    v.state.bits = d[5]! &&& 3 ∧ v.startSlot = d[6]! ∧ v.endSlot = d[7]!

def multihostRule : EventRule MultiHostStatus where
  eventClass := .multiHost
  size := 4
  Valid d := (d[4]! &&& 15).toNat ≤ 3 ∧ (d[5]! &&& 15).toNat ≤ 1 ∧ (be16 d[6]! d[7]!).toNat ≤ 3
  Meets d v := v.event.map Discriminants.code = nonZero (d[4]! &&& 15).toNat ∧
    Discriminants.code v.state = (d[5]! &&& 15).toNat ∧
    v.priority.map Discriminants.code = nonZero (be16 d[6]! d[7]!).toNat

def busyRule : EventRule BusyStatus where
  eventClass := .deviceBusy
  size := 4
  Valid d := (d[4]! &&& 15).toNat ≤ 2 ∧ d[5]!.toNat ≤ 1
  Meets d v := v.event.map Discriminants.code = nonZero (d[4]! &&& 15).toNat ∧
    Discriminants.code v.state = d[5]!.toNat ∧
    v.busyTime = if v.state = .notBusy then none else some ⟨(be16 d[6]! d[7]!).toNat⟩

section Descriptors
variable {W : Winnow} {d : Vector UInt8 12}

/-- The event descriptor of the response `d`, cut off after `n` bytes, is read by the rule. -/
structure Decodes (descriptor : Act Bytes MmcStatusError α) (rule : EventRule α)
    (d : Vector UInt8 12) : Prop where
  long : ∀ n, rule.size ≤ n →
    Settles descriptor ((d.toList.drop 4).take n) (rule.Valid d) (rule.Meets d)
  short : ∀ n, n < rule.size → ∃ text rest,
    descriptor ((d.toList.drop 4).take n) = .ret (.error (.invalidResponse text), rest)

theorem decodes_of_reads {p : Parser Bytes W.ContextError β} {f : β → Act Bytes MmcStatusError α}
    {rule : EventRule α} {g : Grammar Bytes β} {ok : Bytes → Prop} {value : Bytes → β} {b : β}
    (hp : accept p = g) (h : Reads g rule.size ok value) (hsize : rule.size ≤ 8)
    (hok : ∀ bs, ok bs) (hb : value ((d.toList.drop 4).take rule.size) = b)
    (hf : ∀ rest, Settles (f b) rest (rule.Valid d) (rule.Meets d)) :
    Decodes (parseNext (ofContext W) p >>= f) rule d where
  long n hn := by
    have hlen : rule.size ≤ (d.toList.drop 4).length := by simpa using hsize
    obtain ⟨rest, hread⟩ := Reads.parseNext_accepts hp h hn hlen (hok _)
    rw [hb] at hread
    obtain ⟨r, rest', hr, hc⟩ := hf rest
    exact ⟨r, rest', by rw [Act.bind_ok hread, hr], hc⟩
  short n hn := by
    obtain ⟨e, he⟩ := Reads.parseNext_rejects hp h fun hle => absurd hle (Nat.not_le_of_lt hn)
    exact ⟨_, _, Act.bind_error he f⟩

theorem toList_twelve (d : Vector UInt8 12) :
    d.toList = [d[0]!, d[1]!, d[2]!, d[3]!, d[4]!, d[5]!, d[6]!, d[7]!, d[8]!, d[9]!, d[10]!,
      d[11]!] := by
  rw [toList_eq_ofFn]
  rfl

theorem decodes_code_byte_number {γ : Type} {g : UInt8 → γ} {rule : EventRule α}
    {p : Parser Bytes W.ContextError (UInt8 × γ × UInt16)}
    {f : UInt8 × γ × UInt16 → Act Bytes MmcStatusError α} (hsize : rule.size = 4)
    (hp : accept p = .seq (.byteOf (· &&& 15)) (.seq (.byteOf g) .beU16))
    (hf : ∀ rest, Settles (f (d[4]! &&& 15, g d[5]!, be16 d[6]! d[7]!)) rest (rule.Valid d)
      (rule.Meets d)) :
    Decodes (parseNext (ofContext W) p >>= f) rule d := by
  have hreads := (Reads.byteOf (· &&& 15)).seq ((Reads.byteOf g).seq .beU16)
  change Reads _ 4 _ _ at hreads
  rw [← hsize] at hreads
  exact decodes_of_reads hp hreads (by omega) (fun _ => ⟨trivial, trivial, trivial⟩)
    (by rw [hsize, toList_twelve]; rfl) hf

section Fields
variable (hW : W.AsDocumented)
include hW

theorem parseEventCode_accept : accept (parseEventCode W) = .byteOf (· &&& 15) := by
  rw [parseEventCode, hW.context, hW.bits, hW.preceded, hW.take, hW.bitsTake,
    Grammar.bits_lowNibble]

theorem lowNibble_accept :
    accept (W.bits (W.preceded (W.bitsTake 4) (W.bitsTake 4))) = .byteOf (· &&& 15) := by
  rw [hW.bits, hW.preceded, hW.bitsTake, Grammar.bits_lowNibble_of_bits]

theorem operationalDescriptor_decodes :
    Decodes (operationalDescriptor W) operationalRule d := by
  refine decodes_code_byte_number (g := fun b => (bit b 7, b &&& 15)) rfl ?_ fun rest => ?_
  · rw [hW.context, hW.seq, hW.seq, parseEventCode_accept hW, hW.bits, hW.separatedPair, hW.bool,
      hW.take, hW.bitsTake, hW.beU16, Grammar.bits_highBit_lowNibble]
  · apply settles_last (checks_optional 5 rfl _)
    intro event hevent
    exact ⟨hevent, rfl⟩

theorem powerDescriptor_decodes : Decodes (powerDescriptor W) powerRule d := by
  refine decodes_of_reads (b := (d[4]! &&& 15, d[5]!)) ?_ ((Reads.byteOf (· &&& 15)).seq .u8)
    (by decide) (fun _ => ⟨trivial, trivial⟩) (by rw [toList_twelve]; rfl) fun rest => ?_
  · rw [hW.context, hW.seq, parseEventCode_accept hW, hW.u8]
  · apply Settles.congr
    · apply settles_bind (checks_optional 2 rfl _)
      intro event hevent
      apply settles_last (checks_code 1 4 rfl _)
      intro state hstate
      exact ⟨hevent, hstate⟩
    · rw [powerRule]
      omega

theorem externalDescriptor_decodes : Decodes (externalDescriptor W) externalRule d := by
  refine decodes_code_byte_number (g := (· &&& 15)) rfl ?_ fun rest => ?_
  · rw [hW.context, hW.seq, hW.seq, parseEventCode_accept hW, lowNibble_accept hW, hW.beU16]
  · apply Settles.congr
    · apply settles_bind (checks_optional 3 rfl _)
      intro event hevent
      apply settles_bind (checks_code 0 2 rfl _)
      intro state hstate
      apply settles_last (checks_request _)
      intro request hrequest
      exact ⟨hevent, hstate, hrequest⟩
    · apply and_congr_right'
      apply and_congr_left'
      omega

theorem mediaDescriptor_decodes : Decodes (mediaDescriptor W) mediaRule d := by
  refine decodes_of_reads (b := (d[4]! &&& 15, d[5]!, d[6]!, d[7]!)) ?_
    ((Reads.byteOf (· &&& 15)).seq (Reads.u8.seq (Reads.u8.seq .u8))) (by decide)
    (fun _ => ⟨trivial, trivial, trivial, trivial⟩) (by rw [toList_twelve]; rfl) fun rest => ?_
  · rw [hW.context, hW.seq, hW.seq, hW.seq, parseEventCode_accept hW, hW.u8]
  · apply settles_last (checks_optional 6 rfl _)
    intro event hevent
    exact ⟨hevent, rfl, rfl, rfl⟩

theorem multihostDescriptor_decodes : Decodes (multihostDescriptor W) multihostRule d := by
  refine decodes_code_byte_number (g := (· &&& 15)) rfl ?_ fun rest => ?_
  · rw [hW.context, hW.seq, hW.seq, parseEventCode_accept hW, lowNibble_accept hW, hW.beU16]
  · apply Settles.congr
    · apply settles_bind (checks_optional 3 rfl _)
      intro event hevent
      apply settles_bind (checks_code 0 2 rfl _)
      intro state hstate
      apply settles_last (checks_optional 3 rfl _)
      intro priority hpriority
      exact ⟨hevent, hstate, hpriority⟩
    · rw [multihostRule]
      omega

theorem busyDescriptor_decodes : Decodes (busyDescriptor W) busyRule d := by
  refine decodes_code_byte_number (g := fun b => b) rfl ?_ fun rest => ?_
  · rw [hW.context, hW.seq, hW.seq, parseEventCode_accept hW, hW.u8, hW.beU16,
      Grammar.u8_eq_byteOf]
  · apply Settles.congr
    · apply settles_bind (checks_optional 2 rfl _)
      intro event hevent
      apply settles_last (checks_code 0 2 rfl _)
      intro state hstate
      exact ⟨hevent, hstate, ite_not _ _ _⟩
    · rw [busyRule]
      omega

end Fields

end Descriptors

end LibcdioRs
