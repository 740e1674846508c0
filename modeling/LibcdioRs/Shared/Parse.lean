import LibcdioRs.Shared.Bytes

/-!
# Parsers built from combinators

`Winnow` stands for the combinators of the parsing crate: their code is not
read here. `Winnow.AsDocumented` says of each of them what it accepts, as a
`Grammar`; nothing is assumed about the errors of a parser that fails.

Bit parsers work on the bits of the remaining bytes, the highest bit first.
-/

namespace Parse

open Rust
set_option autoImplicit false

variable {ι ε τ α β γ : Type}

/-- `parse_next`: the output and the rest of the input, or an error. -/
abbrev Parser (ι ε α : Type) : Type := ι → Except ε (α × ι)

/-- What is accepted: the output and the rest of the input. -/
abbrev Grammar (ι α : Type) : Type := ι → Option (α × ι)

def accept (p : Parser ι ε α) : Grammar ι α := fun input => (p input).toOption

/-- Run a parser on an input that is a mutable variable of the caller. -/
def parseNext {ε' : Type} (fromError : ε → ε') (p : Parser ι ε α) : Act ι ε' α := fun input =>
  match p input with
  | .ok (a, rest) => .ret (.ok a, rest)
  | .error e => .ret (.error (fromError e), input)

theorem parseNext_some {ε' : Type} {fromError : ε → ε'} {p : Parser ι ε α} {input rest : ι} {a : α}
    (h : accept p input = some (a, rest)) : parseNext fromError p input = .ret (.ok a, rest) := by
  unfold accept at h
  unfold parseNext
  cases hp : p input with
  | ok r =>
    rw [hp] at h
    simp only [Except.toOption, Option.some.injEq] at h
    rw [h]
  | error e => rw [hp] at h; cases h

theorem parseNext_none {ε' : Type} {fromError : ε → ε'} {p : Parser ι ε α} {input : ι}
    (h : accept p input = none) :
    ∃ e, parseNext fromError p input = .ret (.error (fromError e), input) := by
  unfold accept at h
  unfold parseNext
  cases hp : p input with
  | ok r => rw [hp] at h; cases h
  | error e => exact ⟨e, rfl⟩

namespace Grammar

/-- A tuple of parsers runs in order. -/
def seq (p : Grammar ι α) (q : Grammar ι β) : Grammar ι (α × β) := fun input =>
  (p input).bind fun x => (q x.2).map fun y => ((x.1, y.1), y.2)

def preceded (ignored : Grammar ι α) (p : Grammar ι β) : Grammar ι β := fun input =>
  (ignored input).bind fun x => p x.2

def separatedPair (first : Grammar ι α) (sep : Grammar ι β) (second : Grammar ι γ) :
    Grammar ι (α × γ) :=
  seq first (preceded sep second)

def verify (p : Grammar ι α) (ok : α → Bool) : Grammar ι α := fun input =>
  (p input).bind fun x => if ok x.1 then some x else none

def take (n : Nat) : Grammar (List τ) (List τ) := fun input =>
  if n ≤ input.length then some (input.take n, input.drop n) else none

def rest : Grammar (List τ) (List τ) := fun input => some (input, [])

def lengthTake (count : Grammar (List τ) UInt16) : Grammar (List τ) (List τ) := fun input =>
  (count input).bind fun x => take x.1.toNat x.2

def lengthAndThen (count : Grammar (List τ) UInt16) (p : Grammar (List τ) α) :
    Grammar (List τ) α := fun input =>
  (lengthTake count input).bind fun x => (p x.1).map fun y => (y.1, x.2)

def u8 : Grammar Bytes UInt8
  | b :: bs => some (b, bs)
  | [] => none

def byteOf (f : UInt8 → α) : Grammar Bytes α
  | b :: bs => some (f b, bs)
  | [] => none

def beU16 : Grammar Bytes UInt16
  | b0 :: b1 :: bs => some (be16 b0 b1, bs)
  | _ => none

def beU32 : Grammar Bytes UInt32
  | b0 :: b1 :: b2 :: b3 :: bs => some (be32 b0 b1 b2 b3, bs)
  | _ => none

def byteBits (b : UInt8) : List Bool :=
  [bit b 7, bit b 6, bit b 5, bit b 4, bit b 3, bit b 2, bit b 1, bit b 0]

def bitsValue (bs : List Bool) : UInt8 := bs.foldl (fun n b => 2 * n + (if b then 1 else 0)) 0

/-- A bit parser on bytes; a byte that was taken in part is dropped. -/
def bits (p : Grammar (List Bool) α) : Grammar Bytes α := fun input =>
  (p (input.flatMap byteBits)).map fun x => (x.1, input.drop (input.length - x.2.length / 8))

def bool : Grammar (List Bool) Bool
  | b :: bs => some (b, bs)
  | [] => none

def bitsTake (n : Nat) : Grammar (List Bool) UInt8 := fun input =>
  (take n input).map fun x => (bitsValue x.1, x.2)

@[simp] theorem length_flatMap_byteBits (bs : Bytes) :
    (bs.flatMap byteBits).length = 8 * bs.length := by
  induction bs with
  | nil => rfl
  | cons b bs ih => simp [ih, byteBits]; omega

theorem bits_cons {p : Grammar (List Bool) α} {b : UInt8} {bs : Bytes} {a : α} {left : List Bool}
    (h : p (byteBits b ++ bs.flatMap byteBits) = some (a, left ++ bs.flatMap byteBits))
    (hleft : left.length < 8) : bits p (b :: bs) = some (a, bs) := by
  have hdrop : (b :: bs).length - (left ++ bs.flatMap byteBits).length / 8 = 1 := by
    rw [List.length_append, length_flatMap_byteBits, List.length_cons]
    omega
  rw [bits, List.flatMap_cons, h, Option.map_some, hdrop, List.drop_one, List.tail_cons]

theorem bits_eq_byteOf {p : Grammar (List Bool) α} {f : UInt8 → α} (left : UInt8 → List Bool)
    (h : ∀ b bs, p (byteBits b ++ bs) = some (f b, left b ++ bs))
    (hleft : ∀ b, (left b).length < 8) (hnil : p [] = none) : bits p = byteOf f := by
  funext input
  cases input with
  | nil => simp [bits, byteOf, hnil]
  | cons b bs => exact bits_cons (h b _) (hleft b)

theorem byteBits_take_drop (b : UInt8) :
    bitsValue ((byteBits b).take 4) = b >>> 4 ∧ bitsValue ((byteBits b).drop 4) = b &&& 15 ∧
      bitsValue ((byteBits b).drop 5) = b &&& 7 := by
  have all : ∀ n : Fin 256,
      bitsValue ((byteBits (.ofNat n)).take 4) = UInt8.ofNat n >>> 4 ∧
      bitsValue ((byteBits (.ofNat n)).drop 4) = UInt8.ofNat n &&& 15 ∧
      bitsValue ((byteBits (.ofNat n)).drop 5) = UInt8.ofNat n &&& 7 := by decide +kernel
  have h := all ⟨b.toNat, b.toNat_lt⟩
  simpa using h

theorem take_byteBits (b : UInt8) (bs : List Bool) :
    take 4 (byteBits b ++ bs) = some ((byteBits b).take 4, (byteBits b).drop 4 ++ bs) := by
  simp [take, byteBits]

theorem bitsTake_high (b : UInt8) (bs : List Bool) :
    bitsTake 4 (byteBits b ++ bs) = some (b >>> 4, (byteBits b).drop 4 ++ bs) := by
  rw [bitsTake, take_byteBits, Option.map_some, (byteBits_take_drop b).1]

theorem bitsTake_low (b : UInt8) (bs : List Bool) :
    bitsTake 4 ((byteBits b).drop 4 ++ bs) = some (b &&& 15, bs) := by
  rw [← (byteBits_take_drop b).2.1]
  simp [bitsTake, take, byteBits]

theorem bits_lowNibble : bits (preceded (take 4) (bitsTake 4)) = byteOf (· &&& 15) :=
  bits_eq_byteOf (fun _ => []) (fun b bs => by simp [preceded, take_byteBits, bitsTake_low])
    (fun _ => by decide) rfl

theorem bits_lowNibble_of_bits : bits (preceded (bitsTake 4) (bitsTake 4)) = byteOf (· &&& 15) :=
  bits_eq_byteOf (fun _ => []) (fun b bs => by simp [preceded, bitsTake_high, bitsTake_low])
    (fun _ => by decide) rfl

theorem bits_nibbles :
    bits (seq (bitsTake 4) (bitsTake 4)) = byteOf fun b => (b >>> 4, b &&& 15) :=
  bits_eq_byteOf (fun _ => []) (fun b bs => by simp [seq, bitsTake_high, bitsTake_low])
    (fun _ => by decide) rfl

theorem bits_highBit : bits bool = byteOf fun b => bit b 7 :=
  bits_eq_byteOf (fun b => (byteBits b).drop 1) (fun _ _ => rfl) (fun _ => by simp [byteBits]) rfl

theorem bits_highBit_lowNibble :
    bits (separatedPair bool (take 3) (bitsTake 4)) = byteOf fun b => (bit b 7, b &&& 15) :=
  bits_eq_byteOf (fun _ => []) (fun b bs => by
    have h := bitsTake_low b bs
    simp only [byteBits, List.drop_succ_cons, List.drop_zero, List.cons_append,
      List.nil_append] at h
    simp [separatedPair, seq, preceded, take, bool, byteBits, h]) (fun _ => by decide) rfl

theorem bits_highBit_lowBits :
    bits (separatedPair bool (bitsTake 4) (bitsTake 3)) = byteOf fun b => (bit b 7, b &&& 7) :=
  bits_eq_byteOf (fun _ => []) (fun b bs => by
    have h := (byteBits_take_drop b).2.2
    simp only [byteBits, List.drop_succ_cons, List.drop_zero] at h
    simp [separatedPair, seq, preceded, bitsTake, take, bool, byteBits, h]) (fun _ => by decide) rfl

theorem u8_eq_byteOf : u8 = byteOf fun b => b := by
  funext input
  cases input <;> rfl

end Grammar

/-- The combinators that the code uses. `text` is the `Display` of an error. -/
structure Winnow where
  ContextError : Type
  text : ContextError → String
  u8 : Parser Bytes ContextError UInt8
  beU16 : Parser Bytes ContextError UInt16
  beU32 : Parser Bytes ContextError UInt32
  take {τ : Type} : Nat → Parser (List τ) ContextError (List τ)
  rest {τ : Type} : Parser (List τ) ContextError (List τ)
  lengthTake {τ : Type} : Parser (List τ) ContextError UInt16 →
    Parser (List τ) ContextError (List τ)
  lengthAndThen {τ α : Type} : Parser (List τ) ContextError UInt16 →
    Parser (List τ) ContextError α → Parser (List τ) ContextError α
  seq {ι α β : Type} : Parser ι ContextError α → Parser ι ContextError β →
    Parser ι ContextError (α × β)
  preceded {ι α β : Type} : Parser ι ContextError α → Parser ι ContextError β →
    Parser ι ContextError β
  separatedPair {ι α β γ : Type} : Parser ι ContextError α → Parser ι ContextError β →
    Parser ι ContextError γ → Parser ι ContextError (α × γ)
  verify {ι α : Type} : Parser ι ContextError α → (α → Bool) → Parser ι ContextError α
  context {ι α : Type} : String → Parser ι ContextError α → Parser ι ContextError α
  bits {α : Type} : Parser (List Bool) ContextError α → Parser Bytes ContextError α
  bool : Parser (List Bool) ContextError Bool
  bitsTake : Nat → Parser (List Bool) ContextError UInt8

namespace Winnow

/-- What the documentation of each combinator says that it accepts. -/
structure AsDocumented (W : Winnow) : Prop where
  u8 : accept W.u8 = Grammar.u8
  beU16 : accept W.beU16 = Grammar.beU16
  beU32 : accept W.beU32 = Grammar.beU32
  take {τ : Type} (n : Nat) : accept (W.take (τ := τ) n) = Grammar.take n
  rest {τ : Type} : accept (W.rest (τ := τ)) = Grammar.rest
  lengthTake {τ : Type} (count : Parser (List τ) W.ContextError UInt16) :
    accept (W.lengthTake count) = Grammar.lengthTake (accept count)
  lengthAndThen {τ α : Type} (count : Parser (List τ) W.ContextError UInt16)
    (p : Parser (List τ) W.ContextError α) :
    accept (W.lengthAndThen count p) = Grammar.lengthAndThen (accept count) (accept p)
  seq {ι α β : Type} (p : Parser ι W.ContextError α) (q : Parser ι W.ContextError β) :
    accept (W.seq p q) = Grammar.seq (accept p) (accept q)
  preceded {ι α β : Type} (p : Parser ι W.ContextError α) (q : Parser ι W.ContextError β) :
    accept (W.preceded p q) = Grammar.preceded (accept p) (accept q)
  separatedPair {ι α β γ : Type} (p : Parser ι W.ContextError α) (q : Parser ι W.ContextError β)
    (r : Parser ι W.ContextError γ) :
    accept (W.separatedPair p q r) = Grammar.separatedPair (accept p) (accept q) (accept r)
  verify {ι α : Type} (p : Parser ι W.ContextError α) (ok : α → Bool) :
    accept (W.verify p ok) = Grammar.verify (accept p) ok
  context {ι α : Type} (label : String) (p : Parser ι W.ContextError α) :
    accept (W.context label p) = accept p
  bits {α : Type} (p : Parser (List Bool) W.ContextError α) :
    accept (W.bits p) = Grammar.bits (accept p)
  bool : accept W.bool = Grammar.bool
  bitsTake (n : Nat) : accept (W.bitsTake n) = Grammar.bitsTake n

section Plain

private def bindParser {E ι ι' α β : Type} (p : Parser ι E α) (f : α × ι → Except E (β × ι')) :
    ι → Except E (β × ι') := fun input =>
  match p input with
  | .ok x => f x
  | .error e => .error e

private def ofGrammar (g : Grammar ι α) : Parser ι (List String) α := fun input =>
  match g input with
  | some x => .ok x
  | none => .error []

private def addLabel (label : String) : Except (List String) α → Except (List String) α
  | .ok x => .ok x
  | .error labels => .error (labels ++ [label])

/-- Combinators with the documented behaviour, whose errors are the labels around them. -/
def plain : Winnow where
  ContextError := List String
  text
    | [] => ""
    | label :: _ => "invalid " ++ label
  u8 := ofGrammar Grammar.u8
  beU16 := ofGrammar Grammar.beU16
  beU32 := ofGrammar Grammar.beU32
  take n := ofGrammar (Grammar.take n)
  rest := ofGrammar Grammar.rest
  lengthTake count := bindParser count fun x => ofGrammar (Grammar.take x.1.toNat) x.2
  lengthAndThen count p := bindParser count fun x =>
    bindParser (ofGrammar (Grammar.take x.1.toNat)) (fun y =>
      bindParser p (fun z => .ok (z.1, y.2)) y.1) x.2
  seq p q := bindParser p fun x => bindParser q (fun y => .ok ((x.1, y.1), y.2)) x.2
  preceded p q := bindParser p fun x => q x.2
  separatedPair p q r := bindParser p fun x => bindParser q (fun y =>
    bindParser r (fun z => .ok ((x.1, z.1), z.2)) y.2) x.2
  verify p ok := bindParser p fun x => if ok x.1 then .ok x else .error []
  context label p := fun input => addLabel label (p input)
  bits p := fun input =>
    bindParser p (fun x => .ok (x.1, input.drop (input.length - x.2.length / 8)))
      (input.flatMap Grammar.byteBits)
  bool := ofGrammar Grammar.bool
  bitsTake n := ofGrammar (Grammar.bitsTake n)

private theorem accept_ofGrammar (g : Grammar ι α) : accept (ofGrammar g) = g := by
  funext input
  cases h : g input <;> simp [accept, ofGrammar, h, Except.toOption]

private theorem toOption_ofGrammar (g : Grammar ι α) (input : ι) :
    (ofGrammar g input).toOption = g input :=
  congrFun (accept_ofGrammar g) input

private theorem toOption_bindParser {E ι' : Type} (p : Parser ι E α)
    {f : α × ι → Except E (β × ι')} {g : α × ι → Option (β × ι')}
    (h : ∀ x, (f x).toOption = g x) (input : ι) :
    (bindParser p f input).toOption = (accept p input).bind g := by
  unfold bindParser accept
  cases p input with
  | ok x => exact h x
  | error e => rfl

private theorem toOption_mapParser {E ι' : Type} (p : Parser ι E α) (f : α × ι → β × ι')
    (input : ι) :
    (bindParser p (fun x => .ok (f x)) input).toOption = (accept p input).map f := by
  unfold bindParser accept
  cases p input <;> rfl

private theorem toOption_addLabel (label : String) (x : Except (List String) α) :
    (addLabel label x).toOption = x.toOption := by
  cases x <;> rfl

theorem plain_asDocumented : plain.AsDocumented where
  u8 := accept_ofGrammar _
  beU16 := accept_ofGrammar _
  beU32 := accept_ofGrammar _
  take _ := accept_ofGrammar _
  rest := accept_ofGrammar Grammar.rest
  lengthTake count := funext (toOption_bindParser count fun x => toOption_ofGrammar _ x.2)
  lengthAndThen count p := by
    funext input
    have h := toOption_bindParser count (fun x => toOption_bindParser
      (ofGrammar (Grammar.take x.1.toNat)) (fun y => toOption_mapParser p (fun z => (z.1, y.2)) y.1)
      x.2) input
    simp only [accept_ofGrammar] at h
    rw [Grammar.lengthAndThen, Grammar.lengthTake, Option.bind_assoc]
    exact h
  seq p q := funext (toOption_bindParser p fun x => toOption_mapParser q _ x.2)
  preceded p q := funext (toOption_bindParser p fun _ => rfl)
  separatedPair p q r := by
    funext input
    have h := toOption_bindParser p (fun x => toOption_bindParser q
      (fun y => toOption_mapParser r (fun z => ((x.1, z.1), z.2)) y.2) x.2) input
    simp only [Grammar.separatedPair, Grammar.seq, Grammar.preceded, Option.map_bind]
    exact h
  verify p ok := funext (toOption_bindParser p fun x => by cases ok x.1 <;> rfl)
  context label p := funext fun input => toOption_addLabel label (p input)
  bits p := funext fun input => toOption_mapParser p _ (input.flatMap Grammar.byteBits)
  bool := accept_ofGrammar _
  bitsTake _ := accept_ofGrammar _

end Plain

end Winnow

end Parse
