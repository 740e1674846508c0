import LibcdioRs.Shared.Parse

/-!
# Grammars that read a fixed number of tokens

The size of a sequence is the sum of the sizes of its parts, and what it tests
and yields is made of the tokens that each part reads.
-/

namespace Parse

open Rust
set_option autoImplicit false

variable {τ α β : Type}

theorem take_take_add (xs : List τ) (k l : Nat) : (xs.take (k + l)).take k = xs.take k := by
  rw [List.take_take, Nat.min_eq_left (Nat.le_add_right k l)]

theorem drop_take_add (xs : List τ) (k l : Nat) :
    (xs.take (k + l)).drop k = (xs.drop k).take l := by
  rw [List.drop_take, Nat.add_sub_cancel_left]

/-- `g` reads `size` tokens, which decide whether it accepts them and what it yields. -/
structure Reads (g : Grammar (List τ) α) (size : Nat) (ok : List τ → Prop)
    (value : List τ → α) : Prop where
  accepts : ∀ input, size ≤ input.length → ok (input.take size) →
    g input = some (value (input.take size), input.drop size)
  rejects : ∀ input, ¬ (size ≤ input.length ∧ ok (input.take size)) → g input = none

namespace Reads

theorem take (n : Nat) : Reads (Grammar.take (τ := τ) n) n (fun _ => True) id where
  accepts _ hlen _ := if_pos hlen
  rejects _ h := if_neg fun hlen => h ⟨hlen, trivial⟩

theorem byteOf (f : UInt8 → α) :
    Reads (Grammar.byteOf f) 1 (fun _ => True) fun bs => f (bs.getD 0 0) where
  accepts
    | _ :: _, _, _ => rfl
  rejects
    | [], _ => rfl
    | _ :: _, h => absurd ⟨by simp, trivial⟩ h

theorem u8 : Reads Grammar.u8 1 (fun _ => True) fun bs => bs.getD 0 0 := by
  rw [Grammar.u8_eq_byteOf]
  exact byteOf fun b => b

theorem beU16 :
    Reads Grammar.beU16 2 (fun _ => True) fun bs => be16 (bs.getD 0 0) (bs.getD 1 0) where
  accepts
    | _ :: _ :: _, _, _ => rfl
  rejects
    | [], _ => rfl
    | [_], _ => rfl
    | _ :: _ :: _, h => absurd ⟨by simp, trivial⟩ h

theorem beU32 : Reads Grammar.beU32 4 (fun _ => True) fun bs =>
    be32 (bs.getD 0 0) (bs.getD 1 0) (bs.getD 2 0) (bs.getD 3 0) where
  accepts
    | _ :: _ :: _ :: _ :: _, _, _ => rfl
  rejects
    | [], _ => rfl
    | [_], _ => rfl
    | [_, _], _ => rfl
    | [_, _, _], _ => rfl
    | _ :: _ :: _ :: _ :: _, h => absurd ⟨by simp, trivial⟩ h

section Combine
variable {p : Grammar (List τ) α} {q : Grammar (List τ) β} {k l : Nat}
variable {ok ok' : List τ → Prop} {value : List τ → α} {value' : List τ → β}

theorem seq (hp : Reads p k ok value) (hq : Reads q l ok' value') :
    Reads (Grammar.seq p q) (k + l) (fun xs => ok (xs.take k) ∧ ok' (xs.drop k))
      fun xs => (value (xs.take k), value' (xs.drop k)) where
  accepts input hlen hok := by
    rw [take_take_add, drop_take_add] at hok ⊢
    have hrest : l ≤ (input.drop k).length := by
      rw [List.length_drop]
      omega
    simp only [Grammar.seq, hp.accepts input (by omega) hok.1, Option.bind_some,
      hq.accepts _ hrest hok.2, Option.map_some, List.drop_drop]
  rejects input h := by
    rw [take_take_add, drop_take_add] at h
    by_cases hfirst : k ≤ input.length ∧ ok (input.take k)
    · have hsecond : ¬ (l ≤ (input.drop k).length ∧ ok' ((input.drop k).take l)) := by
        rw [List.length_drop]
        exact fun hl => h ⟨by omega, hfirst.2, hl.2⟩
      simp only [Grammar.seq, hp.accepts input hfirst.1 hfirst.2, Option.bind_some,
        hq.rejects _ hsecond, Option.map_none]
    · simp only [Grammar.seq, hp.rejects input hfirst, Option.bind_none]

theorem verify (hp : Reads p k ok value) (test : α → Bool) :
    Reads (Grammar.verify p test) k (fun xs => ok xs ∧ test (value xs) = true) value where
  accepts input hlen hok := by
    simp only [Grammar.verify, hp.accepts input hlen hok.1, Option.bind_some, hok.2, if_true]
  rejects input h := by
    by_cases hfirst : k ≤ input.length ∧ ok (input.take k)
    · have htest : ¬ test (value (input.take k)) = true := fun ht => h ⟨hfirst.1, hfirst.2, ht⟩
      simp only [Grammar.verify, hp.accepts input hfirst.1 hfirst.2, Option.bind_some,
        if_neg htest]
    · simp only [Grammar.verify, hp.rejects input hfirst, Option.bind_none]

theorem byte (b : UInt8) : Reads (Grammar.verify Grammar.u8 (· == b)) 1
    (fun bs => bs.getD 0 0 = b) fun bs => bs.getD 0 0 := by
  have h := u8.verify (· == b)
  simp only [true_and, beq_iff_eq] at h
  exact h

end Combine

section Prefix
variable {g : Grammar (List τ) α} {size : Nat} {ok : List τ → Prop} {value : List τ → α}

theorem accepts_take (h : Reads g size ok value) {xs : List τ} {n : Nat} (hn : size ≤ n)
    (hlen : size ≤ xs.length) (hok : ok (xs.take size)) :
    ∃ rest, g (xs.take n) = some (value (xs.take size), rest) := by
  have htake : (xs.take n).take size = xs.take size := by rw [List.take_take, Nat.min_eq_left hn]
  have hread := h.accepts (xs.take n) (by rw [List.length_take]; omega) (htake.symm ▸ hok)
  rw [htake] at hread
  exact ⟨_, hread⟩

theorem accepts_append (h : Reads g size ok value) {xs : List τ} (hlen : size ≤ xs.length)
    (hok : ok (xs.take size)) (ys : List τ) :
    g (xs ++ ys) = some (value (xs.take size), (xs ++ ys).drop size) := by
  have htake : (xs ++ ys).take size = xs.take size := List.take_append_of_le_length hlen
  have hread := h.accepts (xs ++ ys) (by rw [List.length_append]; omega) (htake.symm ▸ hok)
  rwa [htake] at hread

theorem rejects_append (h : Reads g size ok value) {xs : List τ} (hlen : size ≤ xs.length)
    (hok : ¬ ok (xs.take size)) (ys : List τ) : g (xs ++ ys) = none := by
  apply h.rejects
  intro hread
  rcases hread with ⟨_, hall⟩
  rw [List.take_append_of_le_length hlen] at hall
  exact hok hall

theorem rejects_take (h : Reads g size ok value) {xs : List τ} {n : Nat}
    (hn : size ≤ n → ¬ ok (xs.take size)) : g (xs.take n) = none := by
  refine h.rejects _ fun ⟨hlen, hok⟩ => ?_
  rw [List.length_take] at hlen
  have hsize : size ≤ n := by omega
  rw [List.take_take, Nat.min_eq_left hsize] at hok
  exact hn hsize hok

end Prefix

section ParseNext
variable {ε ε' : Type} {fromError : ε → ε'} {p : Parser (List τ) ε α} {g : Grammar (List τ) α}
variable {size n : Nat} {ok : List τ → Prop} {value : List τ → α} {xs : List τ}
variable (hp : accept p = g) (h : Reads g size ok value)
include hp h

theorem parseNext_accepts (hn : size ≤ n) (hlen : size ≤ xs.length) (hok : ok (xs.take size)) :
    ∃ rest, parseNext fromError p (xs.take n) = .ret (.ok (value (xs.take size)), rest) := by
  rw [← hp] at h
  obtain ⟨rest, hread⟩ := h.accepts_take hn hlen hok
  exact ⟨rest, parseNext_some hread⟩

theorem parseNext_rejects (hn : size ≤ n → ¬ ok (xs.take size)) :
    ∃ e, parseNext fromError p (xs.take n) = .ret (.error (fromError e), xs.take n) := by
  rw [← hp] at h
  exact parseNext_none (h.rejects_take hn)

end ParseNext

end Reads

end Parse
