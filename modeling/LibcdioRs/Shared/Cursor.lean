import LibcdioRs.Shared.Bytes
import LibcdioRs.Shared.Interleave

/-!
# A cursor over a file in memory

The abstract reader: a position in a list. A read delivers as much of the list
as the buffer holds, a seek goes exactly to its target.
-/

namespace Cursor

open Rust Interleave
set_option autoImplicit false

/-- `std::io::SeekFrom` -/
inductive SeekFrom where
  | start (offset : UInt64)
  | fromEnd (offset : Int64)
  | current (offset : Int64)

/-- The position that a seek asks for, in the integers. -/
def SeekFrom.target (size p : Nat) : SeekFrom → Int
  | .start offset => offset.toNat
  | .fromEnd offset => size + offset.toInt
  | .current offset => p + offset.toInt

inductive Op (α : Type) where
  | read (buf : List α)
  | seek (pos : SeekFrom)

/-- What the caller sees of an operation; a read also hands back the buffer. -/
inductive Obs (ε α : Type) where
  | read (res : Except ε Nat) (buf : List α)
  | seek (res : Except ε Nat)

variable {ε α : Type}

def window (F : List α) (p b : Nat) : List α := (F.drop p).take b

def step (F : List α) : Op α → Nat → Obs ε α × Nat
  | .read buf, p =>
    (.read (.ok (window F p buf.length).length) (overwrite buf (window F p buf.length)),
      p + (window F p buf.length).length)
  | .seek pos, p =>
    (.seek (.ok (pos.target F.length p).toNat), (pos.target F.length p).toNat)

/-- Seeks have a target that an unsigned position of `bits` bits can hold. -/
def InRange (bits : Nat) (F : List α) : Op α → Nat → Prop
  | .read _, _ => True
  | .seek pos, p => 0 ≤ pos.target F.length p ∧ pos.target F.length p < 2 ^ bits

@[simp] theorem length_window (F : List α) (p b : Nat) :
    (window F p b).length = min b (F.length - p) := by
  simp [window]

theorem window_of_le {F : List α} {p : Nat} (h : F.length ≤ p) (b : Nat) : window F p b = [] := by
  simp [window, List.drop_eq_nil_of_le h]

theorem window_append (F : List α) (p a b : Nat) :
    window F p a ++ window F (p + (window F p a).length) b = window F p (a + b) := by
  rw [length_window]
  by_cases h : a ≤ F.length - p
  · rw [Nat.min_eq_left h]
    simp only [window, List.take_add, List.drop_drop]
  · have hlen : F.length ≤ p + min a (F.length - p) := by omega
    rw [window_of_le hlen, List.append_nil, window, window,
      List.take_of_length_le (by simp; omega), List.take_of_length_le (by simp; omega)]

theorem window_append_drop (F : List α) (p b : Nat) :
    window F p b ++ F.drop (p + (window F p b).length) = F.drop p := by
  rw [length_window]
  by_cases h : b ≤ F.length - p
  · rw [Nat.min_eq_left h, window, ← List.drop_drop, List.take_append_drop]
  · have hend : F.length ≤ p + min b (F.length - p) := by omega
    rw [window, List.take_of_length_le (by rw [List.length_drop]; omega),
      List.drop_eq_nil_of_le hend, List.append_nil]

def delivered : Obs ε α → List α
  | .read (.ok n) buf => buf.take n
  | _ => []

theorem delivered_read (F : List α) (p : Nat) (buf : List α) :
    delivered (step F (.read buf) p : Obs ε α × Nat).1 = window F p buf.length := by
  have h : (window F p buf.length).length ≤ buf.length := by
    rw [length_window]
    exact Nat.min_le_left _ _
  simp [step, delivered, overwrite_of_le h]

/-- However the buffers are cut, reading delivers one stretch of the file. -/
theorem solo_reads (F : List α) (bufs : List (List α)) (p : Nat) :
    (solo (step F) (bufs.map .read) p : List (Obs ε α) × Nat).1.flatMap delivered =
      window F p (bufs.map List.length).sum := by
  induction bufs generalizing p with
  | nil => simp [solo, window]
  | cons buf bufs ih =>
    simp only [List.map_cons, solo, List.flatMap_cons, delivered_read, List.sum_cons]
    rw [← window_append, ← ih]
    rfl

end Cursor
