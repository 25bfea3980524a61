import Mathlib.Algebra.Order.Ring.Nat

/-! Numerals of a fixed width in a radix up to ten, and a reader that stops at a limit. -/

namespace Radix

/-- The digit that a character stands for. -/
def digit? (radix : Nat) (char : Char) : Option Nat :=
  if '0'.toNat ≤ char.toNat ∧ char.toNat < '0'.toNat + radix then some (char.toNat - '0'.toNat)
  else none

/-- Read digits behind a number that was read already. -/
def read (radix limit : Nat) : Nat → List Char → Option Nat
  | total, [] => some total
  | total, char :: rest => do
    let digit ← digit? radix char
    -- The number has to stay below the limit after each digit.
    if total * radix + digit < limit then read radix limit (total * radix + digit) rest else none

/-- The last digits of a number, so many of them. -/
def write (radix : Nat) : Nat → Nat → List Char
  | 0, _ => []
  | width + 1, number => write radix width (number / radix) ++ [Char.ofNat ('0'.toNat + number % radix)]

variable {radix : Nat}

/-- A numeral has its width. -/
@[simp] theorem length_write (width number : Nat) : (write radix width number).length = width := by
  induction width generalizing number with
  | zero => rfl
  | succ width ih => rw [write, List.length_append, ih, List.length_singleton]

/-- There are only digits in it. -/
theorem mem_write {width number : Nat} {char : Char} (positive : 0 < radix)
    (member : char ∈ write radix width number) :
    ∃ digit < radix, char = Char.ofNat ('0'.toNat + digit) := by
  induction width generalizing number with
  | zero => cases member
  | succ width ih =>
    -- It is one of the digits in front, or the last one.
    rcases List.mem_append.mp member with front | last
    · exact ih front
    · exact ⟨number % radix, Nat.mod_lt _ positive, List.mem_singleton.mp last⟩

/-- A digit reads back. -/
theorem digit?_ofNat {digit : Nat} (small : radix ≤ 10) (bound : digit < radix) :
    digit? radix (Char.ofNat ('0'.toNat + digit)) = some digit := by
  have zero : '0'.toNat = 48 := rfl
  have code : (Char.ofNat ('0'.toNat + digit)).toNat = '0'.toNat + digit := by
    -- The code is that of a character, far below the surrogates.
    have valid : ('0'.toNat + digit).isValidChar := .inl (by omega)
    rw [Char.ofNat, dif_pos valid]
    rfl
  rw [digit?, code, if_pos (by omega)]
  congr 1
  omega

/-- A numeral reads back, as long as the limit is not reached. -/
theorem read_write {limit width number total : Nat} (positive : 0 < radix) (small : radix ≤ 10)
    (fits : number < radix ^ width) (bound : total * radix ^ width + number < limit)
    (rest : List Char) :
    read radix limit total (write radix width number ++ rest)
      = read radix limit (total * radix ^ width + number) rest := by
  -- By induction on the width; the last digit is read at the end.
  induction width generalizing number rest with
  | zero =>
    obtain rfl : number = 0 := by simpa using fits
    simp [write]
  | succ width ih =>
    have split : number / radix * radix + number % radix = number := Nat.div_add_mod' number radix
    -- The digits in front are worth the radix times as much as before.
    have whole : (total * radix ^ width + number / radix) * radix + number % radix
        = total * radix ^ (width + 1) + number := by
      rw [Nat.pow_succ, Nat.add_mul, Nat.add_assoc, split, Nat.mul_assoc]
    -- They fit into one place less.
    have front : number / radix < radix ^ width := by
      apply Nat.div_lt_of_lt_mul
      rw [Nat.mul_comm, ← Nat.pow_succ]
      exact fits
    -- The number so far is below the limit, as the whole number is.
    have below : total * radix ^ width + number / radix < limit := by
      have grows := Nat.le_mul_of_pos_right (total * radix ^ width + number / radix) positive
      omega
    rw [write, List.append_assoc, ih front below, List.singleton_append, read,
      digit?_ofNat small (Nat.mod_lt _ positive)]
    simp only [Option.bind_eq_bind, Option.bind_some]
    rw [whole, if_pos bound]

end Radix
