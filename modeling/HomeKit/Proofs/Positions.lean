import HomeKit.Bytes

/-!
# Positions in byte strings

A program that goes through a byte string by position reads slices of it and subtracts positions
from one another. Here both are tested: there is no result if a position is out of range (`slice?`)
or if the difference would be negative (`minus?`).
-/

namespace HomeKit

/-- The difference, if it is not negative. -/
def minus? (a b : Nat) : Option Nat :=
  if b ≤ a then some (a - b) else none

theorem minus?_of_le {a b : Nat} (h : b ≤ a) : minus? a b = some (a - b) :=
  if_pos h

/-- The part of a byte string between two positions, if they are in order and within it. -/
def slice? (bytes : Bytes) (start stop : Nat) : Option Bytes :=
  if start ≤ stop ∧ stop ≤ bytes.length then some ((bytes.take stop).drop start) else none

/-- Positions behind the front of a byte string are positions in the rest. -/
theorem slice?_append (front rest : Bytes) {start stop : Nat} (h : start ≤ stop)
    (hstop : stop ≤ rest.length) :
    slice? (front ++ rest) (front.length + start) (front.length + stop) =
      some ((rest.take stop).drop start) := by
  have hin : front.length + start ≤ front.length + stop ∧
      front.length + stop ≤ (front ++ rest).length := by
    rw [List.length_append]
    omega
  rw [slice?, if_pos hin, List.take_length_add_append, List.drop_length_add_append]

/-- What is between a front and a rest. -/
theorem slice?_between (front bytes rest : Bytes) {start stop : Nat}
    (hstart : front.length = start) (hstop : (front ++ bytes).length = stop) :
    slice? (front ++ bytes ++ rest) start stop = some bytes := by
  subst hstart hstop
  have hfits : bytes.length ≤ (bytes ++ rest).length := by
    rw [List.length_append]
    omega
  have hslice := slice?_append front (bytes ++ rest) (Nat.zero_le _) hfits
  rw [List.take_left, Nat.add_zero, List.drop_zero] at hslice
  rw [List.append_assoc, List.length_append, hslice]

theorem slice?_append_length (front rest : Bytes) :
    slice? (front ++ rest) front.length (front ++ rest).length = some rest := by
  have hslice := slice?_append front rest (Nat.zero_le _) (Nat.le_refl _)
  rw [List.take_length, List.drop_zero, ← List.length_append] at hslice
  exact hslice

theorem append_take_append_drop (front rest : Bytes) (length : Nat) :
    front ++ rest.take length ++ rest.drop length = front ++ rest := by
  rw [List.append_assoc, List.take_append_drop]

theorem length_append_take (front : Bytes) {rest : Bytes} {length : Nat}
    (h : length ≤ rest.length) : (front ++ rest.take length).length = front.length + length := by
  rw [List.length_append, List.length_take_of_le h]

end HomeKit
