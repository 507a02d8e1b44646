/-!
# Modular powers

`powMod b e m` is `Nat.pow b e % m` (`powMod_eq`), computed by squaring so that no number grows
beyond the square of the modulus.
-/

namespace HomeKit

def powMod (b e m : Nat) : Nat :=
  if _h : e = 0 then
    1 % m
  else
    let half := powMod (b * b % m) (e / 2) m
    if e % 2 = 1 then b * half % m else half
termination_by e

theorem powMod_eq (b e m : Nat) : powMod b e m = Nat.pow b e % m := by
  show powMod b e m = b ^ e % m
  induction e using Nat.strongRecOn generalizing b with
  | _ e ih =>
    unfold powMod
    split
    · rename_i h; simp [h]
    · rename_i h
      have hrec := ih (e / 2) (by omega) (b * b % m)
      rw [hrec, ← Nat.pow_mod, ← Nat.pow_two, ← Nat.pow_mul]
      show (if e % 2 = 1 then b * (b ^ (2 * (e / 2)) % m) % m else b ^ (2 * (e / 2)) % m) =
        b ^ e % m
      split
      · rename_i hodd
        rw [Nat.mul_mod, Nat.mod_mod, ← Nat.mul_mod, ← Nat.pow_succ',
          show (2 * (e / 2)).succ = e by omega]
      · rename_i heven
        rw [show 2 * (e / 2) = e by omega]

end HomeKit
