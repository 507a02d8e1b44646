/-!
# Cutting a list into pieces

`chunks n l` cuts `l` into pieces of `n` elements, the last one possibly shorter. Main facts: the
pieces joined are the list (`flatten_chunks`), none is empty or longer than `n`
(`length_of_mem_chunks`), and there are ⌈length / n⌉ of them (`length_chunks`).
-/

namespace HomeKit

variable {α : Type}

def chunksUpTo : Nat → Nat → List α → List (List α)
  | 0, _, _ => []
  | _ + 1, _, [] => []
  | pieces + 1, n, x :: rest => (x :: rest).take n :: chunksUpTo pieces n ((x :: rest).drop n)

/-- A list in pieces of `n` elements, the last one possibly shorter. -/
def chunks (n : Nat) (l : List α) : List (List α) :=
  chunksUpTo l.length n l

@[simp] theorem chunks_nil (n : Nat) : chunks n ([] : List α) = [] := rfl

theorem chunksUpTo_eq_chunks {n : Nat} (hn : 0 < n) {pieces : Nat} {l : List α}
    (h : l.length ≤ pieces) : chunksUpTo pieces n l = chunks n l := by
  suffices key : ∀ k p (l : List α), l.length ≤ k → l.length ≤ p →
      chunksUpTo k n l = chunksUpTo p n l from
    key pieces l.length l h (Nat.le_refl _)
  intro k
  induction k with
  | zero =>
    intro p l hk _
    cases l with
    | nil => cases p <;> rfl
    | cons x rest => simp at hk
  | succ k ih =>
    intro p l hk hp
    cases l with
    | nil => cases p <;> rfl
    | cons x rest =>
      cases p with
      | zero => simp at hp
      | succ p =>
        simp only [chunksUpTo]
        simp only [List.length_cons] at hk hp
        rw [ih p _ (by simp; omega) (by simp; omega)]

theorem chunks_of_ne_nil {n : Nat} (hn : 0 < n) {l : List α} (hl : l ≠ []) :
    chunks n l = l.take n :: chunks n (l.drop n) := by
  cases l with
  | nil => exact absurd rfl hl
  | cons x rest =>
    show chunksUpTo (rest.length + 1) n (x :: rest) = _
    rw [chunksUpTo, chunksUpTo_eq_chunks hn (by simp; omega)]

theorem chunks_induction {n : Nat} (hn : 0 < n) {motive : List α → Prop} (nil : motive [])
    (step : ∀ l, l ≠ [] → motive (l.drop n) → motive l) (l : List α) : motive l := by
  suffices key : ∀ k (l : List α), l.length ≤ k → motive l from key l.length l (Nat.le_refl _)
  intro k
  induction k with
  | zero => intro l h; rw [List.length_eq_zero_iff.1 (Nat.le_zero.1 h)]; exact nil
  | succ k ih =>
    intro l h
    by_cases hl : l = []
    · rw [hl]; exact nil
    · have : 0 < l.length := List.length_pos_iff.2 hl
      exact step l hl (ih _ (by simp; omega))

@[simp] theorem flatten_chunks {n : Nat} (hn : 0 < n) (l : List α) :
    (chunks n l).flatten = l := by
  induction l using chunks_induction hn with
  | nil => rfl
  | step l hl ih => rw [chunks_of_ne_nil hn hl]; simp [ih]

theorem length_of_mem_chunks {n : Nat} (hn : 0 < n) {l p : List α} (hp : p ∈ chunks n l) :
    0 < p.length ∧ p.length ≤ n := by
  induction l using chunks_induction hn with
  | nil => simp at hp
  | step l hl ih =>
    rw [chunks_of_ne_nil hn hl, List.mem_cons] at hp
    have : 0 < l.length := List.length_pos_iff.2 hl
    rcases hp with rfl | hp
    · simp; omega
    · exact ih hp

/-- There are as many pieces as the length divided by their size, rounded up. -/
theorem length_chunks {n : Nat} (hn : 0 < n) (l : List α) :
    (chunks n l).length = (l.length + (n - 1)) / n := by
  induction l using chunks_induction hn with
  | nil => simp [Nat.div_eq_of_lt (show n - 1 < n by omega)]
  | step l hl ih =>
    have hpos : 0 < l.length := List.length_pos_iff.2 hl
    rw [chunks_of_ne_nil hn hl, List.length_cons, ih, List.length_drop]
    by_cases h : l.length ≤ n
    · rw [Nat.sub_eq_zero_of_le h, Nat.zero_add, Nat.div_eq_of_lt (show n - 1 < n by omega)]
      symm
      rw [Nat.div_eq_of_lt_le] <;> omega
    · rw [show l.length + (n - 1) = (l.length - n + (n - 1)) + n by omega, Nat.add_div_right _ hn]

end HomeKit
