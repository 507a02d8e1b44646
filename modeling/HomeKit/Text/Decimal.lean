/-!
# Decimal numbers

Unsigned decimal numbers as they are written in headers, targets and status lines: digits, after
one optional plus sign, whose value does not pass a limit. A number below the limit is read as it is
written (`decimal?_repr`).
-/

namespace HomeKit.Text

def digit? (c : Char) : Option Nat :=
  if '0' ≤ c ∧ c ≤ '9' then some (c.toNat - '0'.toNat) else none

/-- The value of a string of digits that continues the number `n`, or `limit` if that is less. -/
def digitsValue? (limit n : Nat) : List Char → Option Nat
  | [] => some n
  | c :: rest => (digit? c).bind fun d => digitsValue? limit (min limit (10 * n + d)) rest

/-- The number that digits after an optional plus sign denote, if it is below `limit`. -/
def decimal? (limit : Nat) (cs : List Char) : Option Nat :=
  let digits := match cs with
    | '+' :: rest => rest
    | _ => cs
  if digits.isEmpty then none
  else (digitsValue? limit 0 digits).filter (· < limit)

def uint64? (cs : List Char) : Option UInt64 :=
  (decimal? UInt64.size cs).map UInt64.ofNat

theorem digit?_of_isDigit {c : Char} (h : c.isDigit = true) :
    digit? c = some (c.toNat - '0'.toNat) := by
  simp only [Char.isDigit, Bool.and_eq_true, decide_eq_true_eq] at h
  exact if_pos ⟨Char.le_def.2 h.1, Char.le_def.2 h.2⟩

theorem le_ofDigitChars (n : Nat) (digits : List Char) : n ≤ Nat.ofDigitChars 10 digits n := by
  induction digits generalizing n with
  | nil => exact Nat.le_refl n
  | cons c digits ih =>
    rw [Nat.ofDigitChars_cons]
    have := ih (10 * n + (c.toNat - '0'.toNat))
    omega

theorem digitsValue?_of_le {limit n : Nat} {digits : List Char}
    (hdigits : ∀ c ∈ digits, c.isDigit = true) (h : Nat.ofDigitChars 10 digits n ≤ limit) :
    digitsValue? limit n digits = some (Nat.ofDigitChars 10 digits n) := by
  induction digits generalizing n with
  | nil => rfl
  | cons c digits ih =>
    rw [Nat.ofDigitChars_cons] at h
    -- the digits that follow do not make a value less, so that no value on the way passes the limit
    have hle := le_ofDigitChars (10 * n + (c.toNat - '0'.toNat)) digits
    have hmin : min limit (10 * n + (c.toNat - '0'.toNat)) = 10 * n + (c.toNat - '0'.toNat) := by
      omega
    rw [digitsValue?, digit?_of_isDigit (hdigits c List.mem_cons_self), Option.bind_some, hmin,
      ih (fun d hd => hdigits d (List.mem_cons_of_mem c hd)) h, Nat.ofDigitChars_cons]

theorem isDigit_of_mem_repr {n : Nat} {c : Char} (h : c ∈ n.repr.toList) : c.isDigit = true := by
  rw [Nat.toList_repr] at h
  exact Nat.isDigit_of_mem_toDigits (by decide) (by decide) h

theorem decimal?_of_digitsValue? {limit n : Nat} {c : Char} {rest : List Char} (hc : c ≠ '+')
    (hread : digitsValue? limit 0 (c :: rest) = some n) (h : n < limit) :
    decimal? limit (c :: rest) = some n := by
  unfold decimal?
  split
  · rename_i heq
    exact absurd (List.cons.inj heq).1 hc
  · simp only [List.isEmpty_cons, Bool.false_eq_true, if_false, hread, Option.filter_some, h,
      decide_true, if_true]

/-- A number below the limit is read as it is written. -/
theorem decimal?_repr {limit n : Nat} (h : n < limit) : decimal? limit n.repr.toList = some n := by
  have hvalue : Nat.ofDigitChars 10 n.repr.toList 0 = n := by
    rw [Nat.toList_repr, Nat.ofDigitChars_ten_toDigits]
  have hread : digitsValue? limit 0 n.repr.toList = some n := by
    rw [digitsValue?_of_le (fun c hc => isDigit_of_mem_repr hc) (by omega), hvalue]
  have hdigits : ∀ c ∈ n.repr.toList, c.isDigit = true := fun c hc => isDigit_of_mem_repr hc
  cases hcs : n.repr.toList with
  | nil =>
    rw [Nat.toList_repr] at hcs
    exact absurd hcs Nat.toDigits_ne_nil
  | cons c rest =>
    rw [hcs] at hread hdigits
    refine decimal?_of_digitsValue? ?_ hread h
    rintro rfl
    exact absurd (hdigits '+' List.mem_cons_self) (by decide)

theorem uint64?_toString (n : UInt64) : uint64? (toString n).toList = some n := by
  have hread : decimal? UInt64.size (toString n).toList = some n.toNat :=
    decimal?_repr n.toNat_lt_size
  rw [uint64?, hread, Option.map_some, UInt64.ofNat_toNat]

end HomeKit.Text
