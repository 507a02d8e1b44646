import HomeKit.Bytes

/-!
# Lossy UTF-8

Reads any byte string as a text: each longest start of a character that is not completed, and each
byte that starts none, becomes one replacement character. A byte string that is the form of a text
is read as that text (`lossy_utf8`).
-/

namespace HomeKit.Text

/-- A character of which some bytes are read. -/
structure PartialChar where
  code : Nat
  missing : Nat
  /-- The lowest and the highest byte that may come next. -/
  low : UInt8
  high : UInt8
  deriving DecidableEq, Repr

/-- The character that stands for bytes that are no character. -/
def replacement : Char := '\ufffd'

/-- What a byte between characters gives: characters, and the character that it starts. -/
def startChar (b : UInt8) : List Char × Option PartialChar :=
  if b < 0x80 then ([Char.ofNat b.toNat], none)
  else if b < 0xc2 then ([replacement], none)
  else if b < 0xe0 then ([], some ⟨b.toNat - 0xc0, 1, 0x80, 0xbf⟩)
  else if b < 0xf0 then
    ([], some ⟨b.toNat - 0xe0, 2, if b = 0xe0 then 0xa0 else 0x80, if b = 0xed then 0x9f else 0xbf⟩)
  else if b < 0xf5 then
    ([], some ⟨b.toNat - 0xf0, 3, if b = 0xf0 then 0x90 else 0x80, if b = 0xf4 then 0x8f else 0xbf⟩)
  else ([replacement], none)

def nextByte (part : Option PartialChar) (b : UInt8) : List Char × Option PartialChar :=
  match part with
  | none => startChar b
  | some part =>
    if part.low ≤ b ∧ b ≤ part.high then
      let code := 64 * part.code + (b.toNat - 0x80)
      if part.missing = 1 then ([Char.ofNat code], none)
      else ([], some ⟨code, part.missing - 1, 0x80, 0xbf⟩)
    else
      let (chars, part) := startChar b
      (replacement :: chars, part)

/-- The characters of the bytes that follow a partial character; `done` holds those before, last
one first. -/
def lossyFrom (done : List Char) (part : Option PartialChar) : Bytes → List Char
  | [] => (if part.isSome then replacement :: done else done).reverse
  | b :: rest =>
    let (chars, part) := nextByte part b
    lossyFrom (chars.reverse ++ done) part rest

def lossy (b : Bytes) : String :=
  String.ofList (lossyFrom [] none b)

/-! ## The form of a text -/

section Steps

variable (done : List Char) (rest : Bytes) {code missing n : Nat} {low high : UInt8}

/-! A character of one byte, the first byte of a longer one, and the bytes that follow it. -/

theorem lossyFrom_one (h : n < 128) :
    lossyFrom done none (UInt8.ofNat n :: rest) = lossyFrom (Char.ofNat n :: done) none rest := by
  have hbyte : (UInt8.ofNat n).toNat = n := UInt8.toNat_ofNat_of_lt' (show n < 256 by omega)
  simp only [lossyFrom, nextByte, startChar, UInt8.lt_iff_toNat_lt, UInt8.reduceToNat, hbyte]
  rw [if_pos h]
  rfl

theorem lossyFrom_two (hlow : 2 ≤ n) (hhigh : n < 32) :
    lossyFrom done none (UInt8.ofNat (n + 192) :: rest) =
      lossyFrom done (some ⟨n, 1, 0x80, 0xbf⟩) rest := by
  have hbyte : (UInt8.ofNat (n + 192)).toNat = n + 192 :=
    UInt8.toNat_ofNat_of_lt' (show n + 192 < 256 by omega)
  simp only [lossyFrom, nextByte, startChar, UInt8.lt_iff_toNat_lt, UInt8.reduceToNat, hbyte]
  rw [if_neg (by omega), if_neg (by omega), if_pos (by omega), Nat.add_sub_cancel]
  rfl

theorem lossyFrom_three (h : n < 16) :
    lossyFrom done none (UInt8.ofNat (n + 224) :: rest) =
      lossyFrom done (some ⟨n, 2, if n = 0 then 0xa0 else 0x80, if n = 13 then 0x9f else 0xbf⟩)
        rest := by
  have hbyte : (UInt8.ofNat (n + 224)).toNat = n + 224 :=
    UInt8.toNat_ofNat_of_lt' (show n + 224 < 256 by omega)
  simp only [lossyFrom, nextByte, startChar, UInt8.lt_iff_toNat_lt, ← UInt8.toNat_inj,
    UInt8.reduceToNat, hbyte, Nat.add_sub_cancel, Nat.reduceEqDiff]
  rw [if_neg (by omega), if_neg (by omega), if_neg (by omega), if_pos (by omega)]
  simp

theorem lossyFrom_four (h : n < 5) :
    lossyFrom done none (UInt8.ofNat (n + 240) :: rest) =
      lossyFrom done (some ⟨n, 3, if n = 0 then 0x90 else 0x80, if n = 4 then 0x8f else 0xbf⟩)
        rest := by
  have hbyte : (UInt8.ofNat (n + 240)).toNat = n + 240 :=
    UInt8.toNat_ofNat_of_lt' (show n + 240 < 256 by omega)
  simp only [lossyFrom, nextByte, startChar, UInt8.lt_iff_toNat_lt, ← UInt8.toNat_inj,
    UInt8.reduceToNat, hbyte, Nat.add_sub_cancel, Nat.reduceEqDiff]
  rw [if_neg (by omega), if_neg (by omega), if_neg (by omega), if_neg (by omega),
    if_pos (by omega)]
  simp

theorem lossyFrom_middle (h : n < 64) (hlow : low.toNat ≤ n + 128) (hhigh : n + 128 ≤ high.toNat) :
    lossyFrom done (some ⟨code, missing + 2, low, high⟩) (UInt8.ofNat (n + 128) :: rest) =
      lossyFrom done (some ⟨64 * code + n, missing + 1, 0x80, 0xbf⟩) rest := by
  have hbyte : (UInt8.ofNat (n + 128)).toNat = n + 128 :=
    UInt8.toNat_ofNat_of_lt' (show n + 128 < 256 by omega)
  simp only [lossyFrom, nextByte, UInt8.le_iff_toNat_le, hbyte, Nat.add_sub_cancel]
  rw [if_pos ⟨hlow, hhigh⟩, if_neg (by omega)]
  rfl

theorem lossyFrom_last (h : n < 64) (hlow : low.toNat ≤ n + 128) (hhigh : n + 128 ≤ high.toNat) :
    lossyFrom done (some ⟨code, 1, low, high⟩) (UInt8.ofNat (n + 128) :: rest) =
      lossyFrom (Char.ofNat (64 * code + n) :: done) none rest := by
  have hbyte : (UInt8.ofNat (n + 128)).toNat = n + 128 :=
    UInt8.toNat_ofNat_of_lt' (show n + 128 < 256 by omega)
  simp only [lossyFrom, nextByte, UInt8.le_iff_toNat_le, hbyte, Nat.add_sub_cancel]
  rw [if_pos ⟨hlow, hhigh⟩]
  rfl

/-- The form of a character is read as that character. -/
theorem lossyFrom_utf8EncodeChar (c : Char) :
    lossyFrom done none (String.utf8EncodeChar c ++ rest) = lossyFrom (c :: done) none rest := by
  have hvalid : c.toNat < 0xd800 ∨ 0xdfff < c.toNat ∧ c.toNat < 0x110000 := c.valid
  have hread : ∀ n, n = c.toNat → Char.ofNat n = c := by
    rintro n rfl
    exact Char.ofNat_toNat c
  simp only [String.utf8EncodeChar, Char.toNat_val]
  generalize c.toNat = n at hvalid hread
  have hcontinues : ∀ k,
      (0x80 : UInt8).toNat ≤ k % 64 + 128 ∧ k % 64 + 128 ≤ (0xbf : UInt8).toNat := by
    intro k
    simp only [UInt8.reduceToNat]
    omega
  by_cases hone : n ≤ 0x7f
  · rw [if_pos hone, List.singleton_append, lossyFrom_one _ _ (by omega), hread n rfl]
  rw [if_neg hone]
  by_cases htwo : n ≤ 0x7ff
  · rw [if_pos htwo, List.cons_append, List.singleton_append,
      lossyFrom_two _ _ (by omega) (by omega),
      lossyFrom_last _ _ (by omega) (hcontinues n).1 (hcontinues n).2, hread _ (by omega)]
  rw [if_neg htwo]
  by_cases hthree : n ≤ 0xffff
  · -- the second byte excludes what is written in two bytes, and the surrogates
    have hlow : (if n / 4096 % 16 = 0 then 0xa0 else 0x80 : UInt8).toNat ≤ n / 64 % 64 + 128 := by
      split <;> simp only [UInt8.reduceToNat] <;> omega
    have hhigh : n / 64 % 64 + 128 ≤ (if n / 4096 % 16 = 13 then 0x9f else 0xbf : UInt8).toNat := by
      split <;> simp only [UInt8.reduceToNat] <;> omega
    rw [if_pos hthree, List.cons_append, List.cons_append, List.singleton_append,
      lossyFrom_three _ _ (by omega), lossyFrom_middle _ _ (by omega) hlow hhigh,
      lossyFrom_last _ _ (by omega) (hcontinues n).1 (hcontinues n).2, hread _ (by omega)]
  · -- it excludes what is written in three bytes, and what is beyond the last character
    have hlow : (if n / 262144 % 8 = 0 then 0x90 else 0x80 : UInt8).toNat ≤
        n / 4096 % 64 + 128 := by
      split <;> simp only [UInt8.reduceToNat] <;> omega
    have hhigh : n / 4096 % 64 + 128 ≤
        (if n / 262144 % 8 = 4 then 0x8f else 0xbf : UInt8).toNat := by
      split <;> simp only [UInt8.reduceToNat] <;> omega
    rw [if_neg hthree, List.cons_append, List.cons_append, List.cons_append, List.singleton_append,
      lossyFrom_four _ _ (by omega), lossyFrom_middle _ _ (by omega) hlow hhigh,
      lossyFrom_middle _ _ (by omega) (hcontinues _).1 (hcontinues _).2,
      lossyFrom_last _ _ (by omega) (hcontinues n).1 (hcontinues n).2, hread _ (by omega)]

end Steps

/-- A text is read back from its form. -/
theorem lossy_utf8 (s : String) : lossy (utf8 s) = s := by
  have hread : ∀ (chars done : List Char),
      lossyFrom done none (chars.flatMap String.utf8EncodeChar) = done.reverse ++ chars := by
    intro chars
    induction chars with
    | nil =>
      intro done
      simp [lossyFrom]
    | cons c chars ih =>
      intro done
      rw [List.flatMap_cons, lossyFrom_utf8EncodeChar, ih, List.reverse_cons, List.append_assoc,
        List.singleton_append]
  rw [lossy, utf8_eq_flatMap, hread, List.reverse_nil, List.nil_append, String.ofList_toList]

end HomeKit.Text
