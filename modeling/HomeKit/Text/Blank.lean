/-!
# Blank characters

The characters with the Unicode property `White_Space`, and texts without them at either end
(`trim`) or cut at them (`words`). A text without blanks stays as it is
(`trimChars_of_not_isBlank`) and is one word (`words_of_not_isBlank`).
-/

namespace HomeKit.Text

/-- The characters with the property `White_Space`. -/
def isBlank (c : Char) : Bool :=
  ('\t' ≤ c && c ≤ '\r') || c == ' ' || c == '\x85' || c == '\xa0' || c == '\u1680' ||
    ('\u2000' ≤ c && c ≤ '\u200a') || c == '\u2028' || c == '\u2029' || c == '\u202f' ||
    c == '\u205f' || c == '\u3000'

def trimChars (cs : List Char) : List Char :=
  ((cs.dropWhile isBlank).reverse.dropWhile isBlank).reverse

def trim (s : String) : String :=
  String.ofList (trimChars s.toList)

/-- The pieces between blanks, none of them empty; `word` holds the piece at hand, last character
first. -/
def wordsFrom (word : List Char) : List Char → List (List Char)
  | [] => if word.isEmpty then [] else [word.reverse]
  | c :: rest =>
    if isBlank c then
      (if word.isEmpty then [] else [word.reverse]) ++ wordsFrom [] rest
    else
      wordsFrom (c :: word) rest

def words (cs : List Char) : List (List Char) :=
  wordsFrom [] cs

/-- No blank lies among the digits. -/
theorem not_isDigit_of_isBlank {c : Char} (h : isBlank c = true) : c.isDigit = false := by
  have hblank : c.toNat ≤ 32 ∨ 0x85 ≤ c.toNat := by
    simp [isBlank, Char.le_def, UInt32.le_iff_toNat_le, Char.ext_iff, ← UInt32.toNat_inj] at h
    omega
  rw [← Bool.not_eq_true]
  intro hdigit
  have hrange : 48 ≤ c.toNat ∧ c.toNat ≤ 57 := by
    simpa [Char.isDigit, UInt32.le_iff_toNat_le] using hdigit
  omega

theorem not_isBlank_of_isDigit {c : Char} (h : c.isDigit = true) : isBlank c = false := by
  rw [← Bool.not_eq_true]
  intro hblank
  rw [not_isDigit_of_isBlank hblank] at h
  cases h

theorem not_isBlank_of_any {cs : List Char} (h : cs.any isBlank = false) :
    ∀ c ∈ cs, isBlank c = false := by
  intro c hc
  exact Bool.eq_false_iff.2 (List.any_eq_false.1 h c hc)

theorem trimChars_of_not_isBlank {cs : List Char} (h : ∀ c ∈ cs, isBlank c = false) :
    trimChars cs = cs := by
  have hdrop : ∀ ds : List Char, (∀ d ∈ ds, isBlank d = false) → ds.dropWhile isBlank = ds := by
    intro ds hds
    cases ds with
    | nil => rfl
    | cons d ds => rw [List.dropWhile_cons, hds d List.mem_cons_self]; rfl
  rw [trimChars, hdrop cs h, hdrop cs.reverse fun d hd => h d (List.mem_reverse.1 hd),
    List.reverse_reverse]

theorem trimChars_cons_of_isBlank {c : Char} (h : isBlank c = true) (cs : List Char) :
    trimChars (c :: cs) = trimChars cs := by
  rw [trimChars, List.dropWhile_cons, if_pos h, trimChars]

theorem wordsFrom_append {cs : List Char} (h : ∀ c ∈ cs, isBlank c = false)
    (word rest : List Char) :
    wordsFrom word (cs ++ rest) = wordsFrom (cs.reverse ++ word) rest := by
  induction cs generalizing word with
  | nil => rfl
  | cons c cs ih =>
    have hc : ¬isBlank c = true := by simp [h c List.mem_cons_self]
    rw [List.cons_append, wordsFrom, if_neg hc, ih (fun d hd => h d (List.mem_cons_of_mem c hd)),
      List.reverse_cons, List.append_assoc, List.singleton_append]

/-- A word before a blank comes first. -/
theorem words_append {cs : List Char} (h : ∀ c ∈ cs, isBlank c = false) (hne : cs ≠ []) {c : Char}
    (hc : isBlank c = true) (rest : List Char) : words (cs ++ c :: rest) = cs :: words rest := by
  rw [words, wordsFrom_append h, List.append_nil, wordsFrom, if_pos hc, if_neg,
    List.reverse_reverse]
  · rfl
  · rw [List.isEmpty_reverse, List.isEmpty_iff]
    exact hne

theorem words_of_not_isBlank {cs : List Char} (h : ∀ c ∈ cs, isBlank c = false) (hne : cs ≠ []) :
    words cs = [cs] := by
  have hread := wordsFrom_append h [] []
  rw [List.append_nil, List.append_nil] at hread
  rw [words, hread, wordsFrom, if_neg, List.reverse_reverse]
  rw [List.isEmpty_reverse, List.isEmpty_iff]
  exact hne

end HomeKit.Text
