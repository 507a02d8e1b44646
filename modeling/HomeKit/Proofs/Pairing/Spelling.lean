import HomeKit.SetupCode
import HomeKit.Text.Hex

/-!
# Spellings of a setup code

A setup code may be typed with blanks around it and with or without its dashes. What is between the
blanks is read as a code exactly if it is a spelling of the code (`SetupCode.Spells`) and the code
is not too simple (`SetupCode.parse_eq_ok_iff`); so the code's own texts are read as the code.
Whatever the accessory reads as the code, the controller takes for its dashed form: it keeps the
digits of what was typed, and blanks and dashes are none (`SetupCode.typedPassword_of_parse`).
-/

namespace HomeKit

namespace Text

theorem filter_dropWhile {α : Type} {p q : α → Bool} (h : ∀ a, p a = true → q a = false)
    (list : List α) : (list.dropWhile p).filter q = list.filter q := by
  induction list with
  | nil => rfl
  | cons a rest ih =>
    rw [List.dropWhile_cons]
    split
    · rename_i hp
      rw [ih, List.filter_cons_of_neg (by simp [h a hp])]
    · rfl

/-- The digits of a text are inside its blanks. -/
theorem filter_isDigit_trimChars (cs : List Char) :
    (trimChars cs).filter (·.isDigit) = cs.filter (·.isDigit) := by
  unfold trimChars
  rw [List.filter_reverse, filter_dropWhile (fun _ => not_isDigit_of_isBlank), List.filter_reverse,
    List.reverse_reverse, filter_dropWhile (fun _ => not_isDigit_of_isBlank)]

theorem toNat_lt_of_isDigit {c : Char} (h : c.isDigit = true) : c.toNat < 128 :=
  Nat.lt_of_le_of_lt (Char.isDigit_iff_toNat.1 h).2 (by decide)

theorem utf8_of_ascii {s : String} (h : ∀ c ∈ s.toList, c.toNat < 128) :
    utf8 s = s.toList.map fun c => UInt8.ofNat c.toNat := by
  rw [← Hex.utf8_ofList_of_ascii h, String.ofList_toList]

end Text

namespace SetupCode

variable {typed : String} {code : SetupCode} {cs : List Char}

/-! ## The spellings of a code -/

/-- The spellings of a code: its digits, or three of them, two and three with dashes in between. -/
inductive Spells (code : SetupCode) : List Char → Prop
  | bare : code.Spells code.digits
  | dashed {first second third : List Char} (hdigits : code.digits = first ++ second ++ third)
      (hfirst : first.length = 3) (hsecond : second.length = 2) (hthird : third.length = 3) :
      code.Spells (first ++ '-' :: second ++ '-' :: third)

theorem exists_groups (code : SetupCode) : ∃ first second third : List Char,
    code.digits = first ++ second ++ third ∧ first.length = 3 ∧ second.length = 2 ∧
      third.length = 3 := by
  have hlength := code.length_eq
  refine ⟨code.digits.take 3, (code.digits.drop 3).take 2, (code.digits.drop 3).drop 2,
    ?_, ?_, ?_, ?_⟩
  · rw [List.append_assoc, List.take_append_drop, List.take_append_drop]
  all_goals
    simp only [List.length_take, List.length_drop]
    omega

theorem dash_append {first second : List Char} (hfirst : first.length = 3)
    (hsecond : second.length = 2) (third : List Char) :
    dash (first ++ second ++ third) = String.ofList (first ++ '-' :: second ++ '-' :: third) := by
  have hfront : (first ++ second).length = 5 := by
    rw [List.length_append]
    omega
  rw [dash, List.drop_left' hfront, List.append_assoc first second third, List.take_left' hfirst,
    List.drop_left' hfirst, List.take_left' hsecond]

theorem spells_dashed (code : SetupCode) : code.Spells code.dashed.toList := by
  obtain ⟨first, second, third, hdigits, hfirst, hsecond, hthird⟩ := code.exists_groups
  rw [dashed, hdigits, dash_append hfirst hsecond, String.toList_ofList]
  exact .dashed hdigits hfirst hsecond hthird

theorem Spells.isDigit_or_eq (h : code.Spells cs) {c : Char} (hc : c ∈ cs) :
    c.isDigit = true ∨ c = '-' := by
  have hcode := code.isDigit c
  cases h with
  | bare => exact Or.inl (hcode hc)
  | dashed hdigits =>
    simp only [hdigits, List.mem_append, List.mem_cons] at hc hcode
    grind

theorem Spells.ascii (h : code.Spells cs) : ∀ c ∈ cs, c.toNat < 128 := by
  intro c hc
  rcases h.isDigit_or_eq hc with hdigit | rfl
  · exact Text.toNat_lt_of_isDigit hdigit
  · decide

/-- There are no blanks inside a spelling. -/
theorem Spells.trimChars_eq (h : code.Spells cs) : Text.trimChars cs = cs := by
  refine Text.trimChars_of_not_isBlank fun c hc => ?_
  rcases h.isDigit_or_eq hc with hdigit | rfl
  · exact Text.not_isBlank_of_isDigit hdigit
  · decide

/-- A filter that keeps the digits and drops the dashes finds the code in each of its spellings. -/
theorem Spells.filter_eq (h : code.Spells cs) {keep : Char → Bool}
    (hdigit : ∀ c, c.isDigit = true → keep c = true) (hdash : keep '-' = false) :
    cs.filter keep = code.digits := by
  have hkept : code.digits.filter keep = code.digits :=
    List.filter_eq_self.2 fun c hc => hdigit c (code.isDigit c hc)
  cases h with
  | bare => exact hkept
  | dashed hdigits =>
    rw [← hkept, hdigits]
    simp only [List.filter_append, List.filter_cons, hdash, Bool.false_eq_true, if_false]

theorem Spells.filter_isDigit (h : code.Spells cs) : cs.filter (·.isDigit) = code.digits :=
  h.filter_eq (fun _ hc => hc) rfl

theorem Spells.filter_ne_dash (h : code.Spells cs) : cs.filter (· != '-') = code.digits := by
  refine h.filter_eq (fun c hc => ?_) rfl
  rw [bne_iff_ne]
  rintro rfl
  cases hc

/-! ## Which texts are read -/

theorem hasDashAt_eq (s : String) (place : Nat) :
    hasDashAt s place = ((utf8 s)[place]? == some 0x2d) := by
  rw [hasDashAt, utf8, Array.getElem?_toList]

/-- In a text of one-byte characters, a byte is a dash if the character there is one. -/
theorem hasDashAt_iff {s : String} (h : ∀ c ∈ s.toList, c.toNat < 128) (place : Nat) :
    hasDashAt s place = true ↔ s.toList[place]? = some '-' := by
  rw [hasDashAt_eq, Text.utf8_of_ascii h, List.getElem?_map, beq_iff_eq]
  cases hc : s.toList[place]? with
  | none => simp
  | some c =>
    have hsmall := h c (List.mem_of_getElem? hc)
    rw [Option.map_some, Option.some.injEq, Option.some.injEq]
    constructor
    · intro heq
      have hnat := congrArg UInt8.toNat heq
      rw [UInt8.toNat_ofNat_of_lt' (Nat.lt_trans hsmall (by decide))] at hnat
      exact Char.toNat_inj.1 hnat
    · rintro rfl
      rfl

theorem eq_take_append_cons {α : Type} {list : List α} {place : Nat} {a : α}
    (h : list[place]? = some a) : list = list.take place ++ a :: list.drop (place + 1) := by
  obtain ⟨hlt, rfl⟩ := List.getElem?_eq_some_iff.1 h
  rw [← List.drop_eq_getElem_cons hlt, List.take_append_drop]

/-- Ten characters with dashes at two places, of which eight are left without dashes, have no other
dash. -/
theorem spells_of_filter (hlength : cs.length = 10) (hthree : cs[3]? = some '-')
    (hsix : cs[6]? = some '-') (hdigits : cs.filter (· != '-') = code.digits) : code.Spells cs := by
  obtain ⟨first, second, third, hcs, hfirst, hsecond, hthird⟩ : ∃ first second third : List Char,
      cs = first ++ '-' :: second ++ '-' :: third ∧ first.length = 3 ∧ second.length = 2 ∧
        third.length = 3 := by
    have hrest : (cs.drop 4)[2]? = some '-' := by rw [List.getElem?_drop, hsix]
    refine ⟨cs.take 3, (cs.drop 4).take 2, (cs.drop 4).drop 3, ?_, ?_, ?_, ?_⟩
    · rw [List.append_assoc, List.cons_append, ← eq_take_append_cons hrest]
      exact eq_take_append_cons hthree
    all_goals
      simp only [List.length_take, List.length_drop]
      omega
  subst hcs
  have hfilter : first.filter (· != '-') ++ second.filter (· != '-') ++ third.filter (· != '-') =
      code.digits := by
    rw [← hdigits]
    simp
  have hsize := congrArg List.length hfilter
  rw [code.length_eq, List.length_append, List.length_append] at hsize
  have hfirstLe := List.length_filter_le (· != '-') first
  have hsecondLe := List.length_filter_le (· != '-') second
  have hthirdLe := List.length_filter_le (· != '-') third
  have hkeep : ∀ group : List Char, (group.filter (· != '-')).length = group.length →
      group.filter (· != '-') = group :=
    fun _ hgroup => List.filter_eq_self.2 (List.length_filter_eq_length_iff.1 hgroup)
  rw [hkeep first (by omega), hkeep second (by omega), hkeep third (by omega)] at hfilter
  exact .dashed hfilter.symm hfirst hsecond hthird

theorem spells_of_undashed {s : String} (h : undashed s = .ok code.digits) :
    code.Spells s.toList := by
  unfold undashed at h
  split at h
  · rename_i hten
    split at h
    · rename_i hdashes
      have hdigits := Except.ok.inj h
      -- what is left when the dashes are dropped are digits, so every character is one byte
      have hascii : ∀ c ∈ s.toList, c.toNat < 128 := by
        intro c hc
        by_cases hdash : c = '-'
        · subst hdash
          decide
        · refine Text.toNat_lt_of_isDigit (code.isDigit c ?_)
          rw [← hdigits]
          exact List.mem_filter.2 ⟨hc, bne_iff_ne.2 hdash⟩
      rw [← length_utf8, Text.utf8_of_ascii hascii, List.length_map] at hten
      rw [Bool.and_eq_true, hasDashAt_iff hascii, hasDashAt_iff hascii] at hdashes
      exact spells_of_filter hten hdashes.1 hdashes.2 hdigits
    · cases h
  · rw [Except.ok.inj h]
    exact .bare

theorem Spells.undashed_eq {s : String} (h : code.Spells s.toList) :
    undashed s = .ok code.digits := by
  have hbytes : s.utf8ByteSize = s.toList.length := by
    rw [← length_utf8, Text.utf8_of_ascii h.ascii, List.length_map]
  have hfilter := h.filter_ne_dash
  have hat := hasDashAt_iff h.ascii
  unfold undashed
  rw [hbytes, hfilter]
  generalize s.toList = cs at h hat
  cases h with
  | bare => rw [code.length_eq, if_neg (by decide)]
  | @dashed first second third hdigits hfirst hsecond hthird =>
    have hfront : (first ++ '-' :: second).length = 6 := by
      simp only [List.length_append, List.length_cons]
      omega
    have hlength : (first ++ '-' :: second ++ '-' :: third).length = 10 := by
      rw [List.length_append, hfront, List.length_cons, hthird]
    have hthree : hasDashAt s 3 = true := by
      refine (hat 3).2 ?_
      rw [List.append_assoc, ← hfirst, List.getElem?_append_right (Nat.le_refl _), Nat.sub_self]
      rfl
    have hsix : hasDashAt s 6 = true := by
      refine (hat 6).2 ?_
      rw [← hfront, List.getElem?_append_right (Nat.le_refl _), Nat.sub_self]
      rfl
    rw [if_pos hlength, hthree, hsix]
    rfl

/-- A text is read as a code if it spells the code between its blanks and the code is not too
simple, and only then. -/
theorem parse_eq_ok_iff : parse typed = .ok code ↔
    code.Spells (Text.trim typed).toList ∧ code.text ∉ simpleCodes := by
  have hundashed : undashed (Text.trim typed) = .ok code.digits ↔
      code.Spells (Text.trim typed).toList := ⟨spells_of_undashed, Spells.undashed_eq⟩
  rw [← hundashed]
  unfold parse
  cases hdigits : undashed (Text.trim typed) with
  | error error =>
    simp [bind, Except.bind]
  | ok digits =>
    simp only [bind, Except.bind, Except.ok.injEq]
    constructor
    · intro h
      split at h
      · split at h
        · cases h
        · rename_i hsimple
          cases h
          exact ⟨rfl, fun hmem => hsimple (List.contains_iff_mem.2 hmem)⟩
      · cases h
    · rintro ⟨rfl, hsimple⟩
      rw [dif_pos ⟨code.length_eq, List.all_eq_true.2 code.isDigit⟩, if_neg]
      exact fun hmem => hsimple (List.contains_iff_mem.1 hmem)

theorem parse_of_spells (h : code.Spells cs) (hsimple : code.text ∉ simpleCodes) :
    parse (String.ofList cs) = .ok code := by
  refine parse_eq_ok_iff.2 ⟨?_, hsimple⟩
  rw [Text.trim, String.toList_ofList, String.toList_ofList, h.trimChars_eq]
  exact h

/-- What is read as a code has the code's digits. -/
theorem filter_isDigit_of_parse (h : parse typed = .ok code) :
    typed.toList.filter (·.isDigit) = code.digits := by
  have hspells := (parse_eq_ok_iff.1 h).1
  rw [Text.trim, String.toList_ofList] at hspells
  rw [← Text.filter_isDigit_trimChars, hspells.filter_isDigit]

/-- The controller's password for what is read as a code is the accessory's. -/
theorem typedPassword_of_parse (h : parse typed = .ok code) :
    typedPassword typed = code.dashed := by
  unfold typedPassword dashed
  simp only
  rw [filter_isDigit_of_parse h, if_pos code.length_eq]

end SetupCode

end HomeKit
