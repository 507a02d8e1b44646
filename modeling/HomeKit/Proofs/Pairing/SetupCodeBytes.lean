import HomeKit.Pairing.ControllerSide
import HomeKit.Proofs.Pairing.Spelling
import HomeKit.Proofs.Positions
import HomeKit.Text.Lossy

/-!
# Setup codes in bytes

Both sides read a setup code by the positions of its bytes. The accessory looks for dashes at two
positions, copies eight bytes and cuts them into three texts; the controller cuts the text of the
digits that it finds. Any text can be typed: a position may be past its end, or inside a character
of several bytes. Written so, with every position tested (`SetupCode.parse?`, `SetupCode.dashed?`,
`SetupCode.typedPassword?`), no test ever fails, and whatever the accessory reads as a code means
the same to both sides (`SetupCode.read_alike`).
-/

namespace HomeKit

/-- The text between two positions of a text's bytes, if neither is inside a character. -/
def textBetween? (s : String) (start stop : Nat) : Option String := do
  let _ ← text? ((utf8 s).take start)
  text? (← slice? (utf8 s) start stop)

theorem textBetween?_append (front s rest : String) {start stop : Nat}
    (hstart : (utf8 front).length = start) (hstop : (utf8 (front ++ s)).length = stop) :
    textBetween? (front ++ s ++ rest) start stop = some s := by
  rw [utf8_append] at hstop
  rw [textBetween?, utf8_append, utf8_append, slice?_between _ _ _ hstart hstop, List.append_assoc,
    ← hstart, List.take_left, text?_utf8]
  exact text?_utf8 s

theorem slice?_of_textBetween? {s t : String} {start stop : Nat}
    (h : textBetween? s start stop = some t) : slice? (utf8 s) start stop = some (utf8 t) := by
  obtain ⟨_, -, hrest⟩ := Option.bind_eq_some_iff.1 h
  obtain ⟨bytes, hslice, htext⟩ := Option.bind_eq_some_iff.1 hrest
  rw [hslice, text?_eq_some_iff.1 htext]

namespace SetupCode

variable {typed : String} (code : SetupCode)

/-! ## The bytes of a code -/

theorem length_utf8_of_isDigit {digits : List Char} (h : ∀ c ∈ digits, c.isDigit = true) :
    (utf8 (String.ofList digits)).length = digits.length := by
  rw [Text.Hex.utf8_ofList_of_ascii fun c hc => Text.toNat_lt_of_isDigit (h c hc), List.length_map]

/-- A code as it is kept, one byte for each digit. -/
def bytes : Octets 8 :=
  ⟨utf8 code.text, (length_utf8_of_isDigit code.isDigit).trans code.length_eq⟩

@[simp] theorem bytes_bytes : code.bytes.bytes = utf8 code.text := rfl

/-- The digits of a code are what its bytes say. -/
theorem lossy_bytes : Text.lossy code.bytes.bytes = code.text :=
  Text.lossy_utf8 code.text

/-- The dashed form has the text of a code in the three pieces that are cut from it. -/
theorem exists_pieces : ∃ first second third : String,
    textBetween? code.text 0 3 = some first ∧ textBetween? code.text 3 5 = some second ∧
      textBetween? code.text 5 8 = some third ∧ code.dashed = s!"{first}-{second}-{third}" := by
  obtain ⟨first, second, third, hdigits, hfirst, hsecond, hthird⟩ := code.exists_groups
  have htext : code.text = String.ofList first ++ String.ofList second ++ String.ofList third := by
    rw [text, hdigits, String.ofList_append, String.ofList_append]
  have hlength : ∀ group ⊆ code.digits, (utf8 (String.ofList group)).length = group.length :=
    fun _ hgroup => length_utf8_of_isDigit fun c hc => code.isDigit c (hgroup hc)
  have hthree : (utf8 (String.ofList first)).length = 3 := by
    rw [hlength first (by simp [hdigits]), hfirst]
  have hfive : (utf8 (String.ofList first ++ String.ofList second)).length = 5 := by
    rw [← String.ofList_append, hlength _ (by simp [hdigits]), List.length_append, hfirst, hsecond]
  have height : (utf8 code.text).length = 8 := code.bytes.length_eq
  refine ⟨String.ofList first, String.ofList second, String.ofList third, ?_, ?_, ?_, ?_⟩
  · have hcut := textBetween?_append "" (String.ofList first)
      (String.ofList second ++ String.ofList third) rfl (by rw [String.empty_append, hthree])
    rwa [String.empty_append, ← String.append_assoc, ← htext] at hcut
  · rw [htext]
    exact textBetween?_append _ _ _ hthree hfive
  · rw [htext] at height
    have hcut := textBetween?_append _ _ "" hfive height
    rwa [String.append_empty, ← htext] at hcut
  · rw [dashed, hdigits, dash_append hfirst hsecond]
    show _ = String.ofList first ++ "-" ++ String.ofList second ++ "-" ++ String.ofList third
    simp [← String.toList_inj]

/-! ## The accessory -/

def isDigitByte (b : UInt8) : Bool :=
  48 ≤ b && b ≤ 57

/-- The bytes of a text are those of digits if its characters are digits. -/
theorem all_isDigitByte (s : String) : (utf8 s).all isDigitByte = s.toList.all Char.isDigit := by
  rw [Bool.eq_iff_iff, List.all_eq_true, List.all_eq_true]
  have hbyte : ∀ {n : Nat}, n < 128 →
      (isDigitByte (UInt8.ofNat n) = true ↔ 48 ≤ n ∧ n ≤ 57) := by
    intro n hn
    rw [isDigitByte, Bool.and_eq_true, decide_eq_true_eq, decide_eq_true_eq, UInt8.le_iff_toNat_le,
      UInt8.le_iff_toNat_le, UInt8.toNat_ofNat_of_lt' (show n < 256 by omega)]
    rfl
  constructor
  · intro h c hc
    by_cases hsmall : c.toNat < 128
    · exact Char.isDigit_iff_toNat.2 ((hbyte hsmall).1 (h _ ((mem_utf8_iff hsmall).2 hc)))
    · -- a character of several bytes has bytes above those of the digits
      obtain ⟨b, hb⟩ := List.exists_mem_of_length_pos (l := String.utf8EncodeChar c)
        (by rw [String.length_utf8EncodeChar]; exact c.utf8Size_pos)
      have hdigit := h b (by rw [utf8_eq_flatMap]; exact List.mem_flatMap.2 ⟨c, hc, hb⟩)
      have hlarge := le_of_mem_utf8EncodeChar hsmall hb
      rw [isDigitByte, Bool.and_eq_true, decide_eq_true_eq, decide_eq_true_eq,
        UInt8.le_iff_toNat_le, UInt8.le_iff_toNat_le] at hdigit
      exact absurd hdigit.2 (by simp; omega)
  · intro h b hb
    have hascii : ∀ c ∈ s.toList, c.toNat < 128 := fun c hc => Text.toNat_lt_of_isDigit (h c hc)
    rw [Text.utf8_of_ascii hascii] at hb
    obtain ⟨c, hc, rfl⟩ := List.mem_map.1 hb
    exact (hbyte (hascii c hc)).2 (Char.isDigit_iff_toNat.1 (h c hc))

/-- `undashed`, with the two bytes read at their positions. -/
def undashed? (s : String) : Option (Except ConfigError String) :=
  let bytes := utf8 s
  if bytes.length = 10 then do
    let fourth ← bytes[3]?
    let seventh ← bytes[6]?
    if fourth = 0x2d ∧ seventh = 0x2d then
      some (.ok (String.ofList (s.toList.filter (· != '-'))))
    else
      some (.error (.invalidSetupCode "expected XXX-XX-XXX"))
  else
    some (.ok s)

theorem undashed?_eq (s : String) : undashed? s = some ((undashed s).map String.ofList) := by
  unfold undashed? undashed
  rw [← length_utf8, hasDashAt_eq, hasDashAt_eq]
  by_cases hten : (utf8 s).length = 10
  · simp only [if_pos hten]
    rw [List.getElem?_eq_getElem (by omega), List.getElem?_eq_getElem (by omega)]
    by_cases hdashes : (utf8 s)[3] = 0x2d ∧ (utf8 s)[6] = 0x2d
    · simp [hdashes, Except.map]
    · simp only [Option.bind_eq_bind, Option.bind_some, if_neg hdashes]
      rw [if_neg (by simpa using hdashes)]
      rfl
  · simp [hten, Except.map]

/-- `parse`, with the bytes of the digits tested and copied. -/
def parse? (input : String) : Option (Except ConfigError (Octets 8)) := do
  match ← undashed? (Text.trim input) with
  | .error error => some (.error error)
  | .ok digits =>
    let bytes := utf8 digits
    if bytes.length = 8 ∧ bytes.all isDigitByte then
      if simpleCodes.contains digits then
        some (.error (.invalidSetupCode "setup code is too simple"))
      else
        (Octets.ofBytes? 8 bytes).map .ok
    else
      some (.error (.invalidSetupCode "setup code must be 8 digits"))

theorem parse?_eq (input : String) : parse? input = some ((parse input).map bytes) := by
  unfold parse? parse
  rw [undashed?_eq]
  cases undashed (Text.trim input) with
  | error error => rfl
  | ok digits =>
    have hform : ((utf8 (String.ofList digits)).length = 8 ∧
        (utf8 (String.ofList digits)).all isDigitByte = true) ↔
          digits.length = 8 ∧ digits.all Char.isDigit = true := by
      rw [all_isDigitByte, String.toList_ofList]
      refine and_congr_left fun hdigits => ?_
      rw [length_utf8_of_isDigit (List.all_eq_true.1 hdigits)]
    simp only [Except.map, Option.bind_some, bind, Except.bind]
    by_cases hdigits : digits.length = 8 ∧ digits.all Char.isDigit = true
    · rw [if_pos (hform.2 hdigits), dif_pos hdigits]
      split
      · rfl
      · exact congrArg (Option.map Except.ok)
          (Octets.ofBytes?_bytes (bytes ⟨digits, hdigits.1, List.all_eq_true.1 hdigits.2⟩))
    · rw [if_neg (mt hform.1 hdigits), dif_neg hdigits]

/-- Ten bytes in five characters. -/
example : parse? "äöüßé" = some (.error (.invalidSetupCode "expected XXX-XX-XXX")) := rfl

/-- `dashed`, with the bytes of the digits cut at their positions. -/
def dashed? (digits : Octets 8) : Option String := do
  let first ← slice? digits.bytes 0 3
  let second ← slice? digits.bytes 3 5
  let third ← slice? digits.bytes 5 8
  some s!"{Text.lossy first}-{Text.lossy second}-{Text.lossy third}"

theorem dashed?_bytes : dashed? code.bytes = some code.dashed := by
  obtain ⟨first, second, third, hfirst, hsecond, hthird, hdashed⟩ := code.exists_pieces
  rw [dashed?, bytes_bytes, slice?_of_textBetween? hfirst, slice?_of_textBetween? hsecond,
    slice?_of_textBetween? hthird, hdashed]
  simp only [Option.bind_eq_bind, Option.bind_some, Text.lossy_utf8]

/-! ## The controller -/

/-- `typedPassword`, with the text of the digits cut at the positions of its bytes. -/
def typedPassword? (typed : String) : Option String :=
  let digits := String.ofList (typed.toList.filter (·.isDigit))
  if (utf8 digits).length = 8 then do
    let first ← textBetween? digits 0 3
    let second ← textBetween? digits 3 5
    let third ← textBetween? digits 5 8
    some s!"{first}-{second}-{third}"
  else
    some typed

theorem typedPassword?_eq (typed : String) : typedPassword? typed = some (typedPassword typed) := by
  have hdigits : ∀ c ∈ typed.toList.filter (·.isDigit), c.isDigit = true :=
    fun c hc => (List.mem_filter.1 hc).2
  unfold typedPassword? typedPassword
  simp only
  rw [length_utf8_of_isDigit hdigits]
  split
  · rename_i height
    obtain ⟨first, second, third, hfirst, hsecond, hthird, hdashed⟩ :=
      exists_pieces ⟨_, height, hdigits⟩
    rw [text] at hfirst hsecond hthird
    rw [dashed] at hdashed
    rw [hfirst, hsecond, hthird, hdashed]
    rfl
  · rfl

/-! ## Both sides -/

/-- What both sides make of a text that the accessory reads as a code. -/
structure ReadAlike (typed : String) (code : SetupCode) : Prop where
  /-- The accessory's password has three digits, two and three, with dashes in between. -/
  groups : ∃ first second third : List Char, code.digits = first ++ second ++ third ∧
    first.length = 3 ∧ second.length = 2 ∧ third.length = 3 ∧
      code.dashed.toList = first ++ '-' :: second ++ '-' :: third
  dashed_of_bytes : dashed? code.bytes = some code.dashed
  text_of_bytes : Text.lossy code.bytes.bytes = code.text
  /-- What the accessory writes of the code is read as the code. -/
  parse_dashed : parse code.dashed = .ok code
  parse_text : parse code.text = .ok code
  /-- The controller's password is the accessory's. -/
  password_eq : ∀ random, (ControllerSetup.generate typed random).1.client.password =
    utf8 code.dashed

theorem readAlike_of_parse {code : SetupCode} (h : parse typed = .ok code) :
    ReadAlike typed code where
  groups := by
    obtain ⟨first, second, third, hdigits, hfirst, hsecond, hthird⟩ := code.exists_groups
    refine ⟨first, second, third, hdigits, hfirst, hsecond, hthird, ?_⟩
    rw [dashed, hdigits, dash_append hfirst hsecond, String.toList_ofList]
  dashed_of_bytes := code.dashed?_bytes
  text_of_bytes := code.lossy_bytes
  parse_dashed := by
    have hread := parse_of_spells code.spells_dashed (parse_eq_ok_iff.1 h).2
    rwa [String.ofList_toList] at hread
  parse_text := parse_of_spells .bare (parse_eq_ok_iff.1 h).2
  password_eq random := congrArg utf8 (typedPassword_of_parse h)

/-- Any text can be typed. No position at which either side reads is past the end of a text or
inside a character. A text is read as a code if it has eight digits between its blanks, bare or with
the dashes of the dashed form, that are not too simple, and only then. What is read as a code means
the same to both sides. -/
theorem read_alike (typed : String) :
    parse? typed = some ((parse typed).map bytes) ∧
      typedPassword? typed = some (typedPassword typed) ∧
      (∀ code, parse typed = .ok code ↔
        code.Spells (Text.trim typed).toList ∧ code.text ∉ simpleCodes) ∧
      ∀ code, parse typed = .ok code → ReadAlike typed code :=
  ⟨parse?_eq typed, typedPassword?_eq typed, fun _ => parse_eq_ok_iff,
    fun _ => readAlike_of_parse⟩

theorem read_alike_default :
    parse " 001-02-003\n" = .ok default ∧ ReadAlike " 001-02-003\n" default :=
  ⟨rfl, (read_alike " 001-02-003\n").2.2.2 default rfl⟩

end SetupCode

end HomeKit
