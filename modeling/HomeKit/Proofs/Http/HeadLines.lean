import HomeKit.Http.Request
import HomeKit.Http.Response

/-!
# The lines of a head

Requests and responses write their heads alike: a first line, a line for each header, the line with
the length of the body, and a blank line (`utf8_head`). The head is read by its lines
(`text?_linesOf`), and a header whose name and value do not begin or end with blanks and stay within
one line is read as it was written (`headerOf?_headerText`).
-/

namespace HomeKit.Http

/-- The text stays within one line. -/
def OneLine (text : String) : Prop :=
  '\r' ∉ text.toList ∧ '\n' ∉ text.toList

instance (text : String) : Decidable (OneLine text) :=
  inferInstanceAs (Decidable ('\r' ∉ text.toList ∧ '\n' ∉ text.toList))

/-- Name and value have no blanks around them, stay within one line, and the name has no colon. -/
structure IsHeader (name value : String) : Prop where
  name_trimmed : Text.trim name = name
  value_trimmed : Text.trim value = value
  name_oneLine : OneLine name
  value_oneLine : OneLine value
  no_colon : ':' ∉ name.toList

/-- The line of a header, without its end. -/
def headerText (name value : String) : String :=
  s!"{name}: {value}"

/-- The bytes of lines, each with its end. -/
def linesOf (lines : List String) : Bytes :=
  lines.flatMap fun line => utf8 line ++ [0x0d, 0x0a]

/-- The headers of a message as they are sent: the length of the body stands last. -/
def withLength (headers : List (String × String)) (length : Nat) : List (String × String) :=
  headers ++ [(contentLength, toString length)]

/-- The lines of a head before its blank line. -/
def headLines (first : String) (headers : List (String × String)) (length : Nat) : List String :=
  first :: (withLength headers length).map fun header => headerText header.1 header.2

/-! ## Lines -/

theorem OneLine.append {a b : String} (ha : OneLine a) (hb : OneLine b) : OneLine (a ++ b) := by
  simp only [OneLine, String.toList_append, List.mem_append, not_or]
  exact ⟨⟨ha.1, hb.1⟩, ha.2, hb.2⟩

/-- A number is written in digits, which are not blank and no end of a line. -/
theorem oneLine_repr (n : Nat) : OneLine n.repr :=
  ⟨fun h => absurd (Text.isDigit_of_mem_repr h) (by decide),
    fun h => absurd (Text.isDigit_of_mem_repr h) (by decide)⟩

theorem OneLine.return_not_mem {text : String} (h : OneLine text) : 0x0d ∉ utf8 text :=
  fun hmem => h.1 ((mem_utf8_iff (c := '\r') (by decide)).1 hmem)

theorem OneLine.lineFeed_not_mem {text : String} (h : OneLine text) : 0x0a ∉ utf8 text :=
  fun hmem => h.2 ((mem_utf8_iff (c := '\n') (by decide)).1 hmem)

theorem linesOf_cons (line : String) (lines : List String) :
    linesOf (line :: lines) = utf8 line ++ 0x0d :: 0x0a :: linesOf lines := by
  rw [linesOf, List.flatMap_cons, List.append_assoc]
  rfl

theorem exists_linesOf_eq_append {lines : List String} (h : lines ≠ []) :
    ∃ bytes, linesOf lines = bytes ++ [0x0d, 0x0a] := by
  induction lines with
  | nil => exact absurd rfl h
  | cons line lines ih =>
    cases lines with
    | nil => exact ⟨utf8 line, linesOf_cons line []⟩
    | cons next lines =>
      obtain ⟨bytes, hbytes⟩ := ih (List.cons_ne_nil next lines)
      refine ⟨utf8 line ++ 0x0d :: 0x0a :: bytes, ?_⟩
      rw [linesOf_cons, hbytes, List.append_assoc]
      rfl

theorem linesOf_append (lines more : List String) :
    linesOf (lines ++ more) = linesOf lines ++ linesOf more :=
  List.flatMap_append

/-- A head begins with a byte of its first line, not with an end of a line. -/
theorem exists_linesOf_eq_cons {lines : List String} (hlines : lines ≠ [])
    (hline : ∀ line ∈ lines, OneLine line) (hne : ∀ line ∈ lines, line ≠ "") :
    ∃ b rest, linesOf lines = b :: rest ∧ b ≠ 0x0d ∧ b ≠ 0x0a := by
  obtain ⟨line, more, rfl⟩ := List.exists_cons_of_ne_nil hlines
  have hfirst := hline line List.mem_cons_self
  obtain ⟨b, bytes, hbytes⟩ :=
    List.exists_cons_of_ne_nil (utf8_ne_nil (hne line List.mem_cons_self))
  have hb : b ∈ utf8 line := hbytes ▸ List.mem_cons_self
  refine ⟨b, bytes ++ 0x0d :: 0x0a :: linesOf more, ?_, ?_, ?_⟩
  · rw [linesOf_cons, hbytes, List.cons_append]
  · rintro rfl
    exact hfirst.return_not_mem hb
  · rintro rfl
    exact hfirst.lineFeed_not_mem hb

/-- The lines of a text that ends with `last`, which may be empty. -/
theorem text?_linesOf {lines : List String} (h : ∀ line ∈ lines, OneLine line) (last : String) :
    ∃ text, text? (linesOf lines ++ utf8 last) = some text ∧
      Text.lines text.toList = lines.map String.toList ++ Text.lines last.toList := by
  refine ⟨String.join (lines.map (· ++ "\r\n")) ++ last, ?_, ?_⟩
  · rw [text?_eq_some_iff, utf8_append, utf8_join, List.flatMap_map]
    simp only [utf8_append]
    rfl
  · have hlines : ∀ cs ∈ lines.map String.toList, '\n' ∉ cs := by
      intro cs hcs
      obtain ⟨line, hline, rfl⟩ := List.mem_map.1 hcs
      exact (h line hline).2
    rw [← Text.lines_flatMap hlines, String.toList_append, String.toList_join, List.flatMap_map,
      List.flatMap_map]
    simp only [String.toList_append]
    rfl

/-! ## Heads -/

theorem headerText_toList (name value : String) :
    (headerText name value).toList = name.toList ++ ':' :: ' ' :: value.toList := by
  show ((name ++ ": ") ++ value).toList = _
  rw [String.toList_append, String.toList_append, List.append_assoc]
  rfl

theorem headerLine_eq (name value : String) :
    headerLine name value = headerText name value ++ "\r\n" :=
  rfl

/-- A head is its lines and a blank one. -/
theorem utf8_head (first : String) (headers : List (String × String)) (length : Nat) :
    utf8 (String.join ((first ++ "\r\n") ::
      headers.map (fun header => headerLine header.1 header.2) ++ [lastLines length])) =
        linesOf (headLines first headers length) ++ [0x0d, 0x0a] := by
  have hfirst : utf8 (first ++ "\r\n") = linesOf [first] := by
    rw [utf8_append, linesOf, List.flatMap_singleton]
    rfl
  have hheaders : (headers.map fun header => headerLine header.1 header.2).flatMap utf8 =
      linesOf (headers.map fun header => headerText header.1 header.2) := by
    simp only [linesOf, List.flatMap_map, headerLine_eq, utf8_append]
    rfl
  have hlast : utf8 (lastLines length) =
      linesOf [headerText contentLength (toString length)] ++ [0x0d, 0x0a] := by
    show utf8 ((headerText contentLength (toString length) ++ "\r\n") ++ "\r\n") = _
    rw [utf8_append, utf8_append, linesOf, List.flatMap_singleton]
    rfl
  have hlines : headLines first headers length =
      [first] ++ headers.map (fun header => headerText header.1 header.2) ++
        [headerText contentLength (toString length)] := by
    rw [headLines, withLength, List.map_append]
    rfl
  rw [utf8_join, List.flatMap_append, List.flatMap_cons, List.flatMap_singleton, hfirst, hheaders,
    hlast, hlines, linesOf_append, linesOf_append, List.append_assoc, List.append_assoc,
    List.append_assoc]

theorem headerText_toList_ne (name value : String) : (headerText name value).toList ≠ [] := by
  rw [headerText_toList]
  exact List.append_ne_nil_of_right_ne_nil _ (List.cons_ne_nil _ _)

theorem headerText_ne (name value : String) : headerText name value ≠ "" :=
  fun h => headerText_toList_ne name value (congrArg String.toList h)

theorem IsHeader.oneLine {name value : String} (h : IsHeader name value) :
    OneLine (headerText name value) := by
  have hcolon : OneLine ": " := by decide
  exact (h.name_oneLine.append hcolon).append h.value_oneLine

theorem headerOf?_headerText {name value : String} (h : IsHeader name value) :
    headerOf? (headerText name value).toList = some (name, value) := by
  have hcut : Text.cut? ':' (headerText name value).toList =
      some (name.toList, ' ' :: value.toList) :=
    Text.cut?_eq_some_iff.2 ⟨h.no_colon, headerText_toList name value⟩
  have hvalue : Text.trimChars (' ' :: value.toList) = Text.trimChars value.toList :=
    Text.trimChars_cons_of_isBlank (by decide) value.toList
  rw [headerOf?, hcut, Option.map_some]
  simp only [hvalue]
  exact congrArg some (Prod.ext h.name_trimmed h.value_trimmed)

theorem isHeader_contentLength (length : Nat) : IsHeader contentLength (toString length) where
  name_trimmed := by decide
  value_trimmed := by
    have hdigits : ∀ c ∈ length.repr.toList, Text.isBlank c = false :=
      fun _ hc => Text.not_isBlank_of_isDigit (Text.isDigit_of_mem_repr hc)
    show String.ofList (Text.trimChars length.repr.toList) = length.repr
    rw [Text.trimChars_of_not_isBlank hdigits, String.ofList_toList]
  name_oneLine := by decide
  value_oneLine := oneLine_repr length
  no_colon := by decide

theorem headLines_ne_nil (first : String) (headers : List (String × String)) (length : Nat) :
    headLines first headers length ≠ [] :=
  List.cons_ne_nil _ _

section HeadLines

variable {headers : List (String × String)} {length : Nat}
  (hheaders : ∀ header ∈ headers, IsHeader header.1 header.2)

include hheaders in
theorem isHeader_of_mem_withLength {header : String × String}
    (h : header ∈ withLength headers length) : IsHeader header.1 header.2 := by
  rcases List.mem_append.1 h with h | h
  · exact hheaders header h
  · rw [List.mem_singleton.1 h]
    exact isHeader_contentLength length

include hheaders in
/-- Headers are read from their lines. -/
theorem filterMap_headerOf? :
    (headers.map fun header => (headerText header.1 header.2).toList).filterMap headerOf? =
      headers := by
  induction headers with
  | nil => rfl
  | cons header headers ih =>
    rw [List.map_cons, List.filterMap_cons_some
      (headerOf?_headerText (hheaders header List.mem_cons_self)),
      ih fun header hheader => hheaders header (List.mem_cons_of_mem _ hheader)]

include hheaders in
/-- No line of a head is blank or ends within. -/
theorem oneLine_of_mem_headLines {first line : String} (hfirst : OneLine first) (hne : first ≠ "")
    (h : line ∈ headLines first headers length) : OneLine line ∧ line ≠ "" := by
  rcases List.mem_cons.1 h with rfl | h
  · exact ⟨hfirst, hne⟩
  · obtain ⟨header, hheader, rfl⟩ := List.mem_map.1 h
    exact ⟨(isHeader_of_mem_withLength hheaders hheader).oneLine, headerText_ne header.1 header.2⟩

end HeadLines

end HomeKit.Http
