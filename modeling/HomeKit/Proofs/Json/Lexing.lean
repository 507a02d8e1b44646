import HomeKit.Json.Printer
import HomeKit.Json.Token
import HomeKit.Text.Hex
import Mathlib.Tactic.SplitIfs

/-!
# Reading tokens back

A string is read back from the text that `printString` gives, whatever characters it holds
(`Token.string?_printString`): each byte is escaped by itself, and reading the escaped byte adds
that byte again (`Token.string?_escapeByte`). A text that is made of spelled tokens is cut into
these tokens (`Token.tokens?_spelled`).
-/

namespace HomeKit.Json.Token

/-! ## Strings -/

/-- A control character's two digits give its number. -/
theorem codeUnit?_hexDigit {b : UInt8} (hb : b < 0x20) :
    codeUnit? 0x30 0x30 (hexDigit (b / 16)) (hexDigit (b % 16)) = some b.toNat := by
  have hall : ∀ n : Fin 32, codeUnit? 0x30 0x30 (hexDigit (UInt8.ofNat n / 16))
      (hexDigit (UInt8.ofNat n % 16)) = some n.val := by
    decide +kernel
  have hn : b.toNat < 32 := UInt8.lt_iff_toNat_lt.1 hb
  have := hall ⟨b.toNat, hn⟩
  rwa [UInt8.ofNat_toNat] at this

theorem pushChar_of_ascii (bytes : Bytes) {b : UInt8} (hb : b < 0x20) :
    Scan.pushChar bytes b.toNat = b :: bytes := by
  have hn : b.toNat < 32 := UInt8.lt_iff_toNat_lt.1 hb
  have hchar : (Char.ofNat b.toNat).toNat = b.toNat := by
    exact (by decide +kernel : ∀ n : Fin 32, (Char.ofNat n).toNat = n) ⟨b.toNat, hn⟩
  have hutf8 : utf8 (String.ofList [Char.ofNat b.toNat]) = [b] := by
    rw [Text.Hex.utf8_ofList_of_ascii]
    · rw [List.map_singleton, hchar, UInt8.ofNat_toNat]
    · intro c hc
      rw [List.mem_singleton.1 hc, hchar]
      omega
  rw [Scan.pushChar, String.singleton_eq_ofList, hutf8]
  rfl

/-- A number that is a control character's is pushed as that character. -/
theorem pushUnit_eq_push {scan : Scan} (hhalf : scan.half = none) {b : UInt8} (hb : b < 0x20) :
    scan.pushUnit b.toNat = scan.push b := by
  have hn : b.toNat < 32 := UInt8.lt_iff_toNat_lt.1 hb
  rw [Scan.pushUnit, if_neg (by omega)]
  simp only
  rw [if_neg (by omega), pushChar_of_ascii scan.bytes hb, Scan.push, hhalf]

/-- A byte that is not escaped is read as it is. -/
theorem string?_of_plain {scan : Scan} {b : UInt8} (hquote : b ≠ 0x22) (hbackslash : b ≠ 0x5c)
    (hb : ¬ b < 0x20) (rest : Bytes) :
    string? scan (b :: rest) = string? (scan.push b) rest := by
  rw [string?.eq_def]
  split
  · rename_i heq
    exact absurd (List.cons.inj heq).1 hquote
  · rename_i heq
    exact absurd (List.cons.inj heq).1 hbackslash
  · rename_i heq
    exact absurd (List.cons.inj heq).1 hbackslash
  · rename_i heq
    cases heq
    rw [if_neg (not_or.2 ⟨hb, hbackslash⟩)]
  · rename_i heq
    cases heq

/-- An escaped byte is read as the byte. -/
theorem string?_escapeByte {scan : Scan} (hhalf : scan.half = none) (b : UInt8) (rest : Bytes) :
    string? scan (escapeByte b ++ rest) = string? (scan.push b) rest := by
  unfold escapeByte
  split_ifs with hquote hbackslash hbackspace hfeed hline hreturn htab hb
  · subst hquote
    rfl
  · subst hbackslash
    rfl
  · subst hbackspace
    rfl
  · subst hfeed
    rfl
  · subst hline
    rfl
  · subst hreturn
    rfl
  · subst htab
    rfl
  · show (codeUnit? _ _ _ _).bind _ = _
    rw [codeUnit?_hexDigit hb]
    show string? (scan.pushUnit b.toNat) rest = _
    rw [pushUnit_eq_push hhalf hb]
  · exact string?_of_plain hquote hbackslash hb rest

theorem push_eq {scan : Scan} (hhalf : scan.half = none) (b : UInt8) :
    scan.push b = { scan with bytes := b :: scan.bytes } := by
  rw [Scan.push, hhalf]
  simp

/-- Escaped bytes up to the closing quote are read as the bytes. -/
theorem string?_flatMap_escapeByte (bytes : Bytes) {scan : Scan} (hhalf : scan.half = none)
    (rest : Bytes) :
    string? scan (bytes.flatMap escapeByte ++ 0x22 :: rest) =
      some ({ scan with bytes := bytes.reverse ++ scan.bytes }.text?, rest) := by
  induction bytes generalizing scan with
  | nil => rfl
  | cons b bytes ih =>
    rw [List.flatMap_cons, List.append_assoc, string?_escapeByte hhalf, push_eq hhalf,
      @ih { scan with bytes := b :: scan.bytes } hhalf]
    simp

/-- What stands between the quotes of a printed string is read as its text. -/
theorem string?_printString (s : String) (rest : Bytes) :
    string? {} ((utf8 s).flatMap escapeByte ++ 0x22 :: rest) = some (some s, rest) := by
  rw [string?_flatMap_escapeByte _ rfl]
  simp [Scan.text?]

/-! ## Tokens -/

/-- The text is that of the token, whatever follows. -/
structure Spells (text : Bytes) (token : Token) : Prop where
  starts : ∃ c rest, text = c :: rest ∧ isBlank c = false
  next : ∀ rest, next? (text ++ rest) = some (token, rest)

theorem spells_string (s : String) : Spells (printString s) (.string (some s)) := by
  refine ⟨⟨0x22, (utf8 s).flatMap escapeByte ++ [0x22], rfl, rfl⟩, ?_⟩
  intro rest
  have htext : printString s ++ rest = 0x22 :: ((utf8 s).flatMap escapeByte ++ 0x22 :: rest) := by
    simp [printString]
  rw [htext]
  show (string? {} _).map _ = _
  rw [string?_printString]
  rfl

theorem spells_beginObject : Spells [0x7b] .beginObject :=
  ⟨⟨_, _, rfl, rfl⟩, fun _ => rfl⟩

theorem spells_endObject : Spells [0x7d] .endObject :=
  ⟨⟨_, _, rfl, rfl⟩, fun _ => rfl⟩

theorem spells_colon : Spells [0x3a] .colon :=
  ⟨⟨_, _, rfl, rfl⟩, fun _ => rfl⟩

theorem spells_comma : Spells [0x2c] .comma :=
  ⟨⟨_, _, rfl, rfl⟩, fun _ => rfl⟩

/-- Spelled tokens are read one after another, if the count allows for them. -/
theorem tokensUpTo_spelled {pieces : List (Bytes × Token)}
    (h : ∀ piece ∈ pieces, Spells piece.1 piece.2) {count : Nat} (hcount : pieces.length ≤ count)
    (done : List Token) :
    tokensUpTo count done (pieces.flatMap (·.1)) = some (done.reverse ++ pieces.map (·.2)) := by
  induction pieces generalizing count done with
  | nil =>
    unfold tokensUpTo
    simp
  | cons piece rest ih =>
    obtain ⟨text, token⟩ := piece
    have hspells : Spells text token := h (text, token) List.mem_cons_self
    obtain ⟨c, tail, rfl, hblank⟩ := hspells.starts
    cases count with
    | zero => exact absurd hcount (by simp)
    | succ count =>
      have hnext := hspells.next (rest.flatMap (·.1))
      rw [List.cons_append] at hnext
      unfold tokensUpTo
      simp only [List.flatMap_cons, List.cons_append, List.dropWhile_cons, hblank,
        Bool.false_eq_true, if_false, hnext, Option.bind_some]
      rw [ih (fun piece hp => h piece (List.mem_cons_of_mem _ hp)) (by simpa using hcount)]
      simp

/-- There are at most as many spelled tokens as bytes. -/
theorem length_le_of_spells {pieces : List (Bytes × Token)}
    (h : ∀ piece ∈ pieces, Spells piece.1 piece.2) :
    pieces.length ≤ (pieces.flatMap (·.1)).length := by
  induction pieces with
  | nil => exact Nat.le_refl 0
  | cons piece rest ih =>
    obtain ⟨c, tail, htext, -⟩ := (h piece List.mem_cons_self).starts
    have hrest := ih fun piece hp => h piece (List.mem_cons_of_mem _ hp)
    rw [List.flatMap_cons, List.length_append, List.length_cons, htext, List.length_cons]
    omega

/-- A text made of spelled tokens is cut into these. -/
theorem tokens?_spelled {pieces : List (Bytes × Token)}
    (h : ∀ piece ∈ pieces, Spells piece.1 piece.2) :
    tokens? (pieces.flatMap (·.1)) = some (pieces.map (·.2)) := by
  rw [tokens?, tokensUpTo_spelled h (length_le_of_spells h)]
  rfl

end HomeKit.Json.Token
