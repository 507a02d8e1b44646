/-!
# Texts in pieces

A text is cut at the first of a character (`cut?`), at each of them (`pieces`) or into lines
(`lines`). What was cut comes together again with the character between the pieces
(`cut?_eq_some_iff`, `intercalate_pieces`), and what was joined comes apart again
(`pieces_intercalate`). Lines that were written one after the other are the lines of the text
(`lines_flatMap`).
-/

namespace HomeKit.Text

/-- What stands before the first `separator` and what after it. -/
def cut? (separator : Char) : List Char → Option (List Char × List Char)
  | [] => none
  | c :: rest =>
    if c = separator then some ([], rest)
    else (cut? separator rest).map fun (before, after) => (c :: before, after)

/-- The pieces between separators; `piece` holds the one at hand, last character first. -/
def piecesFrom (separator : Char) (piece : List Char) : List Char → List (List Char)
  | [] => [piece.reverse]
  | c :: rest =>
    if c = separator then piece.reverse :: piecesFrom separator [] rest
    else piecesFrom separator (c :: piece) rest

/-- The pieces between separators, one more than there are separators. -/
def pieces (separator : Char) (cs : List Char) : List (List Char) :=
  piecesFrom separator [] cs

/-- A line, last character first, without the carriage return at its end. -/
def dropReturn : List Char → List Char
  | '\r' :: line => line
  | line => line

/-- The lines of a text; `line` holds the one at hand, last character first. -/
def linesFrom (line : List Char) : List Char → List (List Char)
  | [] => if line.isEmpty then [] else [line.reverse]
  | c :: rest =>
    if c = '\n' then (dropReturn line).reverse :: linesFrom [] rest else linesFrom (c :: line) rest

/-- The lines of a text. Each ends with a line feed, or a carriage return and a line feed, that is
not part of it; the last one may end without. -/
def lines (cs : List Char) : List (List Char) :=
  linesFrom [] cs

theorem cut?_eq_some_iff {separator : Char} {cs before after : List Char} :
    cut? separator cs = some (before, after) ↔
      separator ∉ before ∧ cs = before ++ separator :: after := by
  induction cs generalizing before with
  | nil => simp [cut?]
  | cons c rest ih =>
    by_cases hc : c = separator
    · subst hc
      cases before with
      | nil => simp [cut?, eq_comm]
      | cons d before =>
        simp only [cut?, if_true, Option.some.injEq, Prod.mk.injEq, reduceCtorEq, false_and,
          List.mem_cons, not_or, List.cons_append, List.cons.injEq, false_iff, not_and]
        intro h1 h2
        exact absurd h2 h1.1
    · cases before with
      | nil => simp [cut?, hc]
      | cons d before =>
        simp only [cut?, if_neg hc, Option.map_eq_some_iff, Prod.exists, Prod.mk.injEq,
          List.cons.injEq, List.mem_cons, not_or, List.cons_append]
        constructor
        · rintro ⟨b, a, h, ⟨rfl, rfl⟩, rfl⟩
          obtain ⟨h1, rfl⟩ := ih.1 h
          exact ⟨⟨fun h => hc h.symm, h1⟩, rfl, rfl⟩
        · rintro ⟨⟨-, h1⟩, rfl, rfl⟩
          exact ⟨before, after, ih.2 ⟨h1, rfl⟩, ⟨rfl, rfl⟩, rfl⟩

theorem intercalate_piecesFrom (separator : Char) (piece cs : List Char) :
    List.intercalate [separator] (piecesFrom separator piece cs) = piece.reverse ++ cs := by
  induction cs generalizing piece with
  | nil => simp [piecesFrom, List.intercalate]
  | cons c rest ih =>
    by_cases hc : c = separator
    · have hne : piecesFrom separator [] rest ≠ [] := by
        cases rest with
        | nil => simp [piecesFrom]
        | cons d rest =>
          have : ∀ (p : List Char) (cs : List Char), piecesFrom separator p cs ≠ [] := by
            intro p cs
            induction cs generalizing p with
            | nil => simp [piecesFrom]
            | cons e cs ih2 => unfold piecesFrom; split <;> simp [ih2]
          exact this [] _
      have := ih []
      unfold piecesFrom
      rw [if_pos hc]
      cases hp : piecesFrom separator [] rest with
      | nil => exact absurd hp hne
      | cons q qs =>
        rw [hp] at this
        simp only [List.intercalate, List.intersperse, List.flatten_cons] at this ⊢
        rw [this, hc]
        simp
    · unfold piecesFrom
      rw [if_neg hc, ih]
      simp

@[simp] theorem intercalate_pieces (separator : Char) (cs : List Char) :
    List.intercalate [separator] (pieces separator cs) = cs := by
  simp [pieces, intercalate_piecesFrom]

theorem piecesFrom_append {separator : Char} {cs : List Char} (h : separator ∉ cs)
    (piece rest : List Char) :
    piecesFrom separator piece (cs ++ rest) = piecesFrom separator (cs.reverse ++ piece) rest := by
  induction cs generalizing piece with
  | nil => rfl
  | cons c cs ih =>
    have hc : c ≠ separator := fun e => h (e ▸ List.mem_cons_self)
    rw [List.cons_append, piecesFrom, if_neg hc, ih (fun hcs => h (List.mem_cons_of_mem c hcs)),
      List.reverse_cons, List.append_assoc, List.singleton_append]

/-- A piece before a separator comes first. -/
theorem pieces_append {separator : Char} {cs : List Char} (h : separator ∉ cs) (rest : List Char) :
    pieces separator (cs ++ separator :: rest) = cs :: pieces separator rest := by
  rw [pieces, piecesFrom_append h, List.append_nil, piecesFrom, if_pos rfl, List.reverse_reverse]
  rfl

theorem pieces_of_not_mem {separator : Char} {cs : List Char} (h : separator ∉ cs) :
    pieces separator cs = [cs] := by
  have hread := piecesFrom_append h [] []
  rw [List.append_nil, List.append_nil] at hread
  rw [pieces, hread, piecesFrom, List.reverse_reverse]

/-- Pieces that were joined come apart again. -/
theorem pieces_intercalate {separator : Char} {joined : List (List Char)} (hne : joined ≠ [])
    (h : ∀ cs ∈ joined, separator ∉ cs) :
    pieces separator (List.intercalate [separator] joined) = joined := by
  induction joined with
  | nil => exact absurd rfl hne
  | cons cs rest ih =>
    have hfirst := h cs List.mem_cons_self
    cases rest with
    | nil => rw [List.intercalate_singleton, pieces_of_not_mem hfirst]
    | cons next more =>
      rw [List.intercalate_cons_cons, List.append_assoc, List.singleton_append,
        pieces_append hfirst,
        ih (List.cons_ne_nil next more) fun ds hds => h ds (List.mem_cons_of_mem cs hds)]

theorem mem_intercalate_singleton {α : Type} {separator item : α} {pieces : List (List α)}
    (h : item ∈ List.intercalate [separator] pieces) :
    item = separator ∨ ∃ piece ∈ pieces, item ∈ piece := by
  induction pieces with
  | nil => cases h
  | cons piece rest ih =>
    cases rest with
    | nil =>
      rw [List.intercalate_singleton] at h
      exact .inr ⟨piece, List.mem_cons_self, h⟩
    | cons next more =>
      rw [List.intercalate_cons_cons, List.append_assoc, List.mem_append, List.mem_append,
        List.mem_singleton] at h
      rcases h with hpiece | hseparator | hrest
      · exact .inr ⟨piece, List.mem_cons_self, hpiece⟩
      · exact .inl hseparator
      · rcases ih hrest with hseparator | ⟨other, hother, hitem⟩
        · exact .inl hseparator
        · exact .inr ⟨other, List.mem_cons_of_mem _ hother, hitem⟩

theorem linesFrom_append {cs : List Char} (h : '\n' ∉ cs) (line rest : List Char) :
    linesFrom line (cs ++ rest) = linesFrom (cs.reverse ++ line) rest := by
  induction cs generalizing line with
  | nil => rfl
  | cons c cs ih =>
    have hc : c ≠ '\n' := fun e => h (e ▸ List.mem_cons_self)
    rw [List.cons_append, linesFrom, if_neg hc, ih (fun hcs => h (List.mem_cons_of_mem c hcs)),
      List.reverse_cons, List.append_assoc, List.singleton_append]

/-- A line that ends with a carriage return and a line feed comes first, without them. -/
theorem lines_line {cs : List Char} (h : '\n' ∉ cs) (rest : List Char) :
    lines (cs ++ '\r' :: '\n' :: rest) = cs :: lines rest := by
  have hreturn : ∀ line, linesFrom line ('\r' :: '\n' :: rest) = line.reverse :: lines rest :=
    fun _ => rfl
  rw [lines, linesFrom_append h, hreturn, List.append_nil, List.reverse_reverse]

theorem lines_flatMap {written : List (List Char)} (h : ∀ cs ∈ written, '\n' ∉ cs)
    (rest : List Char) :
    lines (written.flatMap (· ++ ['\r', '\n']) ++ rest) = written ++ lines rest := by
  induction written with
  | nil => rfl
  | cons cs written ih =>
    simp only [List.flatMap_cons, List.append_assoc, List.cons_append, List.nil_append]
    rw [lines_line (h cs List.mem_cons_self), ih fun ds hds => h ds (List.mem_cons_of_mem cs hds)]

/-- The last line needs no end. -/
theorem lines_last {cs : List Char} (h : '\n' ∉ cs) (hne : cs ≠ []) : lines cs = [cs] := by
  have hread := linesFrom_append h [] []
  rw [List.append_nil, List.append_nil] at hread
  rw [lines, hread, linesFrom, if_neg, List.reverse_reverse]
  rw [List.isEmpty_reverse, List.isEmpty_iff]
  exact hne

end HomeKit.Text
