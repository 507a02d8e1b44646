import HomeKit.Http.RequestReader
import Mathlib.Data.List.Basic

/-!
# Heads read byte by byte

A reader within a head keeps its bytes (`inHead`). Bytes without the end of a line are kept
(`feed_run`), and so is a line that is more than its end (`feed_wholeLine`). A line that is only its
end is blank, and ends the head (`feed_blank`).
-/

namespace HomeKit.Http

/-- What comes of bytes that follow. -/
def ReadProgress.feed : ReadProgress → Bytes → ReadProgress × Bytes
  | .more reader, bytes => reader.feed bytes
  | progress, bytes => (progress, bytes)

/-! ## Lines -/

/-- A line that is only its end. -/
def IsBlankLine (line : Bytes) : Prop :=
  line = [0x0a] ∨ line = [0x0d, 0x0a]

instance (line : Bytes) : Decidable (IsBlankLine line) :=
  inferInstanceAs (Decidable (line = [0x0a] ∨ line = [0x0d, 0x0a]))

namespace RequestReader

variable {order : HeaderOrder} {bytes run read front line : Bytes} {b : UInt8}

theorem beforeBlankLine?_of_ne (h : b ≠ 0x0a) (read : Bytes) :
    beforeBlankLine? (b :: read) = none := by
  unfold beforeBlankLine?
  split <;> simp_all

/-- A line with a character before its end is not blank. -/
theorem beforeBlankLine?_line (h : b ≠ 0x0a) (read : Bytes) :
    beforeBlankLine? (0x0a :: 0x0d :: b :: read) = none := by
  unfold beforeBlankLine?
  split <;> simp_all

theorem beforeBlankLine?_append (h : IsBlankLine line) (front : Bytes) :
    beforeBlankLine? (front ++ 0x0a :: line).reverse = some (0x0a :: front.reverse) := by
  rcases h with rfl | rfl <;> simp [beforeBlankLine?]

/-- A line that does not consist of its end ends no blank line. -/
theorem beforeBlankLine?_of_not_isBlankLine (hrun : 0x0a ∉ run) (h : ¬ IsBlankLine (run ++ [0x0a]))
    (read : Bytes) : beforeBlankLine? (0x0a :: (read ++ run).reverse) = none := by
  rcases List.eq_nil_or_concat' run with rfl | ⟨run, last, rfl⟩
  · exact absurd (.inl rfl) h
  · have hlast : last ≠ 0x0a := by
      rintro rfl
      exact hrun (by simp)
    by_cases hreturn : last = 0x0d
    · subst hreturn
      rcases List.eq_nil_or_concat' run with rfl | ⟨run, before, rfl⟩
      · exact absurd (.inr rfl) h
      · have hbefore : before ≠ 0x0a := by
          rintro rfl
          exact hrun (by simp)
        have hline := beforeBlankLine?_line hbefore (read ++ run).reverse
        simpa using hline
    · rw [← List.append_assoc, List.reverse_append]
      unfold beforeBlankLine?
      split <;> simp_all

/-! ## Reading -/

/-- The reader within a head that begins with these bytes. -/
def inHead (order : HeaderOrder) (bytes : Bytes) : RequestReader :=
  .head order bytes.reverse bytes.length

theorem feed_cons_eq (reader : RequestReader) (b : UInt8) (rest : Bytes) :
    reader.feed (b :: rest) = (reader.push b).feed rest := by
  rw [feed]
  cases reader.push b <;> rfl

theorem feed_cons {reader next : RequestReader} (h : reader.push b = .more next) (rest : Bytes) :
    reader.feed (b :: rest) = next.feed rest := by
  rw [feed, h]

/-- A byte that does not end a blank line is kept. -/
theorem push_inHead (hline : beforeBlankLine? (b :: bytes.reverse) = none)
    (h : bytes.length + 1 ≤ maxHead) :
    (inHead order bytes).push b = .more (inHead order (bytes ++ [b])) := by
  rw [inHead, push, if_neg (by omega)]
  simp only [hline, inHead, List.reverse_append, List.reverse_singleton, List.singleton_append,
    List.length_append, List.length_singleton]

/-- Bytes without the end of a line are kept. -/
theorem feed_run (h : 0x0a ∉ run) (hlength : bytes.length + run.length ≤ maxHead)
    (more : Bytes) :
    (inHead order bytes).feed (run ++ more) = (inHead order (bytes ++ run)).feed more := by
  induction run generalizing bytes with
  | nil => rw [List.append_nil, List.nil_append]
  | cons b run ih =>
    have hb : b ≠ 0x0a := fun e => h (e ▸ List.mem_cons_self)
    have hrun : 0x0a ∉ run := fun hrun => h (List.mem_cons_of_mem b hrun)
    rw [List.length_cons] at hlength
    rw [List.cons_append, feed_cons (push_inHead (beforeBlankLine?_of_ne hb _) (by omega)),
      ih hrun (by rw [List.length_append, List.length_singleton]; omega), List.append_assoc,
      List.singleton_append]

/-- A line is kept, unless it is blank. -/
theorem feed_wholeLine (hrun : 0x0a ∉ run) (h : ¬ IsBlankLine (run ++ [0x0a]))
    (hlength : (read ++ (run ++ [0x0a])).length ≤ maxHead) (more : Bytes) :
    (inHead order read).feed (run ++ [0x0a] ++ more) =
      (inHead order (read ++ (run ++ [0x0a]))).feed more := by
  simp only [List.length_append, List.length_singleton] at hlength
  have hpush : (inHead order (read ++ run)).push 0x0a =
      .more (inHead order (read ++ run ++ [0x0a])) :=
    push_inHead (beforeBlankLine?_of_not_isBlankLine hrun h read)
      (by rw [List.length_append]; omega)
  rw [List.append_assoc, feed_run hrun (by omega), List.singleton_append, feed_cons hpush,
    List.append_assoc]

/-- The last byte of a head ends it. -/
theorem push_head (hline : IsBlankLine line) (h : bytes ++ [b] = front ++ 0x0a :: line)
    (hlength : bytes.length + 1 ≤ maxHead) :
    (inHead order bytes).push b = finishHead order (bytes ++ [b]) := by
  have hread : b :: bytes.reverse = (front ++ 0x0a :: line).reverse := by
    rw [← h, List.reverse_append]
    rfl
  rw [inHead, push, if_neg (by omega), hread, beforeBlankLine?_append hline]
  simp only [List.reverse_reverse, h]

/-- A blank line ends a head that has begun. -/
theorem feed_blank (hline : IsBlankLine line) (front more : Bytes)
    (hlength : (front ++ [0x0a] ++ line).length ≤ maxHead) :
    (inHead order (front ++ [0x0a])).feed (line ++ more) =
      (finishHead order (front ++ [0x0a] ++ line)).feed more := by
  obtain ⟨run, hrun, rfl⟩ : ∃ run, 0x0a ∉ run ∧ line = run ++ [0x0a] := by
    rcases hline with rfl | rfl
    · exact ⟨[], by decide, rfl⟩
    · exact ⟨[0x0d], by decide, rfl⟩
  have hhead : front ++ [0x0a] ++ run ++ [0x0a] = front ++ 0x0a :: (run ++ [0x0a]) := by
    simp only [List.append_assoc, List.cons_append, List.nil_append]
  simp only [List.length_append, List.length_singleton] at hlength
  rw [List.append_assoc run,
    feed_run hrun (by simp only [List.length_append, List.length_singleton]; omega),
    List.singleton_append, feed_cons_eq, push_head hline hhead
      (by simp only [List.length_append, List.length_singleton]; omega), List.append_assoc _ run]

end RequestReader

end HomeKit.Http
