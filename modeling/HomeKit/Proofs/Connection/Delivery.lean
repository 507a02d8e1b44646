import HomeKit.Proofs.Connection.Stream

/-!
# A stream in pieces

A stream comes in pieces, and each of them is decrypted with what was left before it
(`FrameReader.delivery`). Pieces that are not refused add the plain text that the stream has up to
there, wherever it is cut (`FrameReader.delivery_append`). The piece with a frame that is refused
adds nothing: if there are other frames in it, these are lost (`FrameReader.delivery_refused`). So
how a stream ends does not depend on the pieces (`FrameReader.delivery_ending`), but it may depend
on them how much of its plain text is delivered (`FrameReader.delivery_eq_intact_iff`).
-/

namespace HomeKit

open Registry (decryptFrames)

/-- What is still to be handed out, and how it ends then. -/
structure Delivery where
  plaintext : Bytes
  ending : ReadResult
  deriving DecidableEq

namespace Delivery

/-- More plain text comes first. -/
def prepend (first : Bytes) (delivery : Delivery) : Delivery :=
  { delivery with plaintext := first ++ delivery.plaintext }

@[simp] theorem plaintext_prepend (first : Bytes) (delivery : Delivery) :
    (delivery.prepend first).plaintext = first ++ delivery.plaintext :=
  rfl

@[simp] theorem ending_prepend (first : Bytes) (delivery : Delivery) :
    (delivery.prepend first).ending = delivery.ending :=
  rfl

@[simp] theorem prepend_nil (delivery : Delivery) : delivery.prepend [] = delivery :=
  rfl

theorem prepend_append (first second : Bytes) (delivery : Delivery) :
    delivery.prepend (first ++ second) = (delivery.prepend second).prepend first := by
  simp only [prepend, List.append_assoc]

end Delivery

namespace FrameReader

variable {suite : CipherSuite} {cipher after : FrameCipher} {raw left piece : Bytes}
  {pieces before : List Bytes}

/-- What the pieces of a stream add to the plain text, each with what was left before it, and how
that ends. -/
def delivery (suite : CipherSuite) (cipher : FrameCipher) (raw : Bytes) : List Bytes → Delivery
  | [] => ⟨[], endOfStream raw⟩
  | piece :: pieces =>
    match decryptFrames suite (raw ++ piece).length cipher (raw ++ piece) with
    | (.error error, _) => ⟨[], .failed { kind := .invalidData, transport := some error }⟩
    | (.ok (plaintext, left), after) => (delivery suite after left pieces).prepend plaintext

/-! ## Pieces that are not refused -/

/-- Pieces that are not refused add the plain text that the stream has up to there. -/
theorem delivery_append {texts : List Bytes}
    (h : cipher.Opens suite (raw ++ before.flatten) texts after left)
    (hleft : Frame.IsPartial left) (hraw : Frame.IsPartial raw) (pieces : List Bytes) :
    delivery suite cipher raw (before ++ pieces) =
      (delivery suite after left pieces).prepend texts.flatten := by
  induction before generalizing cipher raw texts with
  | nil =>
    rw [List.flatten_nil, List.append_nil] at h
    obtain ⟨rfl, rfl, rfl⟩ := h.unique hleft (.nothing cipher raw) hraw
    rfl
  | cons piece before ih =>
    rw [List.flatten_cons, ← List.append_assoc] at h
    obtain ⟨first, mid, rest, more, hfirst, hrest, hmore, rfl⟩ := h.split hleft
    obtain ⟨hdecrypted, -⟩ := hfirst.decryptFrames_isPartial hrest (Nat.le_refl _)
    rw [List.cons_append, delivery, hdecrypted]
    simp only
    rw [ih hmore hrest, List.flatten_append, Delivery.prepend_append]

theorem delivery_eq_intact (hraw : Frame.IsPartial raw)
    (h : cipher.refusal? suite (raw ++ pieces.flatten) = none) :
    delivery suite cipher raw pieces =
      ⟨cipher.intact suite (raw ++ pieces.flatten),
        cipher.ending suite (raw ++ pieces.flatten)⟩ := by
  obtain ⟨texts, after, left, hopens, hleft⟩ := FrameCipher.refusal?_eq_none_iff.1 h
  obtain ⟨hintact, -, hending⟩ := hopens.of_isPartial hleft
  have hdelivery := delivery_append hopens hleft hraw []
  rw [List.append_nil] at hdelivery
  rw [hdelivery, hintact, hending]
  simp only [delivery, Delivery.prepend, List.append_nil]

/-! ## The piece with a refusal -/

/-- The piece with a frame that is refused adds nothing, whatever else is in it. -/
theorem delivery_refused {error : TransportError} (hraw : Frame.IsPartial raw)
    (hbefore : cipher.refusal? suite (raw ++ before.flatten) = none)
    (hrefused : cipher.refusal? suite (raw ++ before.flatten ++ piece) = some error)
    (rest : List Bytes) :
    delivery suite cipher raw (before ++ piece :: rest) =
      ⟨cipher.intact suite (raw ++ before.flatten),
        .failed { kind := .invalidData, transport := some error }⟩ := by
  obtain ⟨texts, after, left, hopens, hleft⟩ := FrameCipher.refusal?_eq_none_iff.1 hbefore
  obtain ⟨hintact, -, -⟩ := hopens.of_isPartial hleft
  rw [(hopens.append_stream piece).2.1] at hrefused
  rw [delivery_append hopens hleft hraw, hintact, delivery]
  unfold FrameCipher.refusal? at hrefused
  rcases hdecrypted : decryptFrames suite (left ++ piece).length after (left ++ piece) with
    ⟨found | opened, last⟩
  · rw [hdecrypted] at hrefused
    cases hrefused
    simp only [Delivery.prepend, List.append_nil]
  · rw [hdecrypted] at hrefused
    cases hrefused

/-- In a stream that is refused there is a first piece with which it is. -/
theorem exists_refused_piece {error : TransportError}
    (hraw : cipher.refusal? suite raw = none)
    (h : cipher.refusal? suite (raw ++ pieces.flatten) = some error) :
    ∃ before piece rest, pieces = before ++ piece :: rest ∧
      cipher.refusal? suite (raw ++ before.flatten) = none ∧
      cipher.refusal? suite (raw ++ before.flatten ++ piece) = some error := by
  induction pieces generalizing raw with
  | nil =>
    rw [List.flatten_nil, List.append_nil, hraw] at h
    cases h
  | cons piece pieces ih =>
    rw [List.flatten_cons, ← List.append_assoc] at h
    cases hpiece : cipher.refusal? suite (raw ++ piece) with
    | some found =>
      rw [(FrameCipher.refusal?_append hpiece pieces.flatten).1] at h
      cases h
      refine ⟨[], piece, pieces, rfl, ?_, ?_⟩
      · rw [List.flatten_nil, List.append_nil]
        exact hraw
      · rw [List.flatten_nil, List.append_nil]
        exact hpiece
    | none =>
      obtain ⟨before, last, rest, rfl, hbefore, hlast⟩ := ih hpiece h
      refine ⟨piece :: before, last, rest, rfl, ?_, ?_⟩
      · rw [List.flatten_cons, ← List.append_assoc]
        exact hbefore
      · rw [List.flatten_cons, ← List.append_assoc]
        exact hlast

/-- The piece with which a frame is refused brings no plain text besides. -/
def RefusalIsAlone (suite : CipherSuite) (cipher : FrameCipher) (pieces : List Bytes) : Prop :=
  ∀ before piece rest error, pieces = before ++ piece :: rest →
    cipher.refusal? suite before.flatten = none →
    cipher.refusal? suite (before.flatten ++ piece) = some error →
      cipher.intact suite (before.flatten ++ piece) = cipher.intact suite before.flatten

/-- The pieces of a stream deliver what it has without a refusal, or what it has up to the first
piece with which it is refused. -/
theorem delivery_cases (suite : CipherSuite) (cipher : FrameCipher) (pieces : List Bytes) :
    (cipher.refusal? suite pieces.flatten = none ∧
      delivery suite cipher [] pieces =
        ⟨cipher.intact suite pieces.flatten, cipher.ending suite pieces.flatten⟩) ∨
      ∃ before piece rest error, pieces = before ++ piece :: rest ∧
        cipher.refusal? suite before.flatten = none ∧
        cipher.refusal? suite (before.flatten ++ piece) = some error ∧
        delivery suite cipher [] pieces =
          ⟨cipher.intact suite before.flatten, cipher.ending suite pieces.flatten⟩ := by
  cases hrefusal : cipher.refusal? suite pieces.flatten with
  | none => exact Or.inl ⟨rfl, delivery_eq_intact Frame.isPartial_nil hrefusal⟩
  | some error =>
    have hnone : cipher.refusal? suite [] = none := rfl
    obtain ⟨before, piece, rest, rfl, hbefore, hpiece⟩ := exists_refused_piece hnone hrefusal
    have hdelivery := delivery_refused Frame.isPartial_nil hbefore hpiece rest
    obtain ⟨-, -, hending⟩ := FrameCipher.refusal?_append hrefusal []
    rw [List.append_nil] at hending
    refine Or.inr ⟨before, piece, rest, error, rfl, hbefore, hpiece, ?_⟩
    rw [hdelivery, hending]
    rfl

/-- How a stream ends does not depend on the pieces. -/
theorem delivery_ending (suite : CipherSuite) (cipher : FrameCipher) (pieces : List Bytes) :
    (delivery suite cipher [] pieces).ending = cipher.ending suite pieces.flatten := by
  rcases delivery_cases suite cipher pieces with
    ⟨-, hdelivery⟩ | ⟨before, piece, rest, error, -, -, -, hdelivery⟩
  · rw [hdelivery]
  · rw [hdelivery]

theorem delivery_prefix_intact (suite : CipherSuite) (cipher : FrameCipher) (pieces : List Bytes) :
    (delivery suite cipher [] pieces).plaintext <+: cipher.intact suite pieces.flatten := by
  rcases delivery_cases suite cipher pieces with
    ⟨-, hdelivery⟩ | ⟨before, piece, rest, error, rfl, -, -, hdelivery⟩
  · refine ⟨[], ?_⟩
    rw [List.append_nil, hdelivery]
  · rw [hdelivery, List.flatten_append]
    exact FrameCipher.intact_prefix_append ..

theorem delivery_eq_intact_iff :
    (delivery suite cipher [] pieces).plaintext = cipher.intact suite pieces.flatten ↔
      RefusalIsAlone suite cipher pieces := by
  -- what comes after a refusal adds no plain text
  have hcut : ∀ before piece rest error, pieces = before ++ piece :: rest →
      cipher.refusal? suite (before.flatten ++ piece) = some error →
        cipher.intact suite pieces.flatten = cipher.intact suite (before.flatten ++ piece) := by
    rintro before piece rest error rfl hpiece
    obtain ⟨-, hintact, -⟩ := FrameCipher.refusal?_append hpiece rest.flatten
    rw [List.flatten_append, List.flatten_cons, ← List.append_assoc]
    exact hintact
  constructor
  · intro hall before piece rest error hpieces hbefore hpiece
    rw [hcut before piece rest error hpieces hpiece, hpieces,
      delivery_refused Frame.isPartial_nil hbefore hpiece] at hall
    exact hall.symm
  · intro halone
    rcases delivery_cases suite cipher pieces with
      ⟨-, hdelivery⟩ | ⟨before, piece, rest, error, hpieces, hbefore, hpiece, hdelivery⟩
    · rw [hdelivery]
    · rw [hdelivery, hcut before piece rest error hpieces hpiece,
        halone before piece rest error hpieces hbefore hpiece]

end FrameReader

end HomeKit
