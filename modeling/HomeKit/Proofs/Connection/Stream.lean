import HomeKit.Connection.FrameReader
import HomeKit.Proofs.Connection.Channel
import HomeKit.Proofs.Connection.FrameLog

/-!
# A stream of frames

A stream begins with frames that the cipher opens one after another (`FrameCipher.Opens`). They end
at the start of a frame that is not complete (`Frame.IsPartial`), or at a frame that declares too
much plain text or is not authentic (`FrameCipher.Refuses`); one of the two is always so
(`FrameCipher.opens_cases`). Decrypting a buffer finds these frames, and where they end
(`FrameCipher.Opens.decryptFrames_isPartial`, `FrameCipher.Opens.decryptFrames_refuses`).

What comes later in the stream changes nothing in this. So the plain text in front of the first
frame that is refused (`FrameCipher.intact`) only grows, and a refusal stays
(`FrameCipher.refusal?_append`).
-/

namespace HomeKit

namespace Frame

/-- The bytes are the start of a frame, but not all of it. -/
inductive IsPartial (buffer : Bytes) : Prop
  | noLength (h : length? buffer = .ok none)
  | short {length : Nat} (h : length? buffer = .ok (some length)) (hshort : buffer.length < length)

theorem isPartial_nil : IsPartial [] :=
  .noLength rfl

/-- A frame that is cut is not complete. -/
theorem IsComplete.isPartial_of_append {start more : Bytes} (h : IsComplete (start ++ more))
    (hmore : more ≠ []) : IsPartial start := by
  match start, h with
  | [], _ => exact .noLength rfl
  | [_], _ => exact .noLength rfl
  | low :: high :: rest, h =>
    have hpos := List.length_pos_iff.2 hmore
    refine .short h ?_
    rw [List.length_append]
    omega

/-- A buffer has no length only if it declares too much plain text. -/
theorem exists_large_of_length?_error {raw : Bytes} {error : CryptoError}
    (h : length? raw = .error error) :
    ∃ low high rest, raw = low :: high :: rest ∧ maxPlaintext < ofLittleEndian [low, high] := by
  match raw, h with
  | low :: high :: rest, h =>
    unfold length? at h
    simp only at h
    split at h
    · rename_i hlarge
      exact ⟨low, high, rest, rfl, hlarge⟩
    · cases h

/-- A buffer starts with a part of a frame, with a frame that is too large, or with a complete
one. -/
theorem start_cases (raw : Bytes) :
    IsPartial raw ∨
      (∃ low high rest, raw = low :: high :: rest ∧
        maxPlaintext < ofLittleEndian [low, high]) ∨
      ∃ frame rest, raw = frame ++ rest ∧ IsComplete frame := by
  cases hlength : length? raw with
  | error error => exact Or.inr (Or.inl (exists_large_of_length?_error hlength))
  | ok declared =>
    cases declared with
    | none => exact Or.inl (.noLength hlength)
    | some length =>
      by_cases hshort : raw.length < length
      · exact Or.inl (.short hlength hshort)
      · exact Or.inr (Or.inr ⟨raw.take length, raw.drop length, (List.take_append_drop ..).symm,
          isComplete_take hlength (Nat.not_lt.1 hshort)⟩)

end Frame

namespace FrameCipher

open Registry (decryptFrames openedFrames)

variable {suite : CipherSuite} {cipher mid after : FrameCipher} {raw rest left frame : Bytes}
  {plaintext : Bytes} {texts more : List Bytes} {count : Nat}

/-- The frame at the start of the bytes is refused. -/
inductive Refuses (suite : CipherSuite) (cipher : FrameCipher) : Bytes → TransportError → Prop
  | tooLarge {low high : UInt8} (h : Frame.maxPlaintext < ofLittleEndian [low, high])
      (rest : Bytes) :
      Refuses suite cipher (low :: high :: rest) (.frameTooLarge (ofLittleEndian [low, high]))
  | notAuthentic {frame : Bytes} {error : CryptoError} {after : FrameCipher}
      (hframe : Frame.IsComplete frame) (h : cipher.decrypt suite frame = (.error error, after))
      (rest : Bytes) :
      Refuses suite cipher (frame ++ rest) .frameIntegrity

/-- The bytes begin with frames that are opened to these plain texts; then the others are left. -/
inductive Opens (suite : CipherSuite) :
    FrameCipher → Bytes → List Bytes → FrameCipher → Bytes → Prop
  | nothing (cipher : FrameCipher) (rest : Bytes) : Opens suite cipher rest [] cipher rest
  | frame {cipher mid after : FrameCipher} {frame rest left plaintext : Bytes}
      {texts : List Bytes} (hframe : Frame.IsComplete frame)
      (h : cipher.decrypt suite frame = (.ok plaintext, mid))
      (hrest : Opens suite mid rest texts after left) :
      Opens suite cipher (frame ++ rest) (plaintext :: texts) after left

/-! ## More of the stream -/

theorem Refuses.append {error : TransportError} (h : cipher.Refuses suite raw error)
    (more : Bytes) : cipher.Refuses suite (raw ++ more) error := by
  cases h with
  | tooLarge h rest => exact .tooLarge h (rest ++ more)
  | notAuthentic hframe h rest =>
    rw [List.append_assoc]
    exact .notAuthentic hframe h (rest ++ more)

/-- What is left is opened together with what comes later. -/
theorem Opens.append {later : Bytes} (h : cipher.Opens suite raw texts mid rest)
    (hlater : mid.Opens suite (rest ++ later) more after left) :
    cipher.Opens suite (raw ++ later) (texts ++ more) after left := by
  induction h with
  | nothing cipher rest => exact hlater
  | frame hframe h _ ih =>
    rw [List.append_assoc]
    exact .frame hframe h (ih hlater)

/-! ## Where the frames end -/

theorem first_cases (suite : CipherSuite) (cipher : FrameCipher) (raw : Bytes) :
    Frame.IsPartial raw ∨ (∃ error, cipher.Refuses suite raw error) ∨
      ∃ frame rest plaintext mid, raw = frame ++ rest ∧ Frame.IsComplete frame ∧
        cipher.decrypt suite frame = (.ok plaintext, mid) := by
  rcases Frame.start_cases raw with
    hpartial | ⟨low, high, rest, rfl, hlarge⟩ | ⟨frame, rest, rfl, hframe⟩
  · exact Or.inl hpartial
  · exact Or.inr (Or.inl ⟨_, .tooLarge hlarge rest⟩)
  · rcases hdecrypt : cipher.decrypt suite frame with ⟨error | plaintext, mid⟩
    · exact Or.inr (Or.inl ⟨_, .notAuthentic hframe hdecrypt rest⟩)
    · exact Or.inr (Or.inr ⟨frame, rest, plaintext, mid, rfl, hframe, hdecrypt⟩)

theorem opens_cases (suite : CipherSuite) (cipher : FrameCipher) (raw : Bytes) :
    ∃ texts after left, cipher.Opens suite raw texts after left ∧
      (Frame.IsPartial left ∨ ∃ error, after.Refuses suite left error) := by
  induction hsize : raw.length using Nat.strongRecOn generalizing cipher raw with
  | ind size ih =>
    rcases first_cases suite cipher raw with
      hpartial | hrefuses | ⟨frame, rest, plaintext, mid, rfl, hframe, hdecrypt⟩
    · exact ⟨_, _, _, .nothing cipher raw, Or.inl hpartial⟩
    · exact ⟨_, _, _, .nothing cipher raw, Or.inr hrefuses⟩
    · have hpos := List.length_pos_iff.2 hframe.ne_nil
      rw [List.length_append] at hsize
      obtain ⟨texts, after, left, hopens, hend⟩ := ih rest.length (by omega) mid rest rfl
      exact ⟨_, _, _, .frame hframe hdecrypt hopens, hend⟩

/-! ## Decrypting a buffer -/

theorem decryptFrames_of_isPartial (h : Frame.IsPartial raw) (count : Nat) :
    decryptFrames suite count cipher raw = (.ok ([], raw), cipher) := by
  cases count with
  | zero => rfl
  | succ count =>
    unfold decryptFrames
    cases h with
    | noLength h => rw [h]
    | short h hshort =>
      rw [h]
      exact if_pos hshort

theorem openedFrames_of_isPartial (h : Frame.IsPartial raw) (count : Nat) :
    openedFrames suite count cipher raw = [] := by
  cases count with
  | zero => rfl
  | succ count =>
    unfold openedFrames
    cases h with
    | noLength h => rw [h]
    | short h hshort =>
      rw [h]
      exact if_pos hshort

/-- The start of a frame alone is not decrypted. -/
theorem decrypt_of_isPartial (h : Frame.IsPartial raw) (hsome : raw ≠ []) :
    cipher.decrypt suite raw =
      (.error (.decryption "Incomplete ciphertext frame"), cipher) := by
  obtain ⟨b, rest, rfl⟩ := List.exists_cons_of_ne_nil hsome
  rw [decrypt, List.length_cons]
  unfold decryptUpTo
  cases h with
  | noLength h => rw [h]
  | short h hshort =>
    rw [h]
    exact if_pos hshort

theorem decrypt_of_length?_error {error : CryptoError} (h : Frame.length? raw = .error error) :
    cipher.decrypt suite raw = (.error error, cipher) := by
  match raw, h with
  | b :: rest, h =>
    rw [decrypt, List.length_cons]
    unfold decryptUpTo
    rw [h]

/-- With other bytes behind it, a frame still says how long it is, and all of it is there. -/
theorem length?_frame_append (hframe : Frame.IsComplete frame) (rest : Bytes) :
    Frame.length? (frame ++ rest) = .ok (some frame.length) ∧
      ¬ (frame ++ rest).length < frame.length := by
  refine ⟨Frame.length?_append hframe rest, ?_⟩
  rw [List.length_append]
  omega

/-- A complete frame is decrypted and takes the next number, or it is refused and takes none. -/
theorem decrypt_complete_cases (suite : CipherSuite) (cipher : FrameCipher)
    (hframe : Frame.IsComplete frame) :
    (∃ error, cipher.decrypt suite frame = (.error error, cipher)) ∨
      ∃ plaintext, cipher.decrypt suite frame =
          (.ok plaintext, { cipher with received := cipher.received + 1 }) ∧
        suite.decrypt cipher.keys.decrypt (Frame.nonce cipher.received)
          (Frame.lengthBytes (frame.length - Frame.overhead)) (frame.drop 2) = some plaintext := by
  rw [decrypt_frame hframe]
  exact Registry.decryptBlock_cases suite cipher _ _

theorem decrypt_error_keeps {error : CryptoError} (hframe : Frame.IsComplete frame)
    (h : cipher.decrypt suite frame = (.error error, after)) : after = cipher := by
  rcases decrypt_complete_cases suite cipher hframe with ⟨_, hcase⟩ | ⟨_, hcase, -⟩
  · rw [h] at hcase
    cases hcase
    rfl
  · rw [h] at hcase
    cases hcase

theorem Refuses.decryptFrames_succ {error : TransportError} (h : cipher.Refuses suite raw error)
    (count : Nat) :
    decryptFrames suite (count + 1) cipher raw = (.error error, cipher) ∧
      openedFrames suite (count + 1) cipher raw = [] := by
  unfold decryptFrames openedFrames
  cases h with
  | @tooLarge low high h rest =>
    have hlength : Frame.length? (low :: high :: rest) = _ := if_pos h
    rw [hlength]
    exact ⟨rfl, rfl⟩
  | @notAuthentic frame error after hframe h rest =>
    obtain ⟨hlength, hlong⟩ := length?_frame_append hframe rest
    simp only [hlength, if_neg hlong, List.take_left, h, decrypt_error_keeps hframe h]
    exact ⟨trivial, trivial⟩

theorem decryptFrames_frame_append (hframe : Frame.IsComplete frame)
    (h : cipher.decrypt suite frame = (.ok plaintext, mid)) (rest : Bytes) (count : Nat) :
    decryptFrames suite (count + 1) cipher (frame ++ rest) =
        ((decryptFrames suite count mid rest).1.map fun (more, left) => (plaintext ++ more, left),
          (decryptFrames suite count mid rest).2) ∧
      (openedFrames suite (count + 1) cipher (frame ++ rest)).map (·.plaintext) =
        plaintext :: (openedFrames suite count mid rest).map (·.plaintext) := by
  obtain ⟨hlength, hlong⟩ := length?_frame_append hframe rest
  simp only [decryptFrames, openedFrames, hlength, if_neg hlong, List.take_left, List.drop_left, h]
  exact ⟨trivial, rfl⟩

/-- The frames of a buffer are opened before the others are looked at. -/
theorem Opens.decryptFrames_eq (h : cipher.Opens suite raw texts after left)
    (hcount : raw.length ≤ count) :
    ∃ other, left.length ≤ other ∧
      decryptFrames suite count cipher raw =
        ((decryptFrames suite other after left).1.map fun (more, left) =>
          (texts.flatten ++ more, left), (decryptFrames suite other after left).2) ∧
      (openedFrames suite count cipher raw).map (·.plaintext) =
        texts ++ (openedFrames suite other after left).map (·.plaintext) := by
  induction h generalizing count with
  | nothing cipher rest =>
    refine ⟨count, hcount, ?_, rfl⟩
    rcases decryptFrames suite count cipher rest with ⟨error | opened, after⟩
    · rfl
    · rfl
  | @frame cipher mid after frame rest left plaintext texts hframe h _ ih =>
    have hpos := List.length_pos_iff.2 hframe.ne_nil
    rw [List.length_append] at hcount
    obtain ⟨count, rfl⟩ : ∃ fewer, count = fewer + 1 := ⟨count - 1, by omega⟩
    obtain ⟨other, hother, hdecrypted, hopened⟩ := @ih count (by omega)
    obtain ⟨hfirst, hrecords⟩ := decryptFrames_frame_append hframe h rest count
    refine ⟨other, hother, ?_, ?_⟩
    · rw [hfirst, hdecrypted]
      rcases decryptFrames suite other after left with ⟨error | opened, last⟩
      · rfl
      · simp only [Except.map, List.flatten_cons, List.append_assoc]
    · rw [hrecords, hopened, List.cons_append]

theorem Opens.decryptFrames_isPartial (h : cipher.Opens suite raw texts after left)
    (hleft : Frame.IsPartial left) (hcount : raw.length ≤ count) :
    decryptFrames suite count cipher raw = (.ok (texts.flatten, left), after) ∧
      (openedFrames suite count cipher raw).map (·.plaintext) = texts := by
  obtain ⟨other, -, hdecrypted, hopened⟩ := h.decryptFrames_eq hcount
  rw [decryptFrames_of_isPartial hleft] at hdecrypted
  rw [openedFrames_of_isPartial hleft] at hopened
  rw [hdecrypted, hopened]
  simp [Except.map]

theorem Opens.decryptFrames_refuses {error : TransportError}
    (h : cipher.Opens suite raw texts after left) (hleft : after.Refuses suite left error)
    (hcount : raw.length ≤ count) :
    decryptFrames suite count cipher raw = (.error error, after) ∧
      (openedFrames suite count cipher raw).map (·.plaintext) = texts := by
  obtain ⟨other, hother, hdecrypted, hopened⟩ := h.decryptFrames_eq hcount
  have hpos : 0 < left.length := by
    cases hleft with
    | tooLarge h rest => exact Nat.succ_pos _
    | notAuthentic hframe h rest =>
      have hframe := List.length_pos_iff.2 hframe.ne_nil
      rw [List.length_append]
      omega
  obtain ⟨other, rfl⟩ : ∃ fewer, other = fewer + 1 := ⟨other - 1, by omega⟩
  obtain ⟨hrefused, hnone⟩ := hleft.decryptFrames_succ other
  rw [hrefused] at hdecrypted
  rw [hnone] at hopened
  rw [hdecrypted, hopened]
  simp [Except.map]

/-- A stream that is not refused is opened in one way. -/
theorem Opens.unique {texts' : List Bytes} {after' : FrameCipher} {left' : Bytes}
    (h : cipher.Opens suite raw texts after left) (hleft : Frame.IsPartial left)
    (h' : cipher.Opens suite raw texts' after' left') (hleft' : Frame.IsPartial left') :
    texts = texts' ∧ after = after' ∧ left = left' := by
  obtain ⟨hdecrypted, hopened⟩ := h.decryptFrames_isPartial hleft (Nat.le_refl _)
  obtain ⟨hdecrypted', hopened'⟩ := h'.decryptFrames_isPartial hleft' (Nat.le_refl _)
  rw [hdecrypted] at hdecrypted'
  rw [hopened] at hopened'
  simp only [Prod.mk.injEq, Except.ok.injEq] at hdecrypted'
  obtain ⟨⟨-, hsame⟩, hafter⟩ := hdecrypted'
  exact ⟨hopened', hafter, hsame⟩

/-- What is left of a buffer has no frame to open. -/
theorem isPartial_of_decryptFrames
    (h : decryptFrames suite raw.length cipher raw = (.ok (plaintext, left), after)) :
    Frame.IsPartial left := by
  obtain ⟨texts, last, rest, hopens, hrest | ⟨error, hrest⟩⟩ := opens_cases suite cipher raw
  · rw [(hopens.decryptFrames_isPartial hrest (Nat.le_refl _)).1] at h
    cases h
    exact hrest
  · rw [(hopens.decryptFrames_refuses hrest (Nat.le_refl _)).1] at h
    cases h

/-! ## The whole stream -/

/-- The plain text of all frames in front of the first one that is refused. -/
def intact (suite : CipherSuite) (cipher : FrameCipher) (stream : Bytes) : Bytes :=
  ((openedFrames suite stream.length cipher stream).map (·.plaintext)).flatten

/-- What the first frame that is refused is refused for. -/
def refusal? (suite : CipherSuite) (cipher : FrameCipher) (stream : Bytes) :
    Option TransportError :=
  match (decryptFrames suite stream.length cipher stream).1 with
  | .error error => some error
  | .ok _ => none

/-- How a stream ends: with the first frame that is refused, or where it was closed. -/
def ending (suite : CipherSuite) (cipher : FrameCipher) (stream : Bytes) : ReadResult :=
  match (decryptFrames suite stream.length cipher stream).1 with
  | .error error => .failed { kind := .invalidData, transport := some error }
  | .ok (_, left) => FrameReader.endOfStream left

theorem Opens.of_isPartial (h : cipher.Opens suite raw texts after left)
    (hleft : Frame.IsPartial left) :
    cipher.intact suite raw = texts.flatten ∧ cipher.refusal? suite raw = none ∧
      cipher.ending suite raw = FrameReader.endOfStream left := by
  obtain ⟨hdecrypted, hopened⟩ := h.decryptFrames_isPartial hleft (Nat.le_refl _)
  unfold intact refusal? ending
  rw [hdecrypted, hopened]
  exact ⟨rfl, rfl, rfl⟩

theorem Opens.of_refuses {error : TransportError} (h : cipher.Opens suite raw texts after left)
    (hleft : after.Refuses suite left error) :
    cipher.intact suite raw = texts.flatten ∧ cipher.refusal? suite raw = some error ∧
      cipher.ending suite raw = .failed { kind := .invalidData, transport := some error } := by
  obtain ⟨hdecrypted, hopened⟩ := h.decryptFrames_refuses hleft (Nat.le_refl _)
  unfold intact refusal? ending
  rw [hdecrypted, hopened]
  exact ⟨rfl, rfl, rfl⟩

theorem refusal?_eq_none_iff :
    cipher.refusal? suite raw = none ↔
      ∃ texts after left, cipher.Opens suite raw texts after left ∧ Frame.IsPartial left := by
  constructor
  · intro hnone
    obtain ⟨texts, after, left, hopens, hleft | ⟨error, hleft⟩⟩ := opens_cases suite cipher raw
    · exact ⟨texts, after, left, hopens, hleft⟩
    · rw [(hopens.of_refuses hleft).2.1] at hnone
      cases hnone
  · rintro ⟨texts, after, left, hopens, hleft⟩
    exact (hopens.of_isPartial hleft).2.1

/-- A frame that is refused ends the stream, whatever comes after it. -/
theorem refusal?_append {error : TransportError} (h : cipher.refusal? suite raw = some error)
    (later : Bytes) :
    cipher.refusal? suite (raw ++ later) = some error ∧
      cipher.intact suite (raw ++ later) = cipher.intact suite raw ∧
      cipher.ending suite (raw ++ later) =
        .failed { kind := .invalidData, transport := some error } := by
  obtain ⟨texts, after, left, hopens, hleft | ⟨found, hleft⟩⟩ := opens_cases suite cipher raw
  · rw [(hopens.of_isPartial hleft).2.1] at h
    cases h
  · obtain ⟨hintact, hfound, -⟩ := hopens.of_refuses hleft
    rw [hfound] at h
    cases h
    have hlater := hopens.append (.nothing after (left ++ later))
    rw [List.append_nil] at hlater
    obtain ⟨hintact', hrefusal, hending⟩ := hlater.of_refuses (hleft.append later)
    exact ⟨hrefusal, hintact'.trans hintact.symm, hending⟩

/-- A stream that is refused nowhere is refused nowhere in its beginning. -/
theorem refusal?_eq_none_of_append {later : Bytes}
    (h : cipher.refusal? suite (raw ++ later) = none) : cipher.refusal? suite raw = none := by
  cases hrefusal : cipher.refusal? suite raw with
  | none => rfl
  | some error =>
    rw [(refusal?_append hrefusal later).1] at h
    cases h

/-- A beginning of a stream is opened on its own, and the rest with what is left of it. -/
theorem Opens.split {later : Bytes} (h : cipher.Opens suite (raw ++ later) texts after left)
    (hleft : Frame.IsPartial left) :
    ∃ first mid rest more, cipher.Opens suite raw first mid rest ∧ Frame.IsPartial rest ∧
      mid.Opens suite (rest ++ later) more after left ∧ texts = first ++ more := by
  have hnone := (h.of_isPartial hleft).2.1
  obtain ⟨first, mid, rest, hfirst, hrest⟩ :=
    refusal?_eq_none_iff.1 (refusal?_eq_none_of_append hnone)
  obtain ⟨more, last, end', hmore, hend | ⟨error, hend⟩⟩ := opens_cases suite mid (rest ++ later)
  · obtain ⟨rfl, rfl, rfl⟩ := h.unique hleft (hfirst.append hmore) hend
    exact ⟨first, mid, rest, more, hfirst, hrest, hmore, rfl⟩
  · rw [((hfirst.append hmore).of_refuses hend).2.1] at hnone
    cases hnone

/-- The rest of a stream is decrypted with what was left of its beginning. -/
theorem Opens.append_stream (h : cipher.Opens suite raw texts mid rest) (later : Bytes) :
    cipher.intact suite (raw ++ later) = texts.flatten ++ mid.intact suite (rest ++ later) ∧
      cipher.refusal? suite (raw ++ later) = mid.refusal? suite (rest ++ later) ∧
      cipher.ending suite (raw ++ later) = mid.ending suite (rest ++ later) := by
  obtain ⟨more, after, left, hlater, hleft | ⟨error, hleft⟩⟩ :=
    opens_cases suite mid (rest ++ later)
  · obtain ⟨hintact, hrefusal, hending⟩ := hlater.of_isPartial hleft
    obtain ⟨hintact', hrefusal', hending'⟩ := (h.append hlater).of_isPartial hleft
    rw [hintact, hrefusal, hending, hintact', hrefusal', hending', List.flatten_append]
    exact ⟨rfl, rfl, rfl⟩
  · obtain ⟨hintact, hrefusal, hending⟩ := hlater.of_refuses hleft
    obtain ⟨hintact', hrefusal', hending'⟩ := (h.append hlater).of_refuses hleft
    rw [hintact, hrefusal, hending, hintact', hrefusal', hending', List.flatten_append]
    exact ⟨rfl, rfl, rfl⟩

theorem intact_prefix_append (suite : CipherSuite) (cipher : FrameCipher) (raw later : Bytes) :
    cipher.intact suite raw <+: cipher.intact suite (raw ++ later) := by
  obtain ⟨texts, after, left, hopens, hend⟩ := opens_cases suite cipher raw
  have hintact : cipher.intact suite raw = texts.flatten := by
    rcases hend with hleft | ⟨error, hleft⟩
    · exact (hopens.of_isPartial hleft).1
    · exact (hopens.of_refuses hleft).1
  rw [hintact, (hopens.append_stream later).1]
  exact List.prefix_append ..

/-! ## Streams that are sent -/

/-- Any beginning of the frames of some pieces is the frames of the first of them, and then a part
of the next. -/
theorem frames_prefix (htag : suite.AppendsTag) {key : Octets 32} {number : Nat}
    {pieces : List Bytes} (hshort : ∀ piece ∈ pieces, piece.length ≤ Frame.maxPlaintext)
    {sent : Bytes} (h : sent <+: (frames suite key number pieces).flatten) :
    ∃ complete start, complete <+: pieces ∧
      sent = (frames suite key number complete).flatten ++ start ∧ Frame.IsPartial start ∧
      ∀ next rest, pieces = complete ++ next :: rest →
        start.length < next.length + Frame.overhead := by
  induction pieces generalizing number sent with
  | nil =>
    have hnil : sent = [] := List.prefix_nil.1 h
    refine ⟨[], [], List.prefix_refl _, ?_, Frame.isPartial_nil, ?_⟩
    · rw [hnil]
      rfl
    · intro next rest heq
      cases heq
  | cons piece pieces ih =>
    rw [frames, List.flatten_cons] at h
    have hcomplete := isComplete_frame htag (hshort piece List.mem_cons_self) key number
    have hlength := length_frame htag key number piece
    by_cases hcut : sent.length < (frame suite key number piece).length
    -- the first frame is not there as a whole
    · obtain ⟨more, hmore⟩ : sent <+: frame suite key number piece :=
        List.prefix_of_prefix_length_le h (List.prefix_append ..) (by omega)
      refine ⟨[], sent, List.nil_prefix, rfl, ?_, ?_⟩
      · rw [← hmore] at hcomplete hcut
        apply hcomplete.isPartial_of_append
        rintro rfl
        rw [List.append_nil] at hcut
        omega
      · intro next rest heq
        cases heq
        omega
    · obtain ⟨more, rfl⟩ : frame suite key number piece <+: sent :=
        List.prefix_of_prefix_length_le (List.prefix_append ..) h (by omega)
      have hmore := (List.prefix_append_right_inj _).1 h
      obtain ⟨complete, start, hbegins, rfl, hstart, hnext⟩ :=
        ih (fun other hmem => hshort other (List.mem_cons_of_mem _ hmem)) hmore
      refine ⟨piece :: complete, start, (List.prefix_cons_inj piece).2 hbegins, ?_, hstart, ?_⟩
      · rw [frames, List.flatten_cons, List.append_assoc]
      · intro next rest heq
        exact hnext next rest (List.cons.inj heq).2

/-- Frames in the order of their numbers are opened. -/
theorem opens_frames (hexact : suite.DecryptsExactly) (htag : suite.AppendsTag)
    {pieces : List Bytes} (h : ∀ piece ∈ pieces, piece.length ≤ Frame.maxPlaintext)
    (hroom : pieces.length ≤ counterLimit - cipher.received) (start : Bytes) :
    cipher.Opens suite
      ((frames suite cipher.keys.decrypt cipher.received pieces).flatten ++ start) pieces
      { cipher with received := cipher.received + pieces.length } start := by
  induction pieces generalizing cipher with
  | nil => exact .nothing cipher start
  | cons piece pieces ih =>
    rw [List.length_cons] at hroom
    have hpiece := h piece List.mem_cons_self
    have hframe := isComplete_frame htag hpiece cipher.keys.decrypt cipher.received
    have hdecrypt :
        cipher.decrypt suite (frame suite cipher.keys.decrypt cipher.received piece) =
          (.ok piece, { cipher with received := cipher.received + 1 }) := by
      rw [decrypt_frame hframe]
      exact decryptBlock_frame hexact htag (by omega) piece
    have hrest := @ih { cipher with received := cipher.received + 1 }
      (fun other hmem => h other (List.mem_cons_of_mem _ hmem)) (by simp only; omega)
    rw [frames, List.flatten_cons, List.append_assoc, List.length_cons, Nat.add_comm pieces.length,
      ← Nat.add_assoc]
    exact .frame hframe hdecrypt hrest

/-- Pieces are encrypted if there are numbers for them. -/
theorem encryptPieces_eq_ok_iff {pieces : List Bytes} {wire : Bytes} :
    (cipher.encryptPieces suite pieces).1 = .ok wire ↔
      pieces.length ≤ counterLimit - cipher.sent ∧
        wire = (frames suite cipher.keys.encrypt cipher.sent pieces).flatten := by
  by_cases hroom : pieces.length ≤ counterLimit - cipher.sent
  · have hfits : cipher.fitting pieces = pieces := List.take_of_length_le hroom
    rw [encryptPieces_eq, if_pos hfits, Except.ok.injEq]
    constructor
    · intro heq
      exact ⟨hroom, heq.symm⟩
    · intro h
      exact h.2.symm
  · have hfull : cipher.fitting pieces ≠ pieces := by
      intro heq
      have hlength := congrArg List.length heq
      rw [fitting, List.length_take] at hlength
      omega
    rw [encryptPieces_eq, if_neg hfull]
    constructor
    · intro h
      cases h
    · intro h
      exact absurd h.1 hroom

/-- Of what one end has sent the other opens the frames that are there, wherever the stream is
cut. -/
theorem opens_sent (hexact : suite.DecryptsExactly) (htag : suite.AppendsTag)
    {sender receiver : FrameCipher} (hkeys : receiver.keys = sender.keys.swap)
    (hcounter : receiver.received = sender.sent) {plaintexts : List Bytes}
    (hshort : ∀ plaintext ∈ plaintexts, plaintext.length ≤ Frame.maxPlaintext) {wire sent : Bytes}
    (hwire : (sender.encryptPieces suite plaintexts).1 = .ok wire) (hsent : sent <+: wire) :
    ∃ complete start, complete <+: plaintexts ∧
      (sender.encryptPieces suite complete).1.map (· ++ start) = .ok sent ∧
      (∀ next rest, plaintexts = complete ++ next :: rest →
        start.length < next.length + Frame.overhead) ∧
      Frame.IsPartial start ∧
      receiver.Opens suite sent complete
        { receiver with received := receiver.received + complete.length } start := by
  obtain ⟨hroom, rfl⟩ := encryptPieces_eq_ok_iff.1 hwire
  obtain ⟨complete, start, hcomplete, rfl, hstart, hnext⟩ := frames_prefix htag hshort hsent
  have hlength := hcomplete.length_le
  refine ⟨complete, start, hcomplete, ?_, hnext, hstart, ?_⟩
  · rw [encryptPieces_eq_ok_iff.2 ⟨Nat.le_trans hlength hroom, rfl⟩]
    rfl
  · have hkey : sender.keys.encrypt = receiver.keys.decrypt := by
      rw [hkeys]
      rfl
    rw [hkey, ← hcounter]
    refine opens_frames hexact htag ?_ (by omega) start
    exact fun plaintext hmem => hshort plaintext (hcomplete.mem hmem)

end FrameCipher

end HomeKit
