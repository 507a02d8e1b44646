import HomeKit.Frame

/-!
# Frames on the wire

What a call of a `FrameCipher` does to several frames. Encrypting makes one frame of each piece, up
to the last number a frame can have (`FrameCipher.encryptPieces_eq`). Decrypting takes one frame
after another, each as long as its first two bytes say (`FrameCipher.decrypt_frame_append`), so it
makes no difference at which frames the bytes are cut into calls (`FrameCipher.decryptAll_flatten`).
-/

namespace HomeKit

namespace Frame

variable {buffer : Bytes} {length : Nat}

/-- The bytes are one frame, as long as its first two bytes say. -/
def IsComplete (frame : Bytes) : Prop :=
  length? frame = .ok (some frame.length)

/-- More bytes behind the first two do not change the length of the frame. -/
theorem length?_append (h : length? buffer = .ok (some length)) (rest : Bytes) :
    length? (buffer ++ rest) = .ok (some length) := by
  match buffer, h with
  | low :: high :: more, h => exact h

theorem overhead_le_length (h : length? buffer = .ok (some length)) : overhead ≤ length := by
  match buffer, h with
  | low :: high :: more, h =>
    unfold length? at h
    simp only at h
    split at h
    · cases h
    · cases h
      omega

/-- What the first two bytes say is there is a frame, if it is there. -/
theorem isComplete_take (h : length? buffer = .ok (some length)) (hle : length ≤ buffer.length) :
    IsComplete (buffer.take length) := by
  have hover := overhead_le_length h
  match buffer, h with
  | low :: high :: more, h =>
    have htwo : overhead = 18 := rfl
    obtain ⟨rest, rfl⟩ : ∃ rest, length = rest + 2 := ⟨length - 2, by omega⟩
    unfold IsComplete
    rw [List.length_take_of_le hle, List.take_succ_cons, List.take_succ_cons]
    exact h

theorem IsComplete.ne_nil (h : IsComplete buffer) : buffer ≠ [] := by
  rintro rfl
  cases h

/-- A complete frame begins with its length bytes, and declares no more than a frame may hold. -/
theorem IsComplete.eq_lengthBytes_append (h : IsComplete buffer) :
    buffer.length - overhead ≤ maxPlaintext ∧
      buffer = lengthBytes (buffer.length - overhead) ++ buffer.drop 2 := by
  match buffer, h with
  | low :: high :: body, h =>
    unfold IsComplete length? at h
    simp only at h
    split at h
    · cases h
    · rename_i hshort
      simp only [Except.ok.injEq, Option.some.injEq] at h
      have hdeclared : (low :: high :: body).length - overhead = ofLittleEndian [low, high] := by
        omega
      have hbytes : lengthBytes (ofLittleEndian [low, high]) = [low, high] :=
        littleEndian_ofLittleEndian [low, high]
      rw [hdeclared, hbytes]
      exact ⟨Nat.not_lt.1 hshort, rfl⟩

end Frame

namespace FrameCipher

variable {suite : CipherSuite} {cipher : FrameCipher}

/-! ## Encrypting -/

/-- The frames of some pieces of plain text, from a number on. -/
def frames (suite : CipherSuite) (key : Octets 32) (number : Nat) : List Bytes → List Bytes
  | [] => []
  | piece :: rest => frame suite key number piece :: frames suite key (number + 1) rest

theorem length_frames (suite : CipherSuite) (key : Octets 32) (number : Nat) (pieces : List Bytes) :
    (frames suite key number pieces).length = pieces.length := by
  induction pieces generalizing number with
  | nil => rfl
  | cons piece rest ih => rw [frames, List.length_cons, ih, List.length_cons]

theorem frames_append (suite : CipherSuite) (key : Octets 32) (number : Nat)
    (first second : List Bytes) :
    frames suite key number (first ++ second) =
      frames suite key number first ++ frames suite key (number + first.length) second := by
  induction first generalizing number with
  | nil => rfl
  | cons piece rest ih =>
    rw [List.cons_append, frames, frames, ih, List.length_cons, List.cons_append, Nat.add_assoc,
      Nat.add_comm 1]

/-- The pieces for which there are numbers left. -/
def fitting (cipher : FrameCipher) (pieces : List Bytes) : List Bytes :=
  pieces.take (counterLimit - cipher.sent)

theorem fitting_cons (h : cipher.sent < counterLimit) (piece : Bytes) (rest : List Bytes) :
    cipher.fitting (piece :: rest) =
      piece :: fitting { cipher with sent := cipher.sent + 1 } rest := by
  have hroom : counterLimit - cipher.sent = counterLimit - (cipher.sent + 1) + 1 := by omega
  rw [fitting, hroom, List.take_succ_cons, fitting]

theorem fitting_of_not_lt (h : ¬ cipher.sent < counterLimit) (pieces : List Bytes) :
    cipher.fitting pieces = [] := by
  have hroom : counterLimit - cipher.sent = 0 := by omega
  rw [fitting, hroom, List.take_zero]

theorem fitting_eq_self {pieces : List Bytes} (h : cipher.sent + pieces.length ≤ counterLimit) :
    cipher.fitting pieces = pieces := by
  apply List.take_of_length_le
  omega

/-- Every piece that fits becomes a frame. Without room for all of them the call fails. -/
theorem encryptPieces_eq (suite : CipherSuite) (cipher : FrameCipher) (pieces : List Bytes) :
    cipher.encryptPieces suite pieces =
      (if cipher.fitting pieces = pieces then
          .ok (frames suite cipher.keys.encrypt cipher.sent pieces).flatten
        else .error .nonceExhausted,
        { cipher with sent := cipher.sent + (cipher.fitting pieces).length }) := by
  induction pieces generalizing cipher with
  | nil => simp [encryptPieces, fitting, frames]
  | cons piece rest ih =>
    unfold encryptPieces
    by_cases hroom : cipher.sent < counterLimit
    · rw [if_pos hroom, fitting_cons hroom, ih, List.length_cons, Nat.add_right_comm]
      simp only [List.cons.injEq, true_and, Nat.add_assoc]
      split
      · rfl
      · rfl
    · rw [if_neg hroom, fitting_of_not_lt hroom]
      rfl

/-- The same at the end of a buffer. -/
theorem encryptPiecesInto_eq (suite : CipherSuite) (cipher : FrameCipher) (buffer : Bytes)
    (pieces : List Bytes) :
    cipher.encryptPiecesInto suite buffer pieces =
      (if cipher.fitting pieces = pieces then .ok () else .error .nonceExhausted,
        { cipher with sent := cipher.sent + (cipher.fitting pieces).length },
        buffer ++
          (frames suite cipher.keys.encrypt cipher.sent (cipher.fitting pieces)).flatten) := by
  induction pieces generalizing cipher buffer with
  | nil => simp [encryptPiecesInto, fitting, frames]
  | cons piece rest ih =>
    unfold encryptPiecesInto
    by_cases hroom : cipher.sent < counterLimit
    · rw [if_pos hroom, fitting_cons hroom, ih, List.length_cons, Nat.add_right_comm, frames,
        List.flatten_cons, List.append_assoc]
      simp only [List.cons.injEq, true_and, Nat.add_assoc]
    · rw [if_neg hroom, fitting_of_not_lt hroom]
      simp [frames]

/-! ## Decrypting -/

/-- Goes on with another call if the first was successful, and puts their outcomes together. -/
def andThen (first : Except CryptoError Bytes × FrameCipher)
    (next : FrameCipher → Except CryptoError Bytes × FrameCipher) :
    Except CryptoError Bytes × FrameCipher :=
  match first with
  | (.error error, cipher) => (.error error, cipher)
  | (.ok plaintext, cipher) =>
    let (more, cipher) := next cipher
    (more.map (plaintext ++ ·), cipher)

theorem andThen_assoc (first : Except CryptoError Bytes × FrameCipher)
    (second third : FrameCipher → Except CryptoError Bytes × FrameCipher) :
    andThen (andThen first second) third =
      andThen first fun cipher => andThen (second cipher) third := by
  rcases first with ⟨error | plaintext, cipher⟩
  · rfl
  · simp only [andThen]
    rcases second cipher with ⟨error | more, cipher⟩
    · rfl
    · simp only [Except.map]
      rcases third cipher with ⟨error | rest, cipher⟩
      · rfl
      · simp only [List.append_assoc]

theorem andThen_nil (first : Except CryptoError Bytes × FrameCipher) :
    andThen first (fun cipher => (.ok [], cipher)) = first := by
  rcases first with ⟨error | plaintext, cipher⟩
  · rfl
  · simp [andThen, Except.map]

theorem nil_andThen (cipher : FrameCipher)
    (next : FrameCipher → Except CryptoError Bytes × FrameCipher) :
    andThen (.ok [], cipher) next = next cipher := by
  simp only [andThen]
  rcases next cipher with ⟨error | plaintext, after⟩
  · rfl
  · rfl

/-- Decrypts the frame of this length at the start of a buffer. -/
def decryptFirst (suite : CipherSuite) (cipher : FrameCipher) (buffer : Bytes) (length : Nat) :
    Except CryptoError Bytes × FrameCipher :=
  cipher.decryptBlock suite ((buffer.take length).drop 2) (length - Frame.overhead)

theorem decryptUpTo_cons {count length : Nat} {buffer : Bytes}
    (hlength : Frame.length? buffer = .ok (some length)) (hle : length ≤ buffer.length) :
    cipher.decryptUpTo suite (count + 1) buffer =
      andThen (cipher.decryptFirst suite buffer length) fun cipher =>
        cipher.decryptUpTo suite count (buffer.drop length) := by
  match buffer, hlength with
  | low :: high :: rest, hlength =>
    simp only [decryptUpTo, hlength, if_neg (Nat.not_lt.2 hle)]
    unfold decryptFirst andThen
    rcases decryptBlock suite cipher _ _ with ⟨error | plaintext, after⟩
    · rfl
    · rfl

/-- More steps than bytes are never needed. -/
theorem decryptUpTo_of_le {count : Nat} {buffer : Bytes} (h : buffer.length ≤ count) :
    cipher.decryptUpTo suite count buffer = cipher.decrypt suite buffer := by
  suffices hsame : ∀ first second (cipher : FrameCipher) (buffer : Bytes),
      buffer.length ≤ first → buffer.length ≤ second →
        cipher.decryptUpTo suite first buffer = cipher.decryptUpTo suite second buffer from
    hsame count buffer.length cipher buffer h (Nat.le_refl _)
  intro first
  induction first with
  | zero =>
    intro second cipher buffer hfirst _
    rw [List.length_eq_zero_iff.1 (Nat.le_zero.1 hfirst)]
    cases second <;> rfl
  | succ first ih =>
    intro second cipher buffer hfirst hsecond
    cases second with
    | zero =>
      rw [List.length_eq_zero_iff.1 (Nat.le_zero.1 hsecond)]
      rfl
    | succ second =>
      match buffer with
      | [] => rfl
      | b :: rest =>
        cases hlength : Frame.length? (b :: rest) with
        | error error => simp only [decryptUpTo, hlength]
        | ok declared =>
          cases declared with
          | none => simp only [decryptUpTo, hlength]
          | some length =>
            by_cases hle : length ≤ (b :: rest).length
            · rw [decryptUpTo_cons hlength hle, decryptUpTo_cons hlength hle]
              have hover := Frame.overhead_le_length hlength
              have hpos : 0 < Frame.overhead := by decide
              congr 1
              funext after
              apply ih
              · rw [List.length_drop]
                omega
              · rw [List.length_drop]
                omega
            · simp only [decryptUpTo, hlength, if_pos (Nat.not_le.1 hle)]

@[simp] theorem decrypt_nil (suite : CipherSuite) (cipher : FrameCipher) :
    cipher.decrypt suite [] = (.ok [], cipher) :=
  rfl

/-- A complete frame comes first, then the rest of the buffer. -/
theorem decrypt_frame_append {first : Bytes} (h : Frame.IsComplete first) (rest : Bytes) :
    cipher.decrypt suite (first ++ rest) =
      andThen (cipher.decryptBlock suite (first.drop 2) (first.length - Frame.overhead))
        fun cipher => cipher.decrypt suite rest := by
  have hlength := Frame.length?_append h rest
  have hpos := List.length_pos_iff.2 h.ne_nil
  obtain ⟨count, hcount⟩ : ∃ count, (first ++ rest).length = count + 1 :=
    ⟨(first ++ rest).length - 1, by simp only [List.length_append]; omega⟩
  have hrest : rest.length ≤ count := by
    rw [List.length_append] at hcount
    omega
  rw [decrypt, hcount, decryptUpTo_cons hlength (by simp), decryptFirst, List.take_left,
    List.drop_left]
  simp only [decryptUpTo_of_le hrest]

theorem decrypt_frame {frame : Bytes} (h : Frame.IsComplete frame) :
    cipher.decrypt suite frame =
      cipher.decryptBlock suite (frame.drop 2) (frame.length - Frame.overhead) := by
  have hcut : cipher.decrypt suite (frame ++ []) = _ := decrypt_frame_append h []
  rw [List.append_nil] at hcut
  rw [hcut]
  exact andThen_nil _

/-- Complete frames come first, then the rest of the buffer. -/
theorem decrypt_frames_append {first : List Bytes} (h : ∀ frame ∈ first, Frame.IsComplete frame)
    (rest : Bytes) :
    cipher.decrypt suite (first.flatten ++ rest) =
      andThen (cipher.decrypt suite first.flatten) fun cipher => cipher.decrypt suite rest := by
  induction first generalizing cipher with
  | nil => rw [List.flatten_nil, decrypt_nil, nil_andThen, List.nil_append]
  | cons frame more ih =>
    have hframe := h frame List.mem_cons_self
    have hmore := fun other hmem => h other (List.mem_cons_of_mem _ hmem)
    rw [List.flatten_cons, List.append_assoc, decrypt_frame_append hframe,
      decrypt_frame_append hframe, andThen_assoc]
    congr 1
    funext after
    exact ih hmore

/-- Decrypts buffers one after another, up to the first failure. -/
def decryptAll (suite : CipherSuite) (cipher : FrameCipher) :
    List Bytes → Except CryptoError Bytes × FrameCipher
  | [] => (.ok [], cipher)
  | buffer :: rest =>
    andThen (cipher.decrypt suite buffer) fun cipher => decryptAll suite cipher rest

/-- It makes no difference at which frames the bytes are cut. -/
theorem decryptAll_flatten (suite : CipherSuite) (cipher : FrameCipher)
    (groups : List (List Bytes)) (h : ∀ frame ∈ groups.flatten, Frame.IsComplete frame) :
    cipher.decryptAll suite (groups.map List.flatten) =
      cipher.decrypt suite groups.flatten.flatten := by
  induction groups generalizing cipher with
  | nil => rfl
  | cons group rest ih =>
    have hgroup : ∀ frame ∈ group, Frame.IsComplete frame := by
      intro frame hmem
      exact h frame (List.mem_append_left _ hmem)
    have hrest : ∀ frame ∈ rest.flatten, Frame.IsComplete frame := by
      intro frame hmem
      exact h frame (List.mem_append_right _ hmem)
    rw [List.map_cons, decryptAll, List.flatten_cons, List.flatten_append,
      decrypt_frames_append hgroup]
    congr 1
    funext after
    exact ih after hrest

end FrameCipher

end HomeKit
