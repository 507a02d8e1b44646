import HomeKit.Proofs.Connection.Frames
import HomeKit.Proofs.Crypto.Laws

/-!
# Two ends of a connection

What one `FrameCipher` encrypts, another with the keys swapped decrypts, as long as it has received
as many frames as the first has sent. The ends cut their data differently: one cuts plain text after
every 1024 bytes, the other takes frames by the length they declare. Whatever is encrypted in any
number of calls, and at whichever frames the bytes are cut before they are decrypted, the plain text
comes out and the two counters stay equal (`FrameCipher.channel_roundtrip`).
-/

namespace HomeKit

namespace FrameCipher

variable {suite : CipherSuite} {cipher : FrameCipher} {key : Octets 32} {number : Nat}

/-! ## One frame -/

theorem length_frame (htag : suite.AppendsTag) (key : Octets 32) (number : Nat) (piece : Bytes) :
    (frame suite key number piece).length = piece.length + Frame.overhead := by
  have hbox := htag key (Frame.nonce number) (Frame.lengthBytes piece.length) piece
  rw [frame, List.length_append, hbox, Frame.lengthBytes, length_littleEndian, Frame.overhead]
  omega

/-- A frame is as long as its length bytes say. -/
theorem isComplete_frame (htag : suite.AppendsTag) {piece : Bytes}
    (h : piece.length ≤ Frame.maxPlaintext) (key : Octets 32) (number : Nat) :
    Frame.IsComplete (frame suite key number piece) := by
  have hwidth : piece.length < Nat.pow 256 2 := by
    have hmax : Frame.maxPlaintext < Nat.pow 256 2 := by decide
    omega
  have hdeclared := ofLittleEndian_littleEndian hwidth
  have hlength := length_frame htag key number piece
  unfold Frame.IsComplete
  rw [hlength]
  simp only [littleEndian] at hdeclared
  simp only [frame, Frame.lengthBytes, littleEndian, List.cons_append, List.nil_append,
    Frame.length?, hdeclared]
  rw [if_neg (Nat.not_lt.2 h)]

/-- A frame is decrypted under its key and its number. -/
theorem decryptBlock_frame (hexact : suite.DecryptsExactly) (htag : suite.AppendsTag)
    (hroom : cipher.received < counterLimit) (piece : Bytes) :
    let sealed := frame suite cipher.keys.decrypt cipher.received piece
    cipher.decryptBlock suite (sealed.drop 2) (sealed.length - Frame.overhead) =
      (.ok piece, { cipher with received := cipher.received + 1 }) := by
  intro sealed
  have hlength : sealed.length - Frame.overhead = piece.length := by
    rw [length_frame htag]
    omega
  have hbody : sealed.drop 2 = suite.encrypt cipher.keys.decrypt (Frame.nonce cipher.received)
      (Frame.lengthBytes piece.length) piece := by
    simp only [sealed, frame]
    exact List.drop_left' (length_littleEndian 2 _)
  have hopens := (hexact _ _ _ _ _).2 hbody
  have hbodyLength : (sealed.drop 2).length = piece.length + Aead.tagLength := by
    rw [hbody, htag]
  unfold decryptBlock
  rw [hlength, if_neg (not_not_intro hbodyLength), if_pos hroom, hopens]

/-! ## Many frames -/

theorem isComplete_frames (htag : suite.AppendsTag) {pieces : List Bytes}
    (h : ∀ piece ∈ pieces, piece.length ≤ Frame.maxPlaintext) :
    ∀ frame ∈ frames suite key number pieces, Frame.IsComplete frame := by
  induction pieces generalizing number with
  | nil => nofun
  | cons piece rest ih =>
    intro frame hmem
    rcases List.mem_cons.1 hmem with rfl | hrest
    · exact isComplete_frame htag (h piece List.mem_cons_self) key number
    · exact ih (fun other hother => h other (List.mem_cons_of_mem _ hother)) frame hrest

theorem length_flatten_frames (htag : suite.AppendsTag) (pieces : List Bytes) :
    (frames suite key number pieces).flatten.length =
      pieces.flatten.length + Frame.overhead * pieces.length := by
  induction pieces generalizing number with
  | nil => rfl
  | cons piece rest ih =>
    rw [frames, List.flatten_cons, List.length_append, ih, length_frame htag, List.flatten_cons,
      List.length_append, List.length_cons, Nat.mul_succ]
    omega

/-- Frames in the order of their numbers are decrypted to the pieces. -/
theorem decrypt_frames (hexact : suite.DecryptsExactly) (htag : suite.AppendsTag)
    {pieces : List Bytes} (h : ∀ piece ∈ pieces, piece.length ≤ Frame.maxPlaintext)
    (hroom : cipher.received + pieces.length ≤ counterLimit) :
    cipher.decrypt suite (frames suite cipher.keys.decrypt cipher.received pieces).flatten =
      (.ok pieces.flatten, { cipher with received := cipher.received + pieces.length }) := by
  induction pieces generalizing cipher with
  | nil => rfl
  | cons piece rest ih =>
    have hpiece := h piece List.mem_cons_self
    have hrest := fun other hmem => h other (List.mem_cons_of_mem _ hmem)
    rw [List.length_cons] at hroom
    have hnext := @ih { cipher with received := cipher.received + 1 } hrest (by simp only; omega)
    rw [frames, List.flatten_cons, decrypt_frame_append (isComplete_frame htag hpiece _ _),
      decryptBlock_frame hexact htag (by omega)]
    simp only [andThen, hnext, Except.map, List.flatten_cons, List.length_cons]
    congr 2
    omega

/-! ## Many calls -/

/-- Encrypts plain texts one after another, up to the first failure. -/
def encryptAll (suite : CipherSuite) (cipher : FrameCipher) :
    List Bytes → Except CryptoError Bytes × FrameCipher
  | [] => (.ok [], cipher)
  | plaintext :: rest =>
    andThen (cipher.encrypt suite plaintext) fun cipher => encryptAll suite cipher rest

/-- Encrypts plain texts one after another at the end of one buffer, up to the first failure. -/
def encryptAllInto (suite : CipherSuite) (cipher : FrameCipher) (buffer : Bytes) :
    List Bytes → Except CryptoError Unit × FrameCipher × Bytes
  | [] => (.ok (), cipher, buffer)
  | plaintext :: rest =>
    match cipher.encryptInto suite plaintext buffer with
    | (.error error, cipher, buffer) => (.error error, cipher, buffer)
    | (.ok _, cipher, buffer) => encryptAllInto suite cipher buffer rest

/-- The pieces of some plain texts. -/
def piecesOf (plaintexts : List Bytes) : List Bytes :=
  plaintexts.flatMap (chunks Frame.maxPlaintext)

/-- How many frames plain texts take. -/
def frameCount : List Bytes → Nat
  | [] => 0
  | plaintext :: rest => (plaintext.length + 1023) / 1024 + frameCount rest

theorem length_piecesOf (plaintexts : List Bytes) :
    (piecesOf plaintexts).length = frameCount plaintexts := by
  induction plaintexts with
  | nil => rfl
  | cons plaintext rest ih =>
    have hchunks :
        (chunks Frame.maxPlaintext plaintext).length = (plaintext.length + 1023) / 1024 :=
      length_chunks (by decide) plaintext
    rw [piecesOf, List.flatMap_cons, List.length_append, hchunks]
    exact congrArg _ ih

theorem flatten_piecesOf (plaintexts : List Bytes) :
    (piecesOf plaintexts).flatten = plaintexts.flatten := by
  induction plaintexts with
  | nil => rfl
  | cons plaintext rest ih =>
    rw [piecesOf, List.flatMap_cons, List.flatten_append, flatten_chunks (by decide)]
    exact congrArg _ ih

theorem length_le_of_mem_piecesOf {plaintexts : List Bytes} :
    ∀ piece ∈ piecesOf plaintexts, piece.length ≤ Frame.maxPlaintext := by
  intro piece hmem
  obtain ⟨plaintext, -, hpiece⟩ := List.mem_flatMap.1 hmem
  exact (length_of_mem_chunks (by decide) hpiece).2

theorem encryptPieces_append (suite : CipherSuite) (cipher : FrameCipher)
    (first second : List Bytes) :
    cipher.encryptPieces suite (first ++ second) =
      andThen (cipher.encryptPieces suite first) fun cipher =>
        cipher.encryptPieces suite second := by
  -- a piece is encrypted before the others
  have hcons : ∀ (cipher : FrameCipher) piece rest, cipher.sent < counterLimit →
      cipher.encryptPieces suite (piece :: rest) =
        andThen (.ok (frame suite cipher.keys.encrypt cipher.sent piece),
          { cipher with sent := cipher.sent + 1 })
        fun cipher => cipher.encryptPieces suite rest := by
    intro cipher piece rest hroom
    rw [encryptPieces, if_pos hroom]
    rfl
  induction first generalizing cipher with
  | nil => exact (nil_andThen cipher fun cipher => cipher.encryptPieces suite second).symm
  | cons piece rest ih =>
    by_cases hroom : cipher.sent < counterLimit
    · rw [List.cons_append, hcons _ _ _ hroom, hcons _ _ _ hroom, andThen_assoc]
      congr 1
      funext after
      exact ih after
    · rw [List.cons_append, encryptPieces, encryptPieces, if_neg hroom, if_neg hroom]
      rfl

/-- Several calls encrypt what one call would, if it cut its plain text at the same places. -/
theorem encryptAll_eq (suite : CipherSuite) (cipher : FrameCipher) (plaintexts : List Bytes) :
    cipher.encryptAll suite plaintexts = cipher.encryptPieces suite (piecesOf plaintexts) := by
  induction plaintexts generalizing cipher with
  | nil => rfl
  | cons plaintext rest ih =>
    rw [encryptAll, piecesOf, List.flatMap_cons, encryptPieces_append]
    congr 1
    funext after
    exact ih after

theorem encryptPiecesInto_append (suite : CipherSuite) (cipher : FrameCipher) (buffer : Bytes)
    (first second : List Bytes) :
    cipher.encryptPiecesInto suite buffer (first ++ second) =
      match cipher.encryptPiecesInto suite buffer first with
      | (.error error, cipher, buffer) => (.error error, cipher, buffer)
      | (.ok _, cipher, buffer) => cipher.encryptPiecesInto suite buffer second := by
  induction first generalizing cipher buffer with
  | nil => rfl
  | cons piece rest ih =>
    rw [List.cons_append, encryptPiecesInto, encryptPiecesInto]
    by_cases hroom : cipher.sent < counterLimit
    · rw [if_pos hroom, if_pos hroom]
      exact ih ..
    · rw [if_neg hroom, if_neg hroom]

theorem encryptAllInto_eq (suite : CipherSuite) (cipher : FrameCipher) (buffer : Bytes)
    (plaintexts : List Bytes) :
    cipher.encryptAllInto suite buffer plaintexts =
      cipher.encryptPiecesInto suite buffer (piecesOf plaintexts) := by
  induction plaintexts generalizing cipher buffer with
  | nil => rfl
  | cons plaintext rest ih =>
    rw [encryptAllInto, piecesOf, List.flatMap_cons, encryptPiecesInto_append, encryptInto]
    rcases cipher.encryptPiecesInto suite buffer (chunks Frame.maxPlaintext plaintext) with
      ⟨error | _, after, more⟩
    · rfl
    · exact ih after more

/-- Whatever one end encrypts, in any number of calls, comes out at the other end, at whichever
frames the bytes are cut; and the two ends have counted the same frames. -/
theorem channel_roundtrip (sender receiver : FrameCipher)
    (hkeys : receiver.keys = sender.keys.swap) (hcounter : receiver.received = sender.sent)
    (plaintexts : List Bytes) (hlimit : sender.sent + frameCount plaintexts ≤ counterLimit) :
    let after := { sender with sent := sender.sent + frameCount plaintexts }
    let receiverAfter := { receiver with received := receiver.received + frameCount plaintexts }
    ∃ frames : List Bytes, frames.length = frameCount plaintexts ∧
      (∀ frame ∈ frames, Frame.IsComplete frame) ∧
      frames.flatten.length = plaintexts.flatten.length + 18 * frameCount plaintexts ∧
      sender.encryptAll .standard plaintexts = (.ok frames.flatten, after) ∧
      (∀ buffer, sender.encryptAllInto .standard buffer plaintexts =
        (.ok (), after, buffer ++ frames.flatten)) ∧
      receiver.decrypt .standard frames.flatten = (.ok plaintexts.flatten, receiverAfter) ∧
      ∀ groups : List (List Bytes), groups.flatten = frames →
        receiver.decryptAll .standard (groups.map List.flatten) =
          (.ok plaintexts.flatten, receiverAfter) := by
  intro after receiverAfter
  have htag := CipherSuite.standard_appendsTag
  have hexact := CipherSuite.standard_decryptsExactly
  have hcount := length_piecesOf plaintexts
  have hshort : ∀ piece ∈ piecesOf plaintexts, piece.length ≤ Frame.maxPlaintext :=
    length_le_of_mem_piecesOf
  have hfits : sender.fitting (piecesOf plaintexts) = piecesOf plaintexts :=
    fitting_eq_self (by omega)
  have hcomplete : ∀ frame ∈
      frames .standard sender.keys.encrypt sender.sent (piecesOf plaintexts),
        Frame.IsComplete frame := isComplete_frames htag hshort
  have hreceived : receiver.decrypt .standard
      (frames .standard sender.keys.encrypt sender.sent (piecesOf plaintexts)).flatten =
        (.ok plaintexts.flatten, receiverAfter) := by
    have hkey : sender.keys.encrypt = receiver.keys.decrypt := by
      rw [hkeys]
      rfl
    rw [hkey, ← hcounter, decrypt_frames hexact htag hshort (by omega), flatten_piecesOf, hcount]
  refine ⟨frames .standard sender.keys.encrypt sender.sent (piecesOf plaintexts), ?_, hcomplete,
    ?_, ?_, ?_, hreceived, ?_⟩
  · rw [length_frames, hcount]
  · rw [length_flatten_frames htag, flatten_piecesOf, hcount]
    rfl
  · rw [encryptAll_eq, encryptPieces_eq, hfits, if_pos rfl, hcount]
  · intro buffer
    rw [encryptAllInto_eq, encryptPiecesInto_eq, hfits, if_pos rfl, hcount]
  · intro groups hgroups
    rw [← hgroups] at hcomplete hreceived
    rw [decryptAll_flatten _ _ _ hcomplete, hreceived]

/-- Two ends in the middle of a session, and plain texts of which one is empty and one fills two
frames. -/
theorem channel_roundtrip_three :
    let sender : FrameCipher := ⟨⟨.replicate 32 1, .replicate 32 2⟩, 5, 0⟩
    let receiver : FrameCipher := ⟨sender.keys.swap, 0, 5⟩
    let plaintexts : List Bytes := [[1, 2, 3], [], List.replicate 2048 7]
    sender.sent + frameCount plaintexts ≤ counterLimit ∧
      ∃ wire, wire.length = 2051 + 18 * 3 ∧
        sender.encryptAll .standard plaintexts = (.ok wire, { sender with sent := 8 }) ∧
        receiver.decrypt .standard wire =
          (.ok plaintexts.flatten, { receiver with received := 8 }) := by
  intro sender receiver plaintexts
  have hcount : frameCount plaintexts = 3 := by decide +kernel
  have hlimit : sender.sent + frameCount plaintexts ≤ counterLimit := by
    rw [hcount]
    decide
  obtain ⟨frames, -, -, hlength, hencrypted, -, hdecrypted, -⟩ :=
    channel_roundtrip sender receiver rfl rfl plaintexts hlimit
  have htotal : plaintexts.flatten.length = 2051 := by decide +kernel
  rw [hcount] at hlength hencrypted hdecrypted
  rw [htotal] at hlength
  exact ⟨hlimit, frames.flatten, hlength, hencrypted, hdecrypted⟩

end FrameCipher

end HomeKit
