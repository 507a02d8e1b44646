import HomeKit.Proofs.Connection.Stream
import Mathlib.Order.Bounds.Defs

/-!
# Which buffers are decrypted

A complete frame is decrypted only if it was sealed with the cipher's key and the number that is due
(`FrameCipher.eq_frame_of_decrypt`), so the frames that are opened at the start of a buffer are the
frames of their plain texts (`FrameCipher.Opens.eq_frames`). Where they end before the buffer does,
decrypting fails, but they are counted (`FrameCipher.Opens.decrypt_cases`).

So exactly the buffers that are sealed from beginning to end are decrypted, and of any buffer the
sealed frames at its start are counted, no more and no less (`FrameCipher.decrypts_sealed`).
-/

namespace HomeKit.FrameCipher

open Registry (decryptFrames openedFrames)

variable {suite : CipherSuite} {cipher mid after : FrameCipher} {raw buffer left frame : Bytes}
  {plaintext : Bytes} {texts pieces : List Bytes}

/-! ## Where the frames end -/

theorem Opens.decrypt_eq (h : cipher.Opens suite raw texts after left) :
    cipher.decrypt suite raw =
      andThen (.ok texts.flatten, after) fun cipher => cipher.decrypt suite left := by
  induction h with
  | nothing cipher rest => exact (nil_andThen cipher fun cipher => cipher.decrypt suite rest).symm
  | @frame cipher mid after frame rest left plaintext texts hframe h _ ih =>
    rw [decrypt_frame_append hframe, ← decrypt_frame hframe, h, List.flatten_cons]
    simp only [andThen, ih]
    rcases after.decrypt suite left with ⟨error | more, last⟩
    · rfl
    · simp only [Except.map, List.append_assoc]

/-- A frame that is refused is not decrypted, whatever comes behind it. -/
theorem Refuses.decrypt_eq {error : TransportError} (h : cipher.Refuses suite left error) :
    ∃ found, cipher.decrypt suite left = (.error found, cipher) := by
  cases h with
  | @tooLarge low high h rest =>
    have hlength : Frame.length? (low :: high :: rest) = _ := if_pos h
    exact ⟨_, decrypt_of_length?_error hlength⟩
  | @notAuthentic frame found after hframe h rest =>
    refine ⟨found, ?_⟩
    rw [decrypt_frame_append hframe, ← decrypt_frame hframe, h, decrypt_error_keeps hframe h]
    rfl

/-- A buffer is decrypted as a whole if its frames end where it does; if not, the frames in front of
where they end are counted all the same. -/
theorem Opens.decrypt_cases (h : cipher.Opens suite raw texts after left)
    (hleft : Frame.IsPartial left ∨ ∃ error, after.Refuses suite left error) :
    left = [] ∧ cipher.decrypt suite raw = (.ok texts.flatten, after) ∨
      left ≠ [] ∧ ∃ error, cipher.decrypt suite raw = (.error error, after) := by
  have hraw : cipher.decrypt suite raw = _ := h.decrypt_eq
  by_cases hnil : left = []
  · rw [hnil] at hraw
    exact Or.inl ⟨hnil, hraw.trans (andThen_nil _)⟩
  · obtain ⟨error, hfails⟩ : ∃ error, after.decrypt suite left = (.error error, after) := by
      rcases hleft with hleft | ⟨_, hleft⟩
      · exact ⟨_, decrypt_of_isPartial hleft hnil⟩
      · exact hleft.decrypt_eq
    refine Or.inr ⟨hnil, error, ?_⟩
    rw [hraw]
    simp only [andThen, hfails]
    rfl

/-- No frames are opened but those in front of where the frames end. -/
theorem Opens.isPrefix_of_end {others : List Bytes} {last : FrameCipher} {rest : Bytes}
    (h : cipher.Opens suite raw texts after left)
    (hleft : Frame.IsPartial left ∨ ∃ error, after.Refuses suite left error)
    (hothers : cipher.Opens suite raw others last rest) : others <+: texts := by
  have hopened : (openedFrames suite raw.length cipher raw).map (·.plaintext) = texts := by
    rcases hleft with hleft | ⟨error, hleft⟩
    · exact (h.decryptFrames_isPartial hleft (Nat.le_refl _)).2
    · exact (h.decryptFrames_refuses hleft (Nat.le_refl _)).2
  obtain ⟨count, -, -, hbegins⟩ := hothers.decryptFrames_eq (Nat.le_refl _)
  rw [hopened] at hbegins
  exact ⟨_, hbegins.symm⟩

/-! ## Which frames are opened -/

/-- A complete frame that is decrypted is one that was sealed with the number that is due. -/
theorem eq_frame_of_decrypt (hexact : suite.DecryptsExactly) (htag : suite.AppendsTag)
    (hframe : Frame.IsComplete frame) (h : cipher.decrypt suite frame = (.ok plaintext, mid)) :
    plaintext.length ≤ Frame.maxPlaintext ∧
      frame = FrameCipher.frame suite cipher.keys.decrypt cipher.received plaintext ∧
      mid = { cipher with received := cipher.received + 1 } := by
  rcases decrypt_complete_cases suite cipher hframe with ⟨_, hcase⟩ | ⟨found, hcase, hopens⟩
  · rw [h] at hcase
    cases hcase
  · rw [h] at hcase
    cases hcase
    obtain ⟨hshort, hbytes⟩ := hframe.eq_lengthBytes_append
    have hbody := (hexact _ _ _ _ _).1 hopens
    -- how long the plain text is can be told from the frame, since the tag has a fixed length
    have hover : Frame.overhead = 2 + Aead.tagLength := rfl
    have hcomplete := Frame.overhead_le_length hframe
    have hlength : frame.length - Frame.overhead = plaintext.length := by
      have hbodyLength := congrArg List.length hbody
      rw [htag, List.length_drop] at hbodyLength
      omega
    rw [hlength] at hshort hbytes hbody
    refine ⟨hshort, ?_, rfl⟩
    rw [hbytes, hbody]
    rfl

theorem Opens.eq_frames (hexact : suite.DecryptsExactly) (htag : suite.AppendsTag)
    (h : cipher.Opens suite raw texts after left) :
    (∀ text ∈ texts, text.length ≤ Frame.maxPlaintext) ∧
      raw = (frames suite cipher.keys.decrypt cipher.received texts).flatten ++ left ∧
      after = { cipher with received := cipher.received + texts.length } := by
  induction h with
  | nothing cipher rest => exact ⟨nofun, rfl, rfl⟩
  | @frame cipher mid after frame rest left plaintext texts hframe h _ ih =>
    obtain ⟨hshort, hbytes, rfl⟩ := eq_frame_of_decrypt hexact htag hframe h
    obtain ⟨hothers, hrest, rfl⟩ := ih
    refine ⟨?_, ?_, ?_⟩
    · intro text hmem
      rcases List.mem_cons.1 hmem with rfl | hmem
      · exact hshort
      · exact hothers text hmem
    · rw [frames, List.flatten_cons, List.append_assoc, ← hbytes, ← hrest]
    · simp only [List.length_cons, Nat.add_assoc, Nat.add_comm 1]

/-- The buffer begins with the frames of these pieces, sealed for the cipher: under the key with
which it decrypts, and numbered from its counter on. -/
structure BeginsWith (suite : CipherSuite) (cipher : FrameCipher) (buffer : Bytes)
    (pieces : List Bytes) : Prop where
  short : ∀ piece ∈ pieces, piece.length ≤ Frame.maxPlaintext
  isPrefix : (frames suite cipher.keys.decrypt cipher.received pieces).flatten <+: buffer

/-- There are no more frames than bytes. -/
theorem BeginsWith.length_le (htag : suite.AppendsTag)
    (h : cipher.BeginsWith suite buffer pieces) : pieces.length ≤ buffer.length := by
  have hbytes := h.isPrefix.length_le
  have hover : 0 < Frame.overhead := by decide
  have hmany := Nat.le_mul_of_pos_left pieces.length hover
  rw [length_flatten_frames htag] at hbytes
  omega

theorem decrypt_eq_ok_iff (hexact : suite.DecryptsExactly) (htag : suite.AppendsTag)
    (hroom : cipher.received + buffer.length < counterLimit) :
    (cipher.decrypt suite buffer).1 = .ok plaintext ↔
      ∃ pieces : List Bytes, (∀ piece ∈ pieces, piece.length ≤ Frame.maxPlaintext) ∧
        buffer = (frames suite cipher.keys.decrypt cipher.received pieces).flatten ∧
        plaintext = pieces.flatten := by
  constructor
  · intro hok
    obtain ⟨texts, after, left, hopens, hleft⟩ := opens_cases suite cipher buffer
    obtain ⟨hshort, hbytes, -⟩ := hopens.eq_frames hexact htag
    rcases hopens.decrypt_cases hleft with ⟨rfl, hdecrypt⟩ | ⟨-, error, hdecrypt⟩
    · rw [hdecrypt, Except.ok.injEq] at hok
      rw [List.append_nil] at hbytes
      exact ⟨texts, hshort, hbytes, hok.symm⟩
    · rw [hdecrypt] at hok
      cases hok
  · rintro ⟨pieces, hshort, hbytes, rfl⟩
    have hbegins : cipher.BeginsWith suite buffer pieces := by
      refine ⟨hshort, [], ?_⟩
      rw [List.append_nil, hbytes]
    have hfew := hbegins.length_le htag
    rw [hbytes, decrypt_frames hexact htag hshort (by omega)]

theorem exists_count_decrypt (hexact : suite.DecryptsExactly) (htag : suite.AppendsTag)
    (hroom : cipher.received + buffer.length < counterLimit) :
    ∃ count,
      IsGreatest {n | ∃ pieces, cipher.BeginsWith suite buffer pieces ∧ pieces.length = n} count ∧
      (cipher.decrypt suite buffer).2 = { cipher with received := cipher.received + count } := by
  obtain ⟨texts, after, left, hopens, hleft⟩ := opens_cases suite cipher buffer
  obtain ⟨hshort, hbytes, hafter⟩ := hopens.eq_frames hexact htag
  refine ⟨texts.length, ⟨⟨texts, ⟨hshort, left, hbytes.symm⟩, rfl⟩, ?_⟩, ?_⟩
  · rintro _ ⟨pieces, hbegins, rfl⟩
    have hfew := hbegins.length_le htag
    obtain ⟨rest, hrest⟩ := hbegins.isPrefix
    have hothers := @opens_frames suite cipher hexact htag pieces hbegins.short (by omega) rest
    rw [hrest] at hothers
    exact (hopens.isPrefix_of_end hleft hothers).length_le
  · rw [← hafter]
    rcases hopens.decrypt_cases hleft with ⟨-, hdecrypt⟩ | ⟨-, error, hdecrypt⟩
    · rw [hdecrypt]
    · rw [hdecrypt]

/-- While numbers are left: a buffer is decrypted if and only if it is made of frames that were
sealed for the cipher, one after another, and what comes out is their plain text. Whatever the
buffer is, and whether it is decrypted or not, the counter moves by the number of such frames at its
start. -/
theorem decrypts_sealed (cipher : FrameCipher) (buffer : Bytes)
    (hroom : cipher.received + buffer.length < counterLimit) :
    (∀ plaintext, (cipher.decrypt .standard buffer).1 = .ok plaintext ↔
      ∃ pieces : List Bytes, (∀ piece ∈ pieces, piece.length ≤ Frame.maxPlaintext) ∧
        buffer = (frames .standard cipher.keys.decrypt cipher.received pieces).flatten ∧
        plaintext = pieces.flatten) ∧
    ∃ count,
      IsGreatest {n | ∃ pieces, cipher.BeginsWith .standard buffer pieces ∧ pieces.length = n}
        count ∧
      (cipher.decrypt .standard buffer).2 =
        { cipher with received := cipher.received + count } := by
  have hexact := CipherSuite.standard_decryptsExactly
  have htag := CipherSuite.standard_appendsTag
  exact ⟨fun plaintext => decrypt_eq_ok_iff hexact htag hroom,
    exists_count_decrypt hexact htag hroom⟩

/-- Two frames, of which one is empty, and the first of them again: nothing is decrypted, and two
frames are counted. -/
theorem decrypts_sealed_replayed :
    let cipher : FrameCipher := ⟨⟨.replicate 32 1, .replicate 32 2⟩, 0, 5⟩
    let replayed := FrameCipher.frame .standard cipher.keys.decrypt 5 [1, 2, 3]
    let buffer := replayed ++ FrameCipher.frame .standard cipher.keys.decrypt 6 [] ++ replayed
    cipher.received + buffer.length < counterLimit ∧
      (∀ plaintext, ¬ ∃ pieces : List Bytes,
        (∀ piece ∈ pieces, piece.length ≤ Frame.maxPlaintext) ∧
        buffer = (frames .standard cipher.keys.decrypt cipher.received pieces).flatten ∧
        plaintext = pieces.flatten) ∧
      IsGreatest {n | ∃ pieces, cipher.BeginsWith .standard buffer pieces ∧ pieces.length = n} 2 ∧
      (cipher.decrypt .standard buffer).2 = { cipher with received := 7 } := by
  intro cipher replayed buffer
  have hroom : cipher.received + buffer.length < counterLimit := by decide +kernel
  have hfails : (cipher.decrypt .standard buffer).1.isOk = false := by decide +kernel
  have hcounts : (cipher.decrypt .standard buffer).2 = { cipher with received := 7 } := by
    decide +kernel
  obtain ⟨hiff, count, hgreatest, hafter⟩ := decrypts_sealed cipher buffer hroom
  have hcount : count = 2 := by
    rw [hcounts] at hafter
    have hreceived : 7 = 5 + count := congrArg FrameCipher.received hafter
    omega
  refine ⟨hroom, fun plaintext hsealed => ?_, hcount ▸ hgreatest, hcounts⟩
  rw [(hiff plaintext).2 hsealed] at hfails
  cases hfails

end HomeKit.FrameCipher
