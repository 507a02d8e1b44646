import HomeKit.Connection.Session
import HomeKit.Proofs.Connection.Frames

/-!
# Which keys and nonces frames are made with

Every frame that a cipher seals or opens is written down with the key and the nonce that it takes
(`FrameRecord`). The numbers of the records of one call follow each other, from the cipher's counter
on (`Numbered`), and the counter moves by as many as there are records, also when the call fails in
the middle (`FrameCipher.encryptPieces_seals`, `Registry.decryptFrames_opens`).
-/

namespace HomeKit

/-- A frame, its plain text, and the key and the nonce that they go with. -/
structure FrameRecord where
  key : Octets 32
  nonce : Octets 12
  bytes : Bytes
  plaintext : Bytes
  deriving DecidableEq

namespace FrameRecord

/-- The frame is the plain text, encrypted with the key and the nonce. -/
def IsSealed (suite : CipherSuite) (record : FrameRecord) : Prop :=
  let length := Frame.lengthBytes record.plaintext.length
  record.bytes = length ++ suite.encrypt record.key record.nonce length record.plaintext

/-- The plain text is the frame, decrypted with the key and the nonce. -/
def IsOpened (suite : CipherSuite) (record : FrameRecord) : Prop :=
  suite.decrypt record.key record.nonce
    (Frame.lengthBytes (record.bytes.length - Frame.overhead)) (record.bytes.drop 2) =
      some record.plaintext

end FrameRecord

/-- All records have this key, and their nonces count up from a number. -/
def Numbered (key : Octets 32) (first : Nat) (records : List FrameRecord) : Prop :=
  ∀ (k : Nat) record, records[k]? = some record →
    record.key = key ∧ record.nonce = Frame.nonce (first + k)

section Numbered

variable {key : Octets 32} {first : Nat} {records more : List FrameRecord}

theorem Numbered.nil : Numbered key first [] := by
  intro k record h
  cases h

theorem Numbered.append (h : Numbered key first records)
    (hmore : Numbered key (first + records.length) more) :
    Numbered key first (records ++ more) := by
  intro k record hk
  by_cases hlt : k < records.length
  · rw [List.getElem?_append_left hlt] at hk
    exact h k record hk
  · rw [List.getElem?_append_right (Nat.not_lt.1 hlt)] at hk
    have hrecord := hmore _ record hk
    rw [show first + records.length + (k - records.length) = first + k by omega] at hrecord
    exact hrecord

theorem Numbered.cons {record : FrameRecord} (hkey : record.key = key)
    (hnonce : record.nonce = Frame.nonce first) (h : Numbered key (first + 1) records) :
    Numbered key first (record :: records) := by
  refine @Numbered.append key first [record] records ?_ h
  intro k found hk
  cases k with
  | zero =>
    cases hk
    exact ⟨hkey, hnonce⟩
  | succ k => cases hk

/-- Different numbers below the limit make different nonces. -/
theorem Frame.nonce_inj {a b : Nat} (ha : a < FrameCipher.counterLimit)
    (hb : b < FrameCipher.counterLimit) (h : Frame.nonce a = Frame.nonce b) : a = b := by
  -- below the limit a number fits the eight bytes of the nonce that hold it
  have hlimit : FrameCipher.counterLimit < Nat.pow 256 8 := by decide
  have hbytes := congrArg Octets.bytes h
  simp only [Frame.nonce, List.append_cancel_left_eq] at hbytes
  have hnumbers := congrArg ofLittleEndian hbytes
  rw [ofLittleEndian_littleEndian (by omega), ofLittleEndian_littleEndian (by omega)] at hnumbers
  exact hnumbers

/-- No two records have one nonce. -/
theorem Numbered.nodup (h : Numbered key 0 records)
    (hbounded : records.length ≤ FrameCipher.counterLimit) :
    (records.map fun record => (record.key, record.nonce)).Nodup := by
  rw [List.Nodup, List.pairwise_iff_getElem]
  intro i j hi hj hlt heq
  rw [List.getElem_map, List.getElem_map] at heq
  rw [List.length_map] at hi hj
  have hfirst := (h i _ (List.getElem?_eq_getElem hi)).2
  have hsecond := (h j _ (List.getElem?_eq_getElem hj)).2
  rw [Nat.zero_add] at hfirst hsecond
  have hnonces : Frame.nonce i = Frame.nonce j := by
    rw [← hfirst, ← hsecond]
    exact congrArg Prod.snd heq
  have hsame := Frame.nonce_inj (by omega) (by omega) hnonces
  omega

end Numbered

/-! ## Sealing -/

namespace FrameCipher

/-- The frames that are made of some pieces, until a number is missing. -/
def sealedPieces (suite : CipherSuite) (cipher : FrameCipher) : List Bytes → List FrameRecord
  | [] => []
  | piece :: rest =>
    if cipher.sent < counterLimit then
      ⟨cipher.keys.encrypt, Frame.nonce cipher.sent,
        frame suite cipher.keys.encrypt cipher.sent piece, piece⟩ ::
          sealedPieces suite { cipher with sent := cipher.sent + 1 } rest
    else []

/-- What a call that seals gives and leaves behind, in terms of the frames that it makes. -/
structure Seals (suite : CipherSuite) (cipher : FrameCipher) (records : List FrameRecord)
    (result : Except CryptoError Bytes × FrameCipher) : Prop where
  numbered : Numbered cipher.keys.encrypt cipher.sent records
  isSealed : ∀ record ∈ records, record.IsSealed suite
  after : result.2 = { cipher with sent := cipher.sent + records.length }
  bounded : cipher.sent ≤ counterLimit → cipher.sent + records.length ≤ counterLimit
  ok : ∀ wire, result.1 = .ok wire → wire = (records.map (·.bytes)).flatten
  /-- A call fails only when all numbers are used up. -/
  exhausted : ∀ error, result.1 = .error error → counterLimit ≤ cipher.sent + records.length

section Seals

variable {suite : CipherSuite} {cipher : FrameCipher} {records : List FrameRecord}

theorem Seals.nothing (suite : CipherSuite) (cipher : FrameCipher) :
    cipher.Seals suite [] (.ok [], cipher) := by
  refine ⟨.nil, ?_, rfl, id, ?_, nofun⟩
  · intro record hmem
    cases hmem
  · rintro _ ⟨⟩
    rfl

theorem Seals.refuses {error : CryptoError} (h : ¬ cipher.sent < counterLimit) :
    cipher.Seals suite [] (.error error, cipher) := by
  refine ⟨.nil, ?_, rfl, id, nofun, fun _ _ => Nat.not_lt.1 h⟩
  intro record hmem
  cases hmem

theorem Seals.more {piece : Bytes} {result : Except CryptoError Bytes × FrameCipher}
    (hroom : cipher.sent < counterLimit)
    (h : Seals suite { cipher with sent := cipher.sent + 1 } records result) :
    let sealed := frame suite cipher.keys.encrypt cipher.sent piece
    cipher.Seals suite (⟨cipher.keys.encrypt, Frame.nonce cipher.sent, sealed, piece⟩ :: records)
      (result.1.map (sealed ++ ·), result.2) := by
  intro sealed
  rcases result with ⟨outcome, after⟩
  refine ⟨.cons rfl rfl h.numbered, ?_, ?_, ?_, ?_, ?_⟩
  · intro record hmem
    rcases List.mem_cons.1 hmem with rfl | hmem
    · rfl
    · exact h.isSealed record hmem
  · have hafter := h.after
    simp only at hafter ⊢
    rw [hafter, List.length_cons]
    simp only [Nat.add_assoc, Nat.add_comm 1]
  · intro _
    have hbounded := h.bounded hroom
    simp only [List.length_cons] at hbounded ⊢
    omega
  · intro wire hwire
    cases outcome with
    | error error => cases hwire
    | ok more =>
      cases hwire
      rw [List.map_cons, List.flatten_cons, ← h.ok more rfl]
  · intro error herror
    cases outcome with
    | ok more => cases herror
    | error found =>
      have hused := h.exhausted found rfl
      simp only [List.length_cons] at hused ⊢
      omega

end Seals

theorem encryptPieces_seals (suite : CipherSuite) (cipher : FrameCipher) (pieces : List Bytes) :
    cipher.Seals suite (cipher.sealedPieces suite pieces) (cipher.encryptPieces suite pieces) := by
  induction pieces generalizing cipher with
  | nil => exact .nothing suite cipher
  | cons piece rest ih =>
    unfold sealedPieces encryptPieces
    by_cases hroom : cipher.sent < counterLimit
    · rw [if_pos hroom, if_pos hroom]
      exact .more hroom (ih { cipher with sent := cipher.sent + 1 })
    · rw [if_neg hroom, if_neg hroom]
      exact .refuses hroom

end FrameCipher

/-! ## Opening -/

namespace Registry

open FrameCipher (counterLimit)

variable {suite : CipherSuite} {cipher : FrameCipher}

/-- The complete frames at the start of a buffer, until one cannot be opened. -/
def openedFrames (suite : CipherSuite) : (count : Nat) → FrameCipher → Bytes → List FrameRecord
  | 0, _, _ => []
  | count + 1, cipher, raw =>
    match Frame.length? raw with
    | .ok (some length) =>
      if raw.length < length then []
      else
        match cipher.decrypt suite (raw.take length) with
        | (.error _, _) => []
        | (.ok plaintext, after) =>
          ⟨cipher.keys.decrypt, Frame.nonce cipher.received, raw.take length, plaintext⟩ ::
            openedFrames suite count after (raw.drop length)
    | _ => []

/-- What a call that opens gives and leaves behind, in terms of the frames that it opens. -/
structure OpensFrames (suite : CipherSuite) (cipher : FrameCipher) (raw : Bytes)
    (records : List FrameRecord) (result : Except TransportError (Bytes × Bytes) × FrameCipher) :
    Prop where
  numbered : Numbered cipher.keys.decrypt cipher.received records
  isOpened : ∀ record ∈ records, record.IsOpened suite
  after : result.2 = { cipher with received := cipher.received + records.length }
  ok : ∀ plaintext rest, result.1 = .ok (plaintext, rest) →
    raw = (records.map (·.bytes)).flatten ++ rest ∧
      plaintext = (records.map (·.plaintext)).flatten
  /-- A call fails at a frame that changes nothing: on its own it fails in the same way. -/
  refused : ∀ error, result.1 = .error error →
    ∃ rest, rest ≠ [] ∧ raw = (records.map (·.bytes)).flatten ++ rest ∧
      ∀ count, decryptFrames suite (count + 1) result.2 rest = (.error error, result.2)

/-- A block that is opened takes the next number, and one that is rejected takes none. -/
theorem decryptBlock_cases (suite : CipherSuite) (cipher : FrameCipher) (body : Bytes)
    (length : Nat) :
    (∃ error, cipher.decryptBlock suite body length = (.error error, cipher)) ∨
      ∃ plaintext, cipher.decryptBlock suite body length =
          (.ok plaintext, { cipher with received := cipher.received + 1 }) ∧
        suite.decrypt cipher.keys.decrypt (Frame.nonce cipher.received) (Frame.lengthBytes length)
          body = some plaintext := by
  unfold FrameCipher.decryptBlock
  split
  · exact Or.inl ⟨_, rfl⟩
  · split
    · split
      · rename_i plaintext hopens
        exact Or.inr ⟨plaintext, rfl, hopens⟩
      · exact Or.inl ⟨_, rfl⟩
    · exact Or.inl ⟨_, rfl⟩

theorem OpensFrames.nothing (suite : CipherSuite) (cipher : FrameCipher) (raw : Bytes) :
    OpensFrames suite cipher raw [] (.ok ([], raw), cipher) := by
  refine ⟨.nil, nofun, rfl, ?_, nofun⟩
  rintro _ _ ⟨⟩
  exact ⟨rfl, rfl⟩

theorem OpensFrames.refuses {raw : Bytes} {error : TransportError} (hraw : raw ≠ [])
    (h : ∀ count, decryptFrames suite (count + 1) cipher raw = (.error error, cipher)) :
    OpensFrames suite cipher raw [] (.error error, cipher) := by
  refine ⟨.nil, nofun, rfl, nofun, ?_⟩
  rintro _ ⟨⟩
  exact ⟨raw, hraw, rfl, h⟩

theorem OpensFrames.more {frame rest plaintext : Bytes} {records : List FrameRecord}
    {result : Except TransportError (Bytes × Bytes) × FrameCipher}
    (hopens : suite.decrypt cipher.keys.decrypt (Frame.nonce cipher.received)
      (Frame.lengthBytes (frame.length - Frame.overhead)) (frame.drop 2) = some plaintext)
    (h : OpensFrames suite { cipher with received := cipher.received + 1 } rest records result) :
    OpensFrames suite cipher (frame ++ rest)
      (⟨cipher.keys.decrypt, Frame.nonce cipher.received, frame, plaintext⟩ :: records)
      (result.1.map fun (more, left) => (plaintext ++ more, left), result.2) := by
  rcases result with ⟨outcome, after⟩
  refine ⟨.cons rfl rfl h.numbered, ?_, ?_, ?_, ?_⟩
  · intro record hmem
    rcases List.mem_cons.1 hmem with rfl | hmem
    · exact hopens
    · exact h.isOpened record hmem
  · have hafter := h.after
    simp only at hafter ⊢
    rw [hafter, List.length_cons]
    simp only [Nat.add_assoc, Nat.add_comm 1]
  · intro found left hok
    cases outcome with
    | error error => cases hok
    | ok opened =>
      cases hok
      obtain ⟨hrest, hmore⟩ := h.ok opened.1 opened.2 rfl
      rw [hrest, hmore]
      simp
  · intro error herror
    cases outcome with
    | ok opened => cases herror
    | error found =>
      cases herror
      obtain ⟨left, hleft, hrest, hagain⟩ := h.refused error rfl
      refine ⟨left, hleft, ?_, hagain⟩
      rw [hrest]
      simp

theorem decryptFrames_opens (suite : CipherSuite) (count : Nat) (cipher : FrameCipher)
    (raw : Bytes) :
    OpensFrames suite cipher raw (openedFrames suite count cipher raw)
      (decryptFrames suite count cipher raw) := by
  induction count generalizing cipher raw with
  | zero => exact .nothing suite cipher raw
  | succ count ih =>
    cases hlength : Frame.length? raw with
    | error error =>
      have hraw : raw ≠ [] := by
        rintro rfl
        cases hlength
      have hrefuses : ∀ count, decryptFrames suite (count + 1) cipher raw =
          (.error (.frameTooLarge (ofLittleEndian (raw.take 2))), cipher) := by
        intro count
        simp only [decryptFrames, hlength]
      simp only [openedFrames, hlength, hrefuses]
      exact .refuses hraw hrefuses
    | ok declared =>
      cases declared with
      | none =>
        simp only [openedFrames, decryptFrames, hlength]
        exact .nothing suite cipher raw
      | some length =>
        by_cases hshort : raw.length < length
        · simp only [openedFrames, decryptFrames, hlength, if_pos hshort]
          exact .nothing suite cipher raw
        -- the buffer starts with one complete frame, so its decryption is that of one block
        · have hframe := Frame.isComplete_take hlength (Nat.not_lt.1 hshort)
          have hdecrypt : cipher.decrypt suite (raw.take length) = _ :=
            FrameCipher.decrypt_frame hframe
          rcases decryptBlock_cases suite cipher ((raw.take length).drop 2)
              ((raw.take length).length - Frame.overhead) with
            ⟨error, hblock⟩ | ⟨plaintext, hblock, hopens⟩
          · rw [hblock] at hdecrypt
            have hraw : raw ≠ [] := by
              rintro rfl
              cases hlength
            have hrefuses : ∀ count, decryptFrames suite (count + 1) cipher raw =
                (.error .frameIntegrity, cipher) := by
              intro count
              simp only [decryptFrames, hlength, if_neg hshort, hdecrypt]
            simp only [openedFrames, hlength, if_neg hshort, hdecrypt, hrefuses]
            exact .refuses hraw hrefuses
          · rw [hblock] at hdecrypt
            have hmore := OpensFrames.more hopens
              (ih { cipher with received := cipher.received + 1 } (raw.drop length))
            rw [List.take_append_drop] at hmore
            simp only [openedFrames, decryptFrames, hlength, if_neg hshort, hdecrypt]
            exact hmore

end Registry

end HomeKit
