import HomeKit.Connection.FrameReader
import HomeKit.Proofs.Connection.Credentials

/-!
# Where plain text comes from

Plain text is handed out in the order in which it came, but not all of it came in frames: before a
connection is encrypted, bytes are handed out as they were taken off the stream. Here every byte of
plain text is followed with its `Source`: the same reading is done once more with traced bytes, and
forgetting the sources gives back what the reader hands out (`FrameReader.traced_read`).

All bytes that one read adds have the same kind of source. It is the one that fits the keys that the
session has at the time (`TracedByte.TakenUnder`).
-/

namespace HomeKit

/-- Where a byte of plain text comes from. -/
inductive Source where
  /-- It was taken off the stream as it is. -/
  | clear
  /-- It was in a frame that a cipher opened. -/
  | frame (cipher : FrameCipher) (wire : Bytes)
  deriving DecidableEq

/-- A byte of plain text and where it comes from. -/
structure TracedByte where
  byte : UInt8
  source : Source
  deriving DecidableEq

namespace TracedByte

/-- Was the byte taken off the stream as it is? -/
def isClear (b : TracedByte) : Bool :=
  b.source = .clear

/-- The byte is in a frame that was opened under these keys. -/
def OpenedUnder (suite : CipherSuite) (keys : SessionKeys) (b : TracedByte) : Prop :=
  ∃ cipher wire plaintext after, b.source = .frame cipher wire ∧ cipher.keys = keys ∧
    cipher.decrypt suite wire = (.ok plaintext, after) ∧ b.byte ∈ plaintext

/-- The byte was taken off the stream while the session had these keys, or none. -/
def TakenUnder (suite : CipherSuite) (b : TracedByte) : Option SessionKeys → Prop
  | none => b.isClear = true
  | some keys => b.OpenedUnder suite keys

theorem OpenedUnder.isClear {suite : CipherSuite} {keys : SessionKeys} {b : TracedByte}
    (h : b.OpenedUnder suite keys) : b.isClear = false := by
  obtain ⟨cipher, wire, _, _, hsource, -⟩ := h
  rw [TracedByte.isClear, hsource]
  rfl

theorem map_byte_map (source : Source) (bytes : Bytes) :
    (bytes.map (TracedByte.mk · source)).map (·.byte) = bytes := by
  rw [List.map_map]
  exact List.map_id bytes

end TracedByte

/-! ## Frames -/

namespace Registry

variable {suite : CipherSuite}

/-- The plain text of the complete frames at the start of a buffer, traced to them. -/
def tracedFrames (suite : CipherSuite) : (count : Nat) → FrameCipher → Bytes → List TracedByte
  | 0, _, _ => []
  | count + 1, cipher, raw =>
    match Frame.length? raw with
    | .ok (some length) =>
      if raw.length < length then []
      else
        match cipher.decrypt suite (raw.take length) with
        | (.ok plaintext, after) =>
          plaintext.map (⟨·, .frame cipher (raw.take length)⟩) ++
            tracedFrames suite count after (raw.drop length)
        | (.error _, _) => []
    | _ => []

theorem map_tracedFrames (count : Nat) (cipher : FrameCipher) (raw : Bytes)
    {plaintext rest : Bytes} {after : FrameCipher}
    (h : decryptFrames suite count cipher raw = (.ok (plaintext, rest), after)) :
    (tracedFrames suite count cipher raw).map (·.byte) = plaintext := by
  induction count generalizing cipher raw plaintext rest after with
  | zero =>
    cases h
    rfl
  | succ count ih =>
    unfold decryptFrames at h
    unfold tracedFrames
    cases hlength : Frame.length? raw with
    | error error =>
      rw [hlength] at h
      cases h
    | ok length? =>
      rw [hlength] at h
      cases length? with
      | none =>
        cases h
        rfl
      | some length =>
        simp only at h ⊢
        by_cases hshort : raw.length < length
        · rw [if_pos hshort] at h ⊢
          cases h
          rfl
        · rw [if_neg hshort] at h ⊢
          rcases hframe : cipher.decrypt suite (raw.take length) with ⟨error | found, next⟩
          · rw [hframe] at h
            cases h
          · rw [hframe] at h
            simp only at h ⊢
            rcases hmore : decryptFrames suite count next (raw.drop length) with
              ⟨error | ⟨more, left⟩, last⟩
            · rw [hmore] at h
              cases h
            · rw [hmore] at h
              cases h
              rw [List.map_append, TracedByte.map_byte_map, ih next _ hmore]

theorem tracedFrames_opened (count : Nat) (cipher : FrameCipher) (raw : Bytes) :
    ∀ b ∈ tracedFrames suite count cipher raw, b.OpenedUnder suite cipher.keys := by
  induction count generalizing cipher raw with
  | zero => exact nofun
  | succ count ih =>
    unfold tracedFrames
    intro b hb
    split at hb
    · rename_i length _
      split at hb
      · cases hb
      · split at hb
        · rename_i plaintext after hframe
          rcases List.mem_append.1 hb with hb | hb
          · obtain ⟨byte, hbyte, rfl⟩ := List.mem_map.1 hb
            exact ⟨cipher, raw.take length, plaintext, after, rfl, rfl, hframe, hbyte⟩
          · have hkeys := cipher.decrypt_keys suite (raw.take length)
            rw [hframe] at hkeys
            rw [← hkeys]
            exact ih _ _ b hb
        · cases hb
    · cases hb

/-- The plain text of what was received on a connection, traced. -/
def traced (suite : CipherSuite) (registry : Registry) (conn : ConnectionId) (raw : Bytes) :
    List TracedByte :=
  match registry.session? conn with
  | none => []
  | some session =>
    match session.cipher with
    | none => raw.map (⟨·, .clear⟩)
    | some cipher => tracedFrames suite raw.length cipher raw

theorem map_traced {registry : Registry} {conn : ConnectionId} {raw plaintext rest : Bytes}
    (h : (registry.decrypt suite conn raw).1 = .ok (plaintext, rest)) :
    (registry.traced suite conn raw).map (·.byte) = plaintext := by
  unfold decrypt at h
  unfold traced
  cases hsession : registry.session? conn with
  | none =>
    rw [hsession] at h
    cases h
  | some session =>
    rw [hsession] at h
    simp only at h ⊢
    cases hcipher : session.cipher with
    | none =>
      rw [hcipher] at h
      cases h
      exact TracedByte.map_byte_map ..
    | some cipher =>
      rw [hcipher] at h
      simp only at h ⊢
      exact map_tracedFrames _ cipher raw (Prod.ext h rfl)

theorem traced_taken (registry : Registry) (conn : ConnectionId) (raw : Bytes) :
    ∀ b ∈ registry.traced suite conn raw,
      b.TakenUnder suite (registry.credentials conn).keys := by
  intro b hb
  unfold traced at hb
  cases hsession : registry.session? conn with
  | none =>
    rw [hsession] at hb
    cases hb
  | some session =>
    rw [hsession] at hb
    rw [credentials, session_of_session? hsession]
    simp only [Session.credentials] at hb ⊢
    cases hcipher : session.cipher with
    | none =>
      rw [hcipher] at hb
      obtain ⟨byte, -, rfl⟩ := List.mem_map.1 hb
      rfl
    | some cipher =>
      rw [hcipher] at hb
      exact tracedFrames_opened _ cipher raw b hb

end Registry

/-! ## Reads -/

/-- The plain text of a read, if it gives any. -/
def ReadResult.plaintext : ReadResult → Bytes
  | .data plaintext => plaintext
  | .pending | .failed _ => []

namespace FrameReader

variable {suite : CipherSuite} {conn : ConnectionId} {ended : Bool}

/-- Decrypts the bytes that are there, if there are any. -/
def opening (suite : CipherSuite) (conn : ConnectionId) (registry : Registry) (raw : Bytes) :
    Except TransportError (Bytes × Bytes) × Registry :=
  if raw.isEmpty then (.ok ([], []), registry) else registry.decrypt suite conn raw

/-- The plain text that taking pieces gives, traced. -/
def tracedFetch (suite : CipherSuite) (conn : ConnectionId) (registry : Registry) (raw : Bytes)
    (pieces : List Bytes) : List TracedByte :=
  match opening suite conn registry raw with
  | (.error _, _) => []
  | (.ok (_ :: _, _), _) => registry.traced suite conn raw
  | (.ok ([], rest), after) =>
    match pieces with
    | [] | [] :: _ => []
    | (b :: piece) :: pieces => tracedFetch suite conn after (rest ++ b :: piece) pieces

theorem map_traced_of_opening {registry after : Registry} {raw plaintext rest : Bytes} {b : UInt8}
    (h : opening suite conn registry raw = (.ok (b :: plaintext, rest), after)) :
    (registry.traced suite conn raw).map (·.byte) = b :: plaintext := by
  unfold opening at h
  split at h
  · cases h
  · exact Registry.map_traced (congrArg Prod.fst h)

theorem credentials_opening (suite : CipherSuite) (conn : ConnectionId) (registry : Registry)
    (raw : Bytes) (other : ConnectionId) :
    (opening suite conn registry raw).2.credentials other = registry.credentials other := by
  unfold opening
  split
  · rfl
  · exact Registry.credentials_decrypt ..

theorem credentials_fetch (registry : Registry) (raw : Bytes) (pieces : List Bytes)
    (other : ConnectionId) :
    (fetch suite conn ended registry raw pieces).registry.credentials other =
      registry.credentials other := by
  induction pieces generalizing registry raw with
  | nil =>
    have hopening := credentials_opening suite conn registry raw other
    unfold fetch
    rw [← hopening, opening]
    split
    · rfl
    · rfl
    · rfl
  | cons piece pieces ih =>
    have hopening := credentials_opening suite conn registry raw other
    unfold fetch
    rw [← hopening, opening]
    split
    · rfl
    · rfl
    · cases piece with
      | nil => rfl
      | cons b piece => exact ih _ _

/-- A read moves a cipher's counters at most. -/
theorem credentials_read (registry : Registry) (reader : FrameReader) (arrivals : Arrivals)
    (capacity : Nat) (other : ConnectionId) :
    (reader.read suite conn registry arrivals capacity).registry.credentials other =
      registry.credentials other := by
  unfold read
  split
  · simp only
    split
    · exact credentials_fetch ..
    · exact credentials_fetch ..
  · rfl

theorem plaintext_endOfStream (raw : Bytes) : (endOfStream raw).plaintext = [] := by
  unfold endOfStream
  split
  · rfl
  · rfl

/-- Traced pieces give the same plain text. -/
theorem map_tracedFetch (ended : Bool) (registry : Registry) (raw : Bytes) (pieces : List Bytes) :
    (tracedFetch suite conn registry raw pieces).map (·.byte) =
      (fetch suite conn ended registry raw pieces).result.plaintext := by
  induction pieces generalizing registry raw with
  | nil =>
    unfold tracedFetch fetch
    rcases hopening : opening suite conn registry raw with
      ⟨error | ⟨_ | ⟨b, plaintext⟩, rest⟩, after⟩
    · rw [opening] at hopening
      rw [hopening]
      rfl
    · rw [opening] at hopening
      rw [hopening]
      cases ended with
      | false => rfl
      | true => exact (plaintext_endOfStream rest).symm
    · have hmap := map_traced_of_opening hopening
      rw [opening] at hopening
      rw [hopening]
      exact hmap
  | cons piece pieces ih =>
    unfold tracedFetch fetch
    rcases hopening : opening suite conn registry raw with
      ⟨error | ⟨_ | ⟨b, plaintext⟩, rest⟩, after⟩
    · rw [opening] at hopening
      rw [hopening]
      rfl
    · rw [opening] at hopening
      rw [hopening]
      cases piece with
      | nil => exact (plaintext_endOfStream rest).symm
      | cons b piece => exact ih after (rest ++ b :: piece)
    · have hmap := map_traced_of_opening hopening
      rw [opening] at hopening
      rw [hopening]
      exact hmap

/-- What taking pieces adds is taken under the keys that the session has. -/
theorem tracedFetch_taken (registry : Registry) (raw : Bytes) (pieces : List Bytes) :
    ∀ b ∈ tracedFetch suite conn registry raw pieces,
      b.TakenUnder suite (registry.credentials conn).keys := by
  induction pieces generalizing registry raw with
  | nil =>
    intro b hb
    unfold tracedFetch at hb
    split at hb
    · cases hb
    · exact Registry.traced_taken registry conn raw b hb
    · cases hb
  | cons piece pieces ih =>
    intro b hb
    have hcredentials := credentials_opening suite conn registry raw conn
    unfold tracedFetch at hb
    split at hb
    · cases hb
    · exact Registry.traced_taken registry conn raw b hb
    · rename_i rest after hopening
      rw [hopening] at hcredentials
      cases piece with
      | nil => cases hb
      | cons first piece =>
        rw [← hcredentials]
        exact ih after _ b hb

/-- The plain text that a read has to hand out, traced: what is left of the last one, or else what
taking pieces gives. -/
def tracedPlain (suite : CipherSuite) (conn : ConnectionId) (registry : Registry)
    (reader : FrameReader) (arrivals : Arrivals) : List TracedByte → List TracedByte
  | [] => tracedFetch suite conn registry reader.raw arrivals.pieces
  | left => left

/-- The plain text that is left, and then what was taken just now. -/
theorem tracedPlain_eq_append (suite : CipherSuite) (conn : ConnectionId) (registry : Registry)
    (reader : FrameReader) (arrivals : Arrivals) (left : List TracedByte) :
    ∃ more, tracedPlain suite conn registry reader arrivals left = left ++ more ∧
      ∀ b ∈ more, b.TakenUnder suite (registry.credentials conn).keys := by
  cases left with
  | nil => exact ⟨_, rfl, tracedFetch_taken registry reader.raw arrivals.pieces⟩
  | cons b left => exact ⟨[], (List.append_nil _).symm, nofun⟩

/-- A read hands out the start of the traced plain text and keeps the rest. -/
theorem traced_read (suite : CipherSuite) (conn : ConnectionId) (registry : Registry)
    {reader : FrameReader} (arrivals : Arrivals) {left : List TracedByte}
    (hleft : left.map (·.byte) = reader.plain) (capacity : Nat) :
    ((tracedPlain suite conn registry reader arrivals left).take capacity).map (·.byte) =
        (reader.read suite conn registry arrivals capacity).result.plaintext ∧
      ((tracedPlain suite conn registry reader arrivals left).drop capacity).map (·.byte) =
        (reader.read suite conn registry arrivals capacity).reader.plain := by
  rw [List.map_take, List.map_drop]
  unfold read
  cases left with
  | nil =>
    rw [← hleft]
    simp only [tracedPlain, List.map_nil, map_tracedFetch arrivals.ended]
    split
    · rename_i plaintext hresult
      rw [hresult]
      exact ⟨rfl, rfl⟩
    · rename_i hresult
      cases hresult' :
          (fetch suite conn arrivals.ended registry reader.raw arrivals.pieces).result with
      | data plaintext => exact absurd hresult' (hresult plaintext)
      | pending => exact ⟨List.take_nil, List.drop_nil⟩
      | failed error => exact ⟨List.take_nil, List.drop_nil⟩
  | cons b left =>
    rw [← hleft]
    exact ⟨rfl, rfl⟩

end FrameReader

end HomeKit
