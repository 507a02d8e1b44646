import HomeKit.Chunks
import HomeKit.Error
import HomeKit.SessionKeys

/-!
# Encrypted frames

After pairing, a connection carries frames: the length of the plain text in two bytes, then the
encrypted text with its tag, the length bytes being authenticated with it. A `FrameCipher` counts
the frames of each direction, and the count is the frame's nonce; it moves only when a frame was
encrypted or decrypted, so that a rejected frame uses up no nonce.
-/

namespace HomeKit

namespace Frame

def maxPlaintext : Nat := 1024

/-- What a frame adds to its plain text: length bytes and tag. -/
def overhead : Nat := 2 + Aead.tagLength

def nonce (number : Nat) : Octets 12 :=
  ⟨[0, 0, 0, 0] ++ littleEndian 8 number, by simp⟩

/-- The nonce of a short name, at the end of the twelve bytes. -/
def namedNonce (name : Bytes) : Octets 12 :=
  ⟨List.replicate (12 - (name.take 12).length) 0 ++ name.take 12, by
    rw [List.length_append, List.length_replicate, List.length_take]; omega⟩

def lengthBytes (length : Nat) : Bytes :=
  littleEndian 2 length

/-- The length of the frame at the start of a buffer, once its length bytes are there. -/
def length? (buffer : Bytes) : Except CryptoError (Option Nat) :=
  match buffer with
  | low :: high :: _ =>
    let declared := ofLittleEndian [low, high]
    if declared > maxPlaintext then
      .error (.decryption s!"Frame length {declared} exceeds {maxPlaintext}")
    else
      .ok (some (declared + overhead))
  | _ => .ok none

end Frame

/-- The keys of one side of a connection and the frames it has sent and received. -/
structure FrameCipher where
  keys : SessionKeys
  sent : Nat := 0
  received : Nat := 0
  deriving DecidableEq

namespace FrameCipher

def counterLimit : Nat := UInt64.size - 1

/-- One frame with a plain text of at most `Frame.maxPlaintext` bytes, encrypted as the frame of
the given number. -/
def frame (suite : CipherSuite) (key : Octets 32) (number : Nat) (plaintext : Bytes) : Bytes :=
  let length := Frame.lengthBytes plaintext.length
  length ++ suite.encrypt key (Frame.nonce number) length plaintext

def encryptPieces (suite : CipherSuite) (cipher : FrameCipher) :
    List Bytes → Except CryptoError Bytes × FrameCipher
  | [] => (.ok [], cipher)
  | piece :: rest =>
    if cipher.sent < counterLimit then
      let (wire, after) := encryptPieces suite { cipher with sent := cipher.sent + 1 } rest
      (wire.map (frame suite cipher.keys.encrypt cipher.sent piece ++ ·), after)
    else
      (.error .nonceExhausted, cipher)

def encrypt (suite : CipherSuite) (cipher : FrameCipher) (plaintext : Bytes) :
    Except CryptoError Bytes × FrameCipher :=
  encryptPieces suite cipher (chunks Frame.maxPlaintext plaintext)

/-- Encrypts pieces of plain text, each as a frame at the end of a buffer. The frames that are there
when it fails stay. -/
def encryptPiecesInto (suite : CipherSuite) (cipher : FrameCipher) (buffer : Bytes) :
    List Bytes → Except CryptoError Unit × FrameCipher × Bytes
  | [] => (.ok (), cipher, buffer)
  | piece :: rest =>
    if cipher.sent < counterLimit then
      encryptPiecesInto suite { cipher with sent := cipher.sent + 1 }
        (buffer ++ frame suite cipher.keys.encrypt cipher.sent piece) rest
    else
      (.error .nonceExhausted, cipher, buffer)

def encryptInto (suite : CipherSuite) (cipher : FrameCipher) (plaintext buffer : Bytes) :
    Except CryptoError Unit × FrameCipher × Bytes :=
  encryptPiecesInto suite cipher buffer (chunks Frame.maxPlaintext plaintext)

/-- Decrypts the encrypted text of one frame, whose length bytes declared `length`. -/
def decryptBlock (suite : CipherSuite) (cipher : FrameCipher) (body : Bytes) (length : Nat) :
    Except CryptoError Bytes × FrameCipher :=
  if body.length ≠ length + Aead.tagLength then
    (.error (.decryption "Ciphertext block length mismatch"), cipher)
  else if cipher.received < counterLimit then
    match suite.decrypt cipher.keys.decrypt (Frame.nonce cipher.received)
        (Frame.lengthBytes length) body with
    | some plaintext => (.ok plaintext, { cipher with received := cipher.received + 1 })
    | none => (.error (.decryption "Decryption/authentication failed"), cipher)
  else
    (.error .nonceExhausted, cipher)

/-- Decrypts at most `count` frames that fill a buffer. -/
def decryptUpTo (suite : CipherSuite) :
    Nat → FrameCipher → Bytes → Except CryptoError Bytes × FrameCipher
  | 0, cipher, _ | _ + 1, cipher, [] => (.ok [], cipher)
  | count + 1, cipher, buffer =>
    match Frame.length? buffer with
    | .error error => (.error error, cipher)
    | .ok none => (.error (.decryption "Incomplete ciphertext frame"), cipher)
    | .ok (some length) =>
      if buffer.length < length then
        (.error (.decryption "Incomplete ciphertext frame"), cipher)
      else
        match decryptBlock suite cipher ((buffer.take length).drop 2) (length - Frame.overhead) with
        | (.error error, cipher) => (.error error, cipher)
        | (.ok plaintext, cipher) =>
          let (more, cipher) := decryptUpTo suite count cipher (buffer.drop length)
          (more.map (plaintext ++ ·), cipher)

/-- Decrypts a buffer that holds complete frames only. -/
def decrypt (suite : CipherSuite) (cipher : FrameCipher) (buffer : Bytes) :
    Except CryptoError Bytes × FrameCipher :=
  decryptUpTo suite buffer.length cipher buffer

end FrameCipher

/-! ## Single messages -/

/-- Encrypts a message of a pairing exchange, whose nonce is the message's name. -/
def CipherSuite.encryptNamed (suite : CipherSuite) (key : Octets 32) (nonce : Octets 12)
    (message : Bytes) : Bytes :=
  suite.encrypt key nonce [] message

def CipherSuite.decryptNamed (suite : CipherSuite) (key : Octets 32) (nonce : Octets 12)
    (box : Bytes) : Except CryptoError Bytes :=
  if box.length < Aead.tagLength then
    .error (.decryption "Ciphertext too short (missing tag)")
  else
    match suite.decrypt key nonce [] box with
    | some message => .ok message
    | none => .error (.decryption "Decryption/authentication failed")

end HomeKit
