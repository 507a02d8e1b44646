import HomeKit.Bytes
import HomeKit.Chunks
import HomeKit.Error

/-!
# Type-length-value messages

Pairing messages are lists of typed values. On the wire each item is a type byte, a length byte
and as many value bytes; a longer value is cut into items of 255 bytes that follow each other, and
neighbouring items of one type are one field. `encode` writes a list of fields and `decode` reads
it back, up to the joining of neighbours (`joinRuns`). Types without a meaning are kept.
-/

namespace HomeKit

/-! ## Codes -/

/-- The field types with a meaning in the pairing exchanges. -/
inductive TlvType where
  | method
  | identifier
  | salt
  | publicKey
  | proof
  | encryptedData
  | state
  | error
  | retryDelay
  | certificate
  | signature
  | permissions
  | fragmentData
  | fragmentLast
  | sessionId
  | flags
  | separator
  deriving DecidableEq, Repr

namespace TlvType

def code : TlvType → UInt8
  | method => 0x00
  | identifier => 0x01
  | salt => 0x02
  | publicKey => 0x03
  | proof => 0x04
  | encryptedData => 0x05
  | state => 0x06
  | error => 0x07
  | retryDelay => 0x08
  | certificate => 0x09
  | signature => 0x0a
  | permissions => 0x0b
  | fragmentData => 0x0c
  | fragmentLast => 0x0d
  | sessionId => 0x0e
  | flags => 0x13
  | separator => 0xff

def all : List TlvType :=
  [method, identifier, salt, publicKey, proof, encryptedData, state, error, retryDelay, certificate,
    signature, permissions, fragmentData, fragmentLast, sessionId, flags, separator]

def ofCode? (b : UInt8) : Option TlvType :=
  all.find? (·.code == b)

def name : TlvType → String
  | method => "Method"
  | identifier => "Identifier"
  | salt => "Salt"
  | publicKey => "PublicKey"
  | proof => "Proof"
  | encryptedData => "EncryptedData"
  | state => "State"
  | error => "Error"
  | retryDelay => "RetryDelay"
  | certificate => "Certificate"
  | signature => "Signature"
  | permissions => "Permissions"
  | fragmentData => "FragmentData"
  | fragmentLast => "FragmentLast"
  | sessionId => "SessionId"
  | flags => "Flags"
  | separator => "Separator"

end TlvType

/-- The codes that an exchange fails with. -/
inductive TlvErrorCode where
  | unknown
  | authentication
  | backoff
  | maxPeers
  | maxTries
  | unavailable
  | busy
  deriving DecidableEq, Repr

namespace TlvErrorCode

def code : TlvErrorCode → UInt8
  | unknown => 1
  | authentication => 2
  | backoff => 3
  | maxPeers => 4
  | maxTries => 5
  | unavailable => 6
  | busy => 7

def name : TlvErrorCode → String
  | unknown => "Unknown"
  | authentication => "Authentication"
  | backoff => "Backoff"
  | maxPeers => "MaxPeers"
  | maxTries => "MaxTries"
  | unavailable => "Unavailable"
  | busy => "Busy"

def all : List TlvErrorCode :=
  [unknown, authentication, backoff, maxPeers, maxTries, unavailable, busy]

def ofCode? (b : UInt8) : Option TlvErrorCode :=
  all.find? (·.code == b)

end TlvErrorCode

/-- What the other side learns of a pairing failure: its code, but not which check failed. -/
def PairingError.code : PairingError → TlvErrorCode
  | .authenticationFailed => .authentication
  | .unavailable => .unavailable
  | .busy => .busy
  | .maxTries => .maxTries
  | .maxPeers => .maxPeers
  | .sequence .. | .missingTlv _ | .unsupportedMethod _ | .protocol _ => .unknown

def Error.code : Error → TlvErrorCode
  | .pairing error => error.code
  | _ => .unknown

/-- What a pairing request asks for. -/
inductive PairingMethod where
  | pairSetup
  | pairSetupWithAuth
  | pairVerify
  | addPairing
  | removePairing
  | listPairings
  deriving DecidableEq, Repr

namespace PairingMethod

def code : PairingMethod → UInt8
  | pairSetup => 0
  | pairSetupWithAuth => 1
  | pairVerify => 2
  | addPairing => 3
  | removePairing => 4
  | listPairings => 5

def all : List PairingMethod :=
  [pairSetup, pairSetupWithAuth, pairVerify, addPairing, removePairing, listPairings]

def ofCode (b : UInt8) : Except PairingError PairingMethod :=
  match all.find? (·.code == b) with
  | some method => .ok method
  | none => .error (.unsupportedMethod b)

def name : PairingMethod → String
  | pairSetup => "PairSetup"
  | pairSetupWithAuth => "PairSetupWithAuth"
  | pairVerify => "PairVerify"
  | addPairing => "AddPairing"
  | removePairing => "RemovePairing"
  | listPairings => "ListPairings"

end PairingMethod

/-! ## Messages -/

structure TlvField where
  type : UInt8
  value : Bytes
  deriving DecidableEq, Repr

/-- A message: its fields in the order of the wire. -/
structure Tlv where
  fields : List TlvField := []
  deriving DecidableEq, Repr

namespace Tlv

/-- The longest value of a single item. -/
def maxItem : Nat := 255

/-- Neighbouring fields of one type joined into one. -/
def joinRuns : List TlvField → List TlvField
  | [] => []
  | field :: rest =>
    match joinRuns rest with
    | next :: more =>
      if field.type = next.type then ⟨field.type, field.value ++ next.value⟩ :: more
      else field :: next :: more
    | [] => [field]

/-- The items of a wire form, at most as many as the first argument says. -/
def itemsUpTo : Nat → Bytes → Except ParseError (List TlvField)
  | 0, _ | _ + 1, [] => .ok []
  | _ + 1, [_] => .error (.malformedTlv "truncated header")
  | count + 1, type :: length :: rest =>
    let value := rest.take length.toNat
    if value.length < length.toNat then
      .error (.malformedTlv s!"truncated value (expected {length} bytes, got {value.length})")
    else
      (itemsUpTo count (rest.drop length.toNat)).map (⟨type, value⟩ :: ·)

def items (data : Bytes) : Except ParseError (List TlvField) :=
  itemsUpTo data.length data

def decode (data : Bytes) : Except ParseError Tlv :=
  (items data).map fun list => ⟨joinRuns list⟩

/-- The wire form of an item with a value of at most 255 bytes. -/
def encodeItem (type : UInt8) (value : Bytes) : Bytes :=
  type :: UInt8.ofNat value.length :: value

def encodeField (field : TlvField) : Bytes :=
  if field.value.isEmpty then encodeItem field.type []
  else (chunks maxItem field.value).flatMap (encodeItem field.type)

def encode (tlv : Tlv) : Bytes :=
  tlv.fields.flatMap encodeField

def getCode? (tlv : Tlv) (type : UInt8) : Option Bytes :=
  (tlv.fields.find? (·.type == type)).map (·.value)

def get? (tlv : Tlv) (type : TlvType) : Option Bytes :=
  tlv.getCode? type.code

def require (tlv : Tlv) (type : TlvType) : Except PairingError Bytes :=
  match tlv.get? type with
  | some value => .ok value
  | none => .error (.missingTlv type.code)

theorem require_eq_ok_iff {tlv : Tlv} {type : TlvType} {value : Bytes} :
    tlv.require type = .ok value ↔ tlv.get? type = some value := by
  unfold require
  cases tlv.get? type <;> simp

/-- Replaces the first field of a type in a list, or adds one at the end. -/
def setField (type : UInt8) (value : Bytes) : List TlvField → List TlvField
  | [] => [⟨type, value⟩]
  | field :: rest =>
    if field.type = type then ⟨type, value⟩ :: rest else field :: setField type value rest

def set (tlv : Tlv) (type : TlvType) (value : Bytes) : Tlv :=
  ⟨setField type.code value tlv.fields⟩

def push (tlv : Tlv) (type : TlvType) (value : Bytes) : Tlv :=
  ⟨tlv.fields ++ [⟨type.code, value⟩]⟩

def contains (tlv : Tlv) (type : TlvType) : Bool :=
  (tlv.get? type).isSome

/-- The number of the exchange's message. -/
def state? (tlv : Tlv) : Option UInt8 :=
  (tlv.get? .state).bind (·.head?)

/-- The number of a message without one is no message's number. -/
theorem state?_getD_eq_iff {tlv : Tlv} {n : UInt8} (hn : n ≠ 0) :
    tlv.state?.getD 0 = n ↔ tlv.state? = some n := by
  cases tlv.state? with
  | none => simp [hn.symm]
  | some m => simp

def method? (tlv : Tlv) : Option UInt8 :=
  (tlv.get? .method).bind (·.head?)

def error? (tlv : Tlv) : Option TlvErrorCode :=
  ((tlv.get? .error).bind (·.head?)).bind TlvErrorCode.ofCode?

/-- Seconds to wait before trying again, from the first one or two bytes of the field. -/
def retryDelay? (tlv : Tlv) : Option Nat :=
  (tlv.get? .retryDelay).map fun value => ofLittleEndian (value.take 2)

/-- The fields between separators; `record` holds the fields so far, last one first. -/
def recordsFrom (record : List TlvField) : List TlvField → List (List TlvField)
  | [] => [record.reverse]
  | field :: rest =>
    if field.type = TlvType.separator.code then record.reverse :: recordsFrom [] rest
    else recordsFrom (field :: record) rest

/-- The messages between separators, without empty ones. -/
def splitRecords (tlv : Tlv) : List Tlv :=
  ((recordsFrom [] tlv.fields).filter (!·.isEmpty)).map Tlv.mk

def ofList (fields : List (TlvType × Bytes)) : Tlv :=
  ⟨fields.map fun (type, value) => ⟨type.code, value⟩⟩

def errorResponse (state : UInt8) (code : TlvErrorCode) : Tlv :=
  ofList [(.state, [state]), (.error, [code.code])]

def pairSetupM1 : Tlv :=
  ofList [(.state, [1]), (.method, [PairingMethod.pairSetup.code])]

def pairVerifyM1 (publicKey : Octets 32) : Tlv :=
  ofList [(.state, [1]), (.publicKey, publicKey.bytes)]

end Tlv

end HomeKit
