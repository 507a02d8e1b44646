/-!
# Errors

What can go wrong, one type per part of the accessory, and the text that reports it. `Error` joins
them for the operations that touch several parts; its text names the part first.
-/

namespace HomeKit

/-- Failures of the pairing exchanges. Only a code derived from them reaches the other side. -/
inductive PairingError where
  | authenticationFailed
  /-- The accessory is paired already. -/
  | unavailable
  | sequence (expected actual : UInt8)
  | busy
  | maxTries
  | maxPeers
  | missingTlv (type : UInt8)
  | unsupportedMethod (method : UInt8)
  | protocol (reason : String)
  deriving DecidableEq, Repr

inductive CryptoError where
  | encryption (reason : String)
  | decryption (reason : String)
  | keyDerivation (reason : String)
  | invalidKeyLength (expected actual : Nat)
  | invalidPublicKey (reason : String)
  | signatureInvalid
  | proofMismatch
  | nonceExhausted
  deriving DecidableEq, Repr

inductive ParseError where
  | malformedTlv (reason : String)
  | invalidFormat (reason : String)
  | missingField (field : String)
  | invalidValue (reason : String)
  deriving DecidableEq, Repr

inductive RecordFault where
  | identifierForm
  | seedLength
  | notJson
  | oddHex
  | hexDigit (shown : String) (position : Nat)
  | keyLength
  | other (reason : String)
  deriving DecidableEq, Repr

inductive StorageError where
  | io
  | invalidKey (key : String)
  | corrupt (key : String) (fault : RecordFault)
  deriving DecidableEq, Repr

inductive TransportError where
  | frameIntegrity
  | frameTooLarge (length : Nat)
  | requestTooLarge (length : Nat)
  | connectionClosed
  | unknownConnection (number : UInt64)
  deriving DecidableEq, Repr

inductive ConfigError where
  | io
  | unreadable
  | invalidSetupCode (reason : String)
  | invalidLogLevel (level : String)
  | invalid (reason : String)
  deriving DecidableEq, Repr

inductive IoKind where
  | unexpectedEof
  | invalidData
  | notFound
  | writeZero
  deriving DecidableEq, Repr

/-- A failure of a stream or a file; a stream that carries frames also says what was wrong. -/
structure IoError where
  kind : IoKind
  transport : Option TransportError := none
  deriving DecidableEq, Repr

inductive Error where
  | connection (error : IoError)
  | pairing (error : PairingError)
  | crypto (error : CryptoError)
  | parse (error : ParseError)
  | storage (error : StorageError)
  | transport (error : TransportError)
  | config (error : ConfigError)
  deriving DecidableEq, Repr

instance : Coe PairingError Error := ⟨.pairing⟩
instance : Coe CryptoError Error := ⟨.crypto⟩
instance : Coe ParseError Error := ⟨.parse⟩
instance : Coe StorageError Error := ⟨.storage⟩
instance : Coe TransportError Error := ⟨.transport⟩
instance : Coe ConfigError Error := ⟨.config⟩

/-! ## Texts -/

def PairingError.message : PairingError → String
  | .authenticationFailed => "Authentication failed"
  | .unavailable => "Accessory is already paired"
  | .sequence expected actual =>
    s!"Unexpected pairing message: expected M{expected}, got M{actual}"
  | .busy => "Another pairing attempt is in progress"
  | .maxTries => "Too many failed pairing attempts"
  | .maxPeers => "No room for additional pairings"
  | .missingTlv type => s!"Missing required TLV type: {type}"
  | .unsupportedMethod method => s!"Unsupported pairing method: {method}"
  | .protocol reason => s!"Protocol error: {reason}"

def CryptoError.message : CryptoError → String
  | .encryption reason => s!"Encryption failed: {reason}"
  | .decryption reason => s!"Decryption failed: {reason}"
  | .keyDerivation reason => s!"Key derivation failed: {reason}"
  | .invalidKeyLength expected actual =>
    s!"Invalid key length: expected {expected}, got {actual}"
  | .invalidPublicKey reason => s!"Invalid public key: {reason}"
  | .signatureInvalid => "Signature verification failed"
  | .proofMismatch => "SRP proof mismatch"
  | .nonceExhausted => "Nonce counter exhausted"

def ParseError.message : ParseError → String
  | .malformedTlv reason => s!"Malformed TLV8: {reason}"
  | .invalidFormat reason => s!"Invalid format: {reason}"
  | .missingField field => s!"Missing required field: {field}"
  | .invalidValue reason => s!"Invalid value: {reason}"

def RecordFault.message : RecordFault → String
  | .identifierForm => "not a colon separated 48-bit identifier"
  | .seedLength => "seed is not 32 bytes"
  | .notJson => "<json>"
  | .oddHex => "Odd number of digits"
  | .hexDigit shown position => s!"Invalid character {shown} at position {position}"
  | .keyLength => "public key is not 32 bytes"
  | .other reason => reason

def StorageError.message : StorageError → String
  | .io => "I/O error"
  | .invalidKey key => s!"Invalid storage key: {key}"
  | .corrupt key fault => s!"Corrupt record {key}: {fault.message}"

def TransportError.message : TransportError → String
  | .frameIntegrity => "Frame failed integrity check"
  | .frameTooLarge length => s!"Frame length {length} exceeds maximum"
  | .requestTooLarge length => s!"Request of {length} bytes exceeds maximum"
  | .connectionClosed => "Connection closed"
  | .unknownConnection number => s!"Unknown connection: {number}"

def ConfigError.message : ConfigError → String
  | .io => "Failed to read config file"
  | .unreadable => "Failed to parse config"
  | .invalidSetupCode reason => s!"Invalid setup code: {reason}"
  | .invalidLogLevel level => s!"Invalid log level: {level}"
  | .invalid reason => s!"Invalid configuration: {reason}"

def IoError.message (error : IoError) : String :=
  match error.transport with
  | some transport => transport.message
  | none =>
    match error.kind with
    | .unexpectedEof => "unexpected end of file"
    | .invalidData => "invalid data"
    | .notFound => "entity not found"
    | .writeZero => "write zero"

/-- The part that failed, then what it reports. -/
def Error.message : Error → String
  | .connection error => s!"Connection error: {error.message}"
  | .pairing error => s!"Pairing error: {error.message}"
  | .crypto error => s!"Crypto error: {error.message}"
  | .parse error => s!"Parse error: {error.message}"
  | .storage error => s!"Storage error: {error.message}"
  | .transport error => s!"Transport error: {error.message}"
  | .config error => s!"Configuration error: {error.message}"

/-! ## Names

A stable name for every kind of failure, led by its part in `Error.name`. -/

/-- The name of a pairing error, without what it carries. -/
def PairingError.name : PairingError → String
  | .authenticationFailed => "AuthenticationFailed"
  | .unavailable => "Unavailable"
  | .sequence .. => "Sequence"
  | .busy => "Busy"
  | .maxTries => "MaxTries"
  | .maxPeers => "MaxPeers"
  | .missingTlv _ => "MissingTlv"
  | .unsupportedMethod _ => "UnsupportedMethod"
  | .protocol _ => "Protocol"

def CryptoError.name : CryptoError → String
  | .encryption _ => "Encryption"
  | .decryption _ => "Decryption"
  | .keyDerivation _ => "KeyDerivation"
  | .invalidKeyLength .. => "InvalidKeyLength"
  | .invalidPublicKey _ => "InvalidPublicKey"
  | .signatureInvalid => "SignatureInvalid"
  | .proofMismatch => "ProofMismatch"
  | .nonceExhausted => "NonceExhausted"

def ParseError.name : ParseError → String
  | .malformedTlv _ => "MalformedTlv"
  | .invalidFormat _ => "InvalidFormat"
  | .missingField _ => "MissingField"
  | .invalidValue _ => "InvalidValue"

def StorageError.name : StorageError → String
  | .io => "Io"
  | .invalidKey _ => "InvalidKey"
  | .corrupt .. => "Corrupt"

def TransportError.name : TransportError → String
  | .frameIntegrity => "FrameIntegrity"
  | .frameTooLarge _ => "FrameTooLarge"
  | .requestTooLarge _ => "RequestTooLarge"
  | .connectionClosed => "ConnectionClosed"
  | .unknownConnection _ => "UnknownConnection"

def ConfigError.name : ConfigError → String
  | .io => "Io"
  | .unreadable => "Parse"
  | .invalidSetupCode _ => "InvalidSetupCode"
  | .invalidLogLevel _ => "InvalidLogLevel"
  | .invalid _ => "Invalid"

def IoKind.name : IoKind → String
  | .unexpectedEof => "UnexpectedEof"
  | .invalidData => "InvalidData"
  | .notFound => "NotFound"
  | .writeZero => "WriteZero"

/-- The part that failed, then the name of the kind. -/
def Error.name : Error → String
  | .connection _ => "Connection"
  | .pairing error => "Pairing." ++ error.name
  | .crypto error => "Crypto." ++ error.name
  | .parse error => "Parse." ++ error.name
  | .storage error => "Storage." ++ error.name
  | .transport error => "Transport." ++ error.name
  | .config error => "Config." ++ error.name

/-- What an error reports without naming its part. -/
def Error.detail : Error → String
  | .connection error => error.message
  | .pairing error => error.message
  | .crypto error => error.message
  | .parse error => error.message
  | .storage error => error.message
  | .transport error => error.message
  | .config error => error.message

end HomeKit
