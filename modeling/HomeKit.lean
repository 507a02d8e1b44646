import HomeKit.Accessory.Basic
import HomeKit.Accessory.Characteristics
import HomeKit.Accessory.Pairing
import HomeKit.Accessory.Requests
import HomeKit.AttributeDatabase
import HomeKit.Bytes
import HomeKit.Chunks
import HomeKit.Config
import HomeKit.Connection.FrameReader
import HomeKit.Connection.FrameWriter
import HomeKit.Connection.Outbox
import HomeKit.Connection.Session
import HomeKit.Crypto.Aead
import HomeKit.Crypto.ChaCha20
import HomeKit.Crypto.CipherSuite
import HomeKit.Crypto.Curve25519
import HomeKit.Crypto.Ed25519
import HomeKit.Crypto.Hkdf
import HomeKit.Crypto.Poly1305
import HomeKit.Crypto.PowMod
import HomeKit.Crypto.Sha512
import HomeKit.Crypto.Srp
import HomeKit.Crypto.X25519
import HomeKit.Entropy
import HomeKit.Error
import HomeKit.Frame
import HomeKit.Http.Head
import HomeKit.Http.Request
import HomeKit.Http.RequestReader
import HomeKit.Http.Response
import HomeKit.Identifier
import HomeKit.IpAddress
import HomeKit.Json.Basic
import HomeKit.Json.Binary64
import HomeKit.Json.Number
import HomeKit.Json.Printer
import HomeKit.Json.Token
import HomeKit.Json.Tree
import HomeKit.KeyAgreement
import HomeKit.Notification
import HomeKit.Pairing.Controller
import HomeKit.Pairing.ControllerSide
import HomeKit.Pairing.IdentityStore
import HomeKit.Pairing.Manage
import HomeKit.Pairing.PairSetup
import HomeKit.Pairing.PairVerify
import HomeKit.Pairing.SetupProgram
import HomeKit.Proofs.Accessory.Verified
import HomeKit.Proofs.Connection.Credentials
import HomeKit.Proofs.Connection.Source
import HomeKit.Proofs.Crypto.Transparent
import HomeKit.Proofs.Json.Lexing
import HomeKit.Proofs.Pairing.Record
import HomeKit.Proofs.Pairing.Changes
import HomeKit.Proofs.Pairing.SetupMoves
import HomeKit.Proofs.Pairing.SetupSound
import HomeKit.Proofs.Pairing.SetupSystem
import HomeKit.Proofs.Pairing.Store
import HomeKit.Proofs.Pairing.Verify
import HomeKit.Proofs.Server.Provenance
import HomeKit.Proofs.Server.Steps
import HomeKit.Proofs.Server.Trace
import HomeKit.Proofs.Storage.Calls
import HomeKit.Server.Basic
import HomeKit.Server.Peer
import HomeKit.SessionKeys
import HomeKit.SetupCode
import HomeKit.SigningKey
import HomeKit.Storage.Basic
import HomeKit.Storage.Directory
import HomeKit.Text.Blank
import HomeKit.Text.CharLiteral
import HomeKit.Text.Decimal
import HomeKit.Text.Hex
import HomeKit.Text.Lossy
import HomeKit.Text.Pieces
import HomeKit.Text.Reads
import HomeKit.Tlv
import HomeKit.Toml.Basic
import HomeKit.Toml.Document
import HomeKit.Toml.Quoted
import HomeKit.Toml.Scalar
import HomeKit.Proofs.Pairing.Admins
import HomeKit.Proofs.Pairing.Opening
import HomeKit.Proofs.Pairing.Persistence
import HomeKit.Proofs.Connection.Frames
import HomeKit.Proofs.Connection.Channel
import HomeKit.Proofs.Connection.FrameLog
import HomeKit.Proofs.Connection.Nonces
import HomeKit.Proofs.Pairing.SetupCalls
import HomeKit.Proofs.Pairing.SetupMemory
import HomeKit.Proofs.Tlv.RoundTrip
import HomeKit.Proofs.Pairing.SetupSlot
import HomeKit.Proofs.Pairing.Lockout
import HomeKit.Proofs.Pairing.Undisturbed
import HomeKit.Proofs.Crypto.Laws
import HomeKit.Proofs.Crypto.SrpAgreement
import HomeKit.Proofs.Pairing.Spelling
import HomeKit.Proofs.Pairing.SetupComplete
import HomeKit.Proofs.Pairing.VerifyComplete
import HomeKit.Proofs.Connection.Stream
import HomeKit.Proofs.Connection.SealedFrames
import HomeKit.Proofs.Connection.CompleteFrames
import HomeKit.Proofs.Connection.Delivery
import HomeKit.Proofs.Connection.Receiving
import HomeKit.Proofs.Accessory.Writes
import HomeKit.Proofs.Tlv.Runs
import HomeKit.Proofs.Pairing.SetupPhases
import HomeKit.Proofs.Pairing.SetupSteps
import HomeKit.Proofs.Pairing.ConcurrentSetup
import HomeKit.Proofs.Pairing.SetupAdmission
import HomeKit.Proofs.Pairing.SetupOvertaking
import HomeKit.Proofs.Connection.Closing
import HomeKit.Proofs.Accessory.PairingTraffic
import HomeKit.Proofs.Accessory.Unpairing
import HomeKit.Proofs.Connection.Draining
import HomeKit.Proofs.Connection.WriterCalls
import HomeKit.Proofs.Connection.Epochs
import HomeKit.Proofs.Connection.Sending
import HomeKit.Proofs.Connection.KeySwitch
import HomeKit.Proofs.Connection.SendingTurns
import HomeKit.Proofs.Connection.SentInEpochs
import HomeKit.Proofs.Server.Writing
import HomeKit.Proofs.Connection.Subscriptions
import HomeKit.Proofs.Connection.Broadcasting
import HomeKit.Proofs.Accessory.Disconnecting
import HomeKit.Proofs.Http.HeadLines
import HomeKit.Proofs.Http.MessageStream
import HomeKit.Proofs.Http.Pipelining
import HomeKit.Proofs.Storage.DirectoryAsMap
import HomeKit.Proofs.Pairing.Announcements
import HomeKit.Proofs.Pairing.Authority
import HomeKit.Proofs.Pairing.PairingTable
import HomeKit.Proofs.Calls
import HomeKit.Proofs.Pairing.ControllerVerifyCalls
import HomeKit.Proofs.Pairing.AuthenticatedAccessory
import HomeKit.Proofs.Pairing.ControllerSetupCalls
import HomeKit.Proofs.Pairing.ControllerSetupOrder
import HomeKit.Proofs.Accessory.PlainConnections
import HomeKit.Proofs.Database.Documents
import HomeKit.Proofs.Database.Formats
import HomeKit.Proofs.Database.Places
import HomeKit.Proofs.Database.SingleWrites
import HomeKit.Proofs.Accessory.FailedEntries
import HomeKit.Proofs.Accessory.EntriesInOrder
import HomeKit.Proofs.Accessory.Reads
import HomeKit.Proofs.Accessory.NamedRemoval
import HomeKit.Proofs.Pairing.SetupErrors
import HomeKit.Proofs.Pairing.UniformRefusals
import HomeKit.Proofs.Positions
import HomeKit.Proofs.Tlv.Grammar
import HomeKit.Proofs.Tlv.Records
import HomeKit.Proofs.Http.ReadingHeads
import HomeKit.Proofs.Http.RequestFraming
import HomeKit.Proofs.Http.ReadLoop
import HomeKit.Proofs.Pairing.InterruptedRemoval
import HomeKit.Proofs.Pairing.Listing
import HomeKit.Proofs.Pairing.DurableRemoval
import HomeKit.Proofs.Pairing.SetupCodeBytes
import HomeKit.Proofs.Crypto.LongPublicValues
