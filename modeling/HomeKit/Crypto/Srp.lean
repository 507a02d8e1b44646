import HomeKit.Bytes
import HomeKit.Crypto.PowMod
import HomeKit.Entropy
import HomeKit.Error

/-!
# Secure remote password

SRP-6a over the 3072-bit group of RFC 5054 with generator 5. Both sides know a password; `Server`
is the side that issues a salt and a public value B, `Client` the one that answers with its own
public value A and a proof of the password. Both then hold the same secret, and the server answers
with a proof of its own. The hash is a parameter.

Public values are hashed in `width` bytes: longer ones enter by their lowest bytes (`pad`).
-/

namespace HomeKit.Srp

/-- The group's modulus N. -/
def modulus : Nat :=
  ofBigEndian (List.flatten [
    bigEndian 32 0xFFFFFFFFFFFFFFFFC90FDAA22168C234C4C6628B80DC1CD129024E088A67CC74,
    bigEndian 32 0x020BBEA63B139B22514A08798E3404DDEF9519B3CD3A431B302B0A6DF25F1437,
    bigEndian 32 0x4FE1356D6D51C245E485B576625E7EC6F44C42E9A637ED6B0BFF5CB6F406B7ED,
    bigEndian 32 0xEE386BFB5A899FA5AE9F24117C4B1FE649286651ECE45B3DC2007CB8A163BF05,
    bigEndian 32 0x98DA48361C55D39A69163FA8FD24CF5F83655D23DCA3AD961C62F356208552BB,
    bigEndian 32 0x9ED529077096966D670C354E4ABC9804F1746C08CA18217C32905E462E36CE3B,
    bigEndian 32 0xE39E772C180E86039B2783A2EC07A28FB5C55DF06F4C52C9DE2BCBF695581718,
    bigEndian 32 0x3995497CEA956AE515D2261898FA051015728E5A8AAAC42DAD33170D04507A33,
    bigEndian 32 0xA85521ABDF1CBA64ECFB850458DBEF0A8AEA71575D060C7DB3970F85A6E1E4C7,
    bigEndian 32 0xABF5AE8CDB0933D71E8C94E04A25619DCEE3D2261AD2EE6BF12FFA06D98A0864,
    bigEndian 32 0xD87602733EC86A64521F2B18177B200CBBE117577A615D6C770988C0BAD946E2,
    bigEndian 32 0x08E24FA074E5AB3143DB5BFCE0FD108E4B82D120A93AD2CAFFFFFFFFFFFFFFFF])

def generator : Nat := 5

/-- Bytes of a public value. -/
def width : Nat := 384

/-- A number in `width` bytes; of a longer one, its lowest bytes. -/
def pad (n : Nat) : Bytes :=
  bigEndian width n

section

variable (hash : Bytes → Octets 64)

def hashNumber (b : Bytes) : Nat :=
  ofBigEndian (hash b).bytes

/-- The multiplier k = H(N, g). -/
def multiplier : Nat :=
  hashNumber hash (pad modulus ++ pad generator)

/-- The scrambler u = H(A, B). -/
def scrambler (a b : Nat) : Nat :=
  hashNumber hash (pad a ++ pad b)

/-- The password's exponent x = H(salt, H(identity : password)). -/
def exponent (salt identity password : Bytes) : Nat :=
  hashNumber hash (salt ++ (hash (identity ++ 0x3a :: password)).bytes)

def sharedKey (s : Nat) : Octets 64 :=
  hash (pad s)

/-- The client's proof. The generator is hashed here as a single byte. -/
def clientProof (identity salt : Bytes) (a b : Nat) (key : Bytes) : Octets 64 :=
  hash (xorBytes (hash (pad modulus)).bytes (hash [UInt8.ofNat generator]).bytes ++
    (hash identity).bytes ++ salt ++ pad a ++ pad b ++ key)

def serverProof (a : Nat) (proof key : Bytes) : Octets 64 :=
  hash (pad a ++ proof ++ key)

end

/-! ## The server -/

structure Server where
  identity : Bytes
  salt : Octets 16
  /-- v = g^x -/
  verifier : Nat
  /-- The secret b. -/
  secret : Nat
  /-- B = k·v + g^b -/
  publicValue : Nat
  deriving DecidableEq

structure Verified where
  key : Octets 64
  serverProof : Octets 64
  deriving DecidableEq

namespace Server

def new (hash : Bytes → Octets 64) (identity password : Bytes) (salt : Octets 16)
    (secret : Nat) : Server :=
  let verifier := powMod generator (exponent hash salt.bytes identity password) modulus
  { identity, salt, verifier, secret
    publicValue := (multiplier hash * verifier + powMod generator secret modulus) % modulus }

def generate (hash : Bytes → Octets 64) (identity password : Bytes) (random : Entropy) :
    Server × Entropy :=
  let (salt, random) := random.draw 16
  let (secret, random) := random.drawNumber
  (new hash identity password salt secret, random)

def publicKey (server : Server) : Bytes :=
  pad server.publicValue

/-- The key that the server shares with the client of public value `a`: of (A·v^u)^b. -/
def sharedKey (hash : Bytes → Octets 64) (server : Server) (a : Nat) : Octets 64 :=
  let u := scrambler hash a server.publicValue
  let base := a * powMod server.verifier u modulus % modulus
  Srp.sharedKey hash (powMod base server.secret modulus)

def expectedProof (hash : Bytes → Octets 64) (server : Server) (a : Nat) : Octets 64 :=
  clientProof hash server.identity server.salt.bytes a server.publicValue
    (server.sharedKey hash a).bytes

def verify (hash : Bytes → Octets 64) (server : Server) (clientPublic proof : Bytes) :
    Except CryptoError Verified :=
  let a := ofBigEndian clientPublic
  if a % modulus = 0 then
    .error (.invalidPublicKey "client public key: A mod N = 0")
  else if scrambler hash a server.publicValue = 0 then
    .error (.invalidPublicKey "u = 0")
  else
    let expected := server.expectedProof hash a
    if expected.bytes = proof then
      let key := server.sharedKey hash a
      .ok { key, serverProof := serverProof hash a expected.bytes key.bytes }
    else
      .error .proofMismatch

end Server

/-! ## The client -/

structure Client where
  identity : Bytes
  password : Bytes
  secret : Nat
  /-- A = g^a -/
  publicValue : Nat
  deriving DecidableEq

structure Answer where
  proof : Octets 64
  key : Octets 64
  expectedServerProof : Octets 64
  deriving DecidableEq

def Answer.accepts (answer : Answer) (serverProof : Bytes) : Bool :=
  serverProof == answer.expectedServerProof.bytes

namespace Client

def new (identity password : Bytes) (secret : Nat) : Client :=
  { identity, password, secret, publicValue := powMod generator secret modulus }

def generate (identity password : Bytes) (random : Entropy) : Client × Entropy :=
  let (secret, random) := random.drawNumber
  (new identity password secret, random)

def publicKey (client : Client) : Bytes :=
  pad client.publicValue

/-- Answers the server's salt and public value, with the key of (B - k·g^x)^(a + u·x). -/
def answer (hash : Bytes → Octets 64) (client : Client) (salt : Octets 16)
    (serverPublic : Bytes) : Except CryptoError Answer :=
  let b := ofBigEndian serverPublic
  if b % modulus = 0 then
    .error (.invalidPublicKey "server public key: B mod N = 0")
  else
    let u := scrambler hash client.publicValue b
    if u = 0 then
      .error (.invalidPublicKey "u = 0")
    else
      let x := exponent hash salt.bytes client.identity client.password
      let masked := multiplier hash * powMod generator x modulus % modulus
      let base := (if masked ≤ b then b - masked else b + modulus - masked) % modulus
      let key := sharedKey hash (powMod base (client.secret + u * x) modulus)
      let proof := clientProof hash client.identity salt.bytes client.publicValue b key.bytes
      .ok {
        proof
        key
        expectedServerProof := serverProof hash client.publicValue proof.bytes key.bytes }

end Client

end HomeKit.Srp
