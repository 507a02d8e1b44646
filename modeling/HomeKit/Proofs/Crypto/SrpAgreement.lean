import HomeKit.Crypto.Srp
import Mathlib.Data.Int.ModEq
import Mathlib.Data.Nat.ModEq
import Mathlib.Tactic.Ring

/-!
# Agreement on a secret

Client and server compute the same secret from different powers: the client takes B - k·g^x to the
power a + u·x, the server A·v^u to the power b, and both are g^(b·(a + u·x)) (`client_power_modEq`,
`server_power_modEq`). So a client that knows the password answers with the proof that the server
expects (`answer_eq_agreed`), and the server accepts it, and no other, and answers with the proof
that the client expects (`verify_agreed`, `exists_agreement`). Whoever the server is, a client's
answer is what the protocol says it is (`Client.Answers`).
-/

namespace HomeKit.Srp

/-! ## The group -/

theorem one_lt_modulus : 1 < modulus := by decide +kernel

theorem modulus_lt : modulus < Nat.pow 256 width := by decide +kernel

theorem coprime_generator_modulus : Nat.Coprime generator modulus := by decide +kernel

theorem mod_lt_modulus (n : Nat) : n % modulus < modulus :=
  Nat.mod_lt n (Nat.zero_lt_of_lt one_lt_modulus)

theorem powMod_lt (base exponent : Nat) : powMod base exponent modulus < modulus := by
  rw [powMod_eq]
  exact mod_lt_modulus _

theorem powMod_modEq (base exponent : Nat) :
    powMod base exponent modulus ≡ base ^ exponent [MOD modulus] := by
  rw [powMod_eq]
  exact Nat.mod_modEq _ _

/-- No power of the generator is a multiple of the modulus. -/
theorem powMod_generator_mod_ne_zero (exponent : Nat) :
    powMod generator exponent modulus % modulus ≠ 0 := by
  intro hzero
  rw [Nat.mod_eq_of_lt (powMod_lt _ _), powMod_eq] at hzero
  have hdvd : modulus ∣ generator ^ exponent := Nat.dvd_of_mod_eq_zero hzero
  have hcoprime : Nat.Coprime (generator ^ exponent) modulus :=
    coprime_generator_modulus.pow_left exponent
  exact absurd (hcoprime.symm.eq_one_of_dvd hdvd) (Nat.ne_of_gt one_lt_modulus)

/-- A number below the modulus is read back as it was written. -/
theorem ofBigEndian_pad {n : Nat} (h : n < modulus) : ofBigEndian (pad n) = n :=
  ofBigEndian_bigEndian (Nat.lt_trans h modulus_lt)

/-! ## The secret -/

section Secret

variable (hash : Bytes → Octets 64) (identity password : Bytes) (salt : Octets 16) (a b u : Nat)

theorem Client.publicValue_lt : (Client.new identity password a).publicValue < modulus :=
  powMod_lt _ _

theorem Server.publicValue_lt :
    (Server.new hash identity password salt b).publicValue < modulus :=
  mod_lt_modulus _

/-- What the server adds to its power of the generator: k·v. -/
def mask : Nat :=
  multiplier hash * powMod generator (exponent hash salt.bytes identity password) modulus % modulus

/-- A public value of the server without its mask. -/
def unmask (masked publicValue : Nat) : Nat :=
  (if masked ≤ publicValue then publicValue - masked else publicValue + modulus - masked) % modulus

theorem unmask_add_modEq {masked : Nat} (h : masked < modulus) (publicValue : Nat) :
    unmask masked publicValue + masked ≡ publicValue [MOD modulus] := by
  refine ((Nat.mod_modEq _ _).add_right masked).trans ?_
  split
  · rename_i hle
    rw [Nat.sub_add_cancel hle]
  · rw [Nat.sub_add_cancel (by omega)]
    exact Nat.add_modEq_right

/-- Without its mask, the server's public value is g^b. -/
theorem unmask_modEq :
    unmask (mask hash identity password salt)
        (Server.new hash identity password salt b).publicValue ≡ generator ^ b [MOD modulus] := by
  let masked := mask hash identity password salt
  let publicValue := (Server.new hash identity password salt b).publicValue
  have hmasked : masked < modulus := mod_lt_modulus _
  have hpublic : publicValue ≡ generator ^ b + masked [MOD modulus] :=
    calc publicValue
      _ ≡ multiplier hash *
            powMod generator (exponent hash salt.bytes identity password) modulus +
          powMod generator b modulus [MOD modulus] := Nat.mod_modEq _ _
      _ ≡ masked + generator ^ b [MOD modulus] :=
        (Nat.mod_modEq _ _).symm.add (powMod_modEq _ _)
      _ = generator ^ b + masked := Nat.add_comm _ _
  exact Nat.ModEq.add_right_cancel' masked ((unmask_add_modEq hmasked publicValue).trans hpublic)

/-- The client's power is g^(b·(a + u·x)). -/
theorem client_power_modEq :
    let x := exponent hash salt.bytes identity password
    powMod (unmask (mask hash identity password salt)
        (Server.new hash identity password salt b).publicValue) (a + u * x) modulus ≡
      generator ^ (b * (a + u * x)) [MOD modulus] := by
  intro x
  calc _
    _ ≡ _ ^ (a + u * x) [MOD modulus] := powMod_modEq _ _
    _ ≡ (generator ^ b) ^ (a + u * x) [MOD modulus] :=
      (unmask_modEq hash identity password salt b).pow _
    _ = generator ^ (b * (a + u * x)) := (Nat.pow_mul ..).symm

/-- The server's power is g^(b·(a + u·x)). -/
theorem server_power_modEq :
    let x := exponent hash salt.bytes identity password
    let server := Server.new hash identity password salt b
    let client := Client.new identity password a
    powMod (client.publicValue * powMod server.verifier u modulus % modulus) b modulus ≡
      generator ^ (b * (a + u * x)) [MOD modulus] := by
  intro x server client
  have hverifier : powMod server.verifier u modulus ≡ (generator ^ x) ^ u [MOD modulus] :=
    (powMod_modEq _ _).trans ((powMod_modEq _ _).pow u)
  have hbase : client.publicValue * powMod server.verifier u modulus % modulus ≡
      generator ^ a * (generator ^ x) ^ u [MOD modulus] :=
    (Nat.mod_modEq _ _).trans ((powMod_modEq _ _).mul hverifier)
  calc _
    _ ≡ _ ^ b [MOD modulus] := powMod_modEq _ _
    _ ≡ (generator ^ a * (generator ^ x) ^ u) ^ b [MOD modulus] := hbase.pow b
    _ = generator ^ (b * (a + u * x)) := by ring

/-- Client and server compute the same number. -/
theorem powers_eq :
    let x := exponent hash salt.bytes identity password
    let server := Server.new hash identity password salt b
    let client := Client.new identity password a
    powMod (unmask (mask hash identity password salt) server.publicValue) (a + u * x) modulus =
      powMod (client.publicValue * powMod server.verifier u modulus % modulus) b modulus :=
  Nat.ModEq.eq_of_lt_of_lt
    ((client_power_modEq hash identity password salt a b u).trans
      (server_power_modEq hash identity password salt a b u).symm)
    (powMod_lt _ _) (powMod_lt _ _)

end Secret

/-! ## Proofs -/

section Proofs

variable {hash : Bytes → Octets 64} {identity password : Bytes} {salt : Octets 16} {a b : Nat}

/-- The answer of a client to a server that knows the same password. -/
def agreed (hash : Bytes → Octets 64) (server : Server) (client : Client) : Answer :=
  let key := server.sharedKey hash client.publicValue
  let proof := server.expectedProof hash client.publicValue
  { proof, key, expectedServerProof := serverProof hash client.publicValue proof.bytes key.bytes }

/-- The client answers with the proof that the server expects. -/
theorem answer_eq_agreed
    (hpublic : (Server.new hash identity password salt b).publicValue % modulus ≠ 0)
    (hscrambler : scrambler hash (Client.new identity password a).publicValue
      (Server.new hash identity password salt b).publicValue ≠ 0) :
    (Client.new identity password a).answer hash salt
        (Server.new hash identity password salt b).publicKey =
      .ok (agreed hash (Server.new hash identity password salt b)
        (Client.new identity password a)) := by
  let server := Server.new hash identity password salt b
  let client := Client.new identity password a
  have hread : ofBigEndian server.publicKey = server.publicValue :=
    ofBigEndian_pad (Server.publicValue_lt hash identity password salt b)
  have hkey : sharedKey hash (powMod (unmask (mask hash identity password salt) server.publicValue)
      (a + scrambler hash client.publicValue server.publicValue *
        exponent hash salt.bytes identity password) modulus) =
      server.sharedKey hash client.publicValue :=
    congrArg (sharedKey hash) (powers_eq hash identity password salt a b _)
  unfold agreed Server.expectedProof Client.answer
  simp only
  rw [hread, if_neg hpublic, if_neg hscrambler, ← hkey]
  rfl

/-- For a client whose public value is not a multiple of the modulus, a server takes the proof that
it expects and no other. -/
theorem Server.verify_eq_ite {server : Server} {clientPublic : Bytes}
    (hpublic : ofBigEndian clientPublic % modulus ≠ 0)
    (hscrambler : scrambler hash (ofBigEndian clientPublic) server.publicValue ≠ 0)
    (proof : Bytes) :
    server.verify hash clientPublic proof =
      let a := ofBigEndian clientPublic
      let expected := server.expectedProof hash a
      let key := server.sharedKey hash a
      if expected.bytes = proof then
        .ok ⟨key, Srp.serverProof hash a expected.bytes key.bytes⟩
      else .error .proofMismatch := by
  unfold Server.verify
  simp only
  rw [if_neg hpublic, if_neg hscrambler]

/-- The server accepts the proof that it expects of a client. -/
theorem verify_agreed
    (hscrambler : scrambler hash (Client.new identity password a).publicValue
      (Server.new hash identity password salt b).publicValue ≠ 0) :
    let server := Server.new hash identity password salt b
    let client := Client.new identity password a
    server.verify hash client.publicKey (agreed hash server client).proof.bytes =
      .ok ⟨(agreed hash server client).key, (agreed hash server client).expectedServerProof⟩ := by
  intro server client
  have hread : ofBigEndian client.publicKey = client.publicValue :=
    ofBigEndian_pad (Client.publicValue_lt identity password a)
  have hpublic : client.publicValue % modulus ≠ 0 := powMod_generator_mod_ne_zero a
  rw [Server.verify_eq_ite (by rwa [hread]) (by rwa [hread]), hread]
  exact if_pos rfl

end Proofs

/-! ## An exchange -/

/-- An exchange that comes to an end: the client takes what the server sends, the server takes the
client's proof, and both hold the same. -/
structure Agreement (hash : Bytes → Octets 64) (server : Server) (client : Client) (answer : Answer)
    (verified : Verified) : Prop where
  answers : client.answer hash server.salt server.publicKey = .ok answer
  verifies : server.verify hash client.publicKey answer.proof.bytes = .ok verified
  key : verified.key = answer.key
  serverProof : verified.serverProof = answer.expectedServerProof
  /-- With this public value no other proof is taken. -/
  refuses : ∀ proof, proof ≠ answer.proof.bytes →
    server.verify hash client.publicKey proof = .error .proofMismatch

/-- A client and a server that know the same password agree, on the key of g^(b·(a + u·x)), unless
the server's public value or the scrambler is zero. -/
theorem exists_agreement (hash : Bytes → Octets 64) (identity password : Bytes) (salt : Octets 16)
    (a b : Bytes) :
    let server := Server.new hash identity password salt (ofBigEndian b)
    let client := Client.new identity password (ofBigEndian a)
    let u := scrambler hash client.publicValue server.publicValue
    let x := exponent hash salt.bytes identity password
    server.publicValue % modulus ≠ 0 → u ≠ 0 →
      ∃ answer verified, Agreement hash server client answer verified ∧
        answer.key = sharedKey hash
          (generator ^ (ofBigEndian b * (ofBigEndian a + u * x)) % modulus) := by
  intro server client u x hpublic hscrambler
  let answer := agreed hash server client
  have hread : ofBigEndian client.publicKey = client.publicValue :=
    ofBigEndian_pad (Client.publicValue_lt identity password (ofBigEndian a))
  have hclient : client.publicValue % modulus ≠ 0 := powMod_generator_mod_ne_zero _
  refine ⟨answer, ⟨answer.key, answer.expectedServerProof⟩,
    { answers := answer_eq_agreed hpublic hscrambler
      verifies := verify_agreed hscrambler
      key := rfl
      serverProof := rfl
      refuses := ?refuses }, ?key⟩
  case refuses =>
    intro proof hne
    rw [Server.verify_eq_ite (by rwa [hread]) (by rwa [hread]), hread]
    exact if_neg hne.symm
  case key =>
    have hpower := server_power_modEq hash identity password salt (ofBigEndian a) (ofBigEndian b) u
    have hsecret : powMod (client.publicValue * powMod server.verifier u modulus % modulus)
        server.secret modulus =
        generator ^ (ofBigEndian b * (ofBigEndian a + u * x)) % modulus := by
      rw [← Nat.mod_eq_of_lt (powMod_lt _ _)]
      exact hpower
    exact congrArg (sharedKey hash) hsecret

/-- The two sides of "001-02-003", with secrets of two bytes and a hash that adds up its message. -/
theorem exists_agreement_typed :
    let hash : Bytes → Octets 64 := fun message => .replicate 64 (message.foldl (· + ·) 1)
    let server := Server.new hash (utf8 "Pair-Setup") (utf8 "001-02-003") (.replicate 16 7)
      (ofBigEndian [0x03, 0x05])
    let client := Client.new (utf8 "Pair-Setup") (utf8 "001-02-003") (ofBigEndian [0x02, 0x04])
    ∃ answer verified, Agreement hash server client answer verified := by
  obtain ⟨answer, verified, hagreement, -⟩ := exists_agreement
    (fun message => .replicate 64 (message.foldl (· + ·) 1)) (utf8 "Pair-Setup")
    (utf8 "001-02-003") (.replicate 16 7) [0x02, 0x04] [0x03, 0x05]
    (by decide +kernel) (by decide +kernel)
  exact ⟨answer, verified, hagreement⟩

/-! ## Answers to any server -/

/-- What a client answers to a salt and a public value: a key that is hashed from
(B - k·g^x)^(a + u·x), its proof that it knows the password and the proof that it expects in return.
Neither B nor the scrambler u is zero. -/
structure Client.Answers (hash : Bytes → Octets 64) (client : Client) (salt : Octets 16)
    (publicValue : Nat) (answer : Answer) : Prop where
  publicValue_ne_zero : publicValue % modulus ≠ 0
  scrambler_ne_zero : scrambler hash client.publicValue publicValue ≠ 0
  key : let x := exponent hash salt.bytes client.identity client.password
    let u := scrambler hash client.publicValue publicValue
    ∃ secret : Nat, secret < modulus ∧
      (secret : Int) ≡ (publicValue - multiplier hash * generator ^ x) ^ (client.secret + u * x)
        [ZMOD modulus] ∧
      answer.key = sharedKey hash secret
  proof : answer.proof = clientProof hash client.identity salt.bytes client.publicValue publicValue
    answer.key.bytes
  expectedServerProof : answer.expectedServerProof =
    serverProof hash client.publicValue answer.proof.bytes answer.key.bytes

/-- Without its mask, a public value is B - k·g^x. -/
theorem unmask_mask_modEq (hash : Bytes → Octets 64) (identity password : Bytes) (salt : Octets 16)
    (publicValue : Nat) :
    (unmask (mask hash identity password salt) publicValue : Int) ≡
      publicValue - multiplier hash * generator ^ exponent hash salt.bytes identity password
        [ZMOD modulus] := by
  let x := exponent hash salt.bytes identity password
  let masked := mask hash identity password salt
  have hmasked : masked ≡ multiplier hash * generator ^ x [MOD modulus] :=
    (Nat.mod_modEq _ _).trans ((powMod_modEq _ _).mul_left _)
  have hsum : unmask masked publicValue + multiplier hash * generator ^ x ≡ publicValue
      [MOD modulus] :=
    (hmasked.symm.add_left _).trans (unmask_add_modEq (mod_lt_modulus _) publicValue)
  have hsumInt : (unmask masked publicValue : Int) + multiplier hash * generator ^ x ≡ publicValue
      [ZMOD modulus] := by
    exact_mod_cast Int.natCast_modEq_iff.2 hsum
  calc (unmask masked publicValue : Int)
    _ = unmask masked publicValue + multiplier hash * generator ^ x -
          multiplier hash * generator ^ x := (add_sub_cancel_right _ _).symm
    _ ≡ publicValue - multiplier hash * generator ^ x [ZMOD modulus] := hsumInt.sub_right _

theorem Client.answers_of_answer {hash : Bytes → Octets 64} {client : Client} {salt : Octets 16}
    {serverPublic : Bytes} {answer : Answer}
    (h : client.answer hash salt serverPublic = .ok answer) :
    client.Answers hash salt (ofBigEndian serverPublic) answer := by
  unfold Client.answer at h
  simp only at h
  split at h
  · cases h
  split at h
  · cases h
  rename_i hpublic hscrambler
  cases h
  refine ⟨hpublic, hscrambler, ⟨_, powMod_lt _ _, ?_, rfl⟩, rfl, rfl⟩
  have hpower := Int.natCast_modEq_iff.2 (powMod_modEq
    (unmask (mask hash client.identity client.password salt) (ofBigEndian serverPublic))
    (client.secret + scrambler hash client.publicValue (ofBigEndian serverPublic) *
      exponent hash salt.bytes client.identity client.password))
  push_cast at hpower
  exact hpower.trans ((unmask_mask_modEq hash client.identity client.password salt _).pow _)

end HomeKit.Srp
