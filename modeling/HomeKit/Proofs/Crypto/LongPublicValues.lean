import HomeKit.Crypto.Sha512
import HomeKit.Proofs.Crypto.SrpAgreement

/-!
# Public values of any length

A client may send its public value in any number of bytes. The server computes with the whole
number, modulo N, but hashes its lowest `width` bytes only (`pad_eq_pad_iff`). So what a server
hashes (`Server.HashInputs`) tells the number exactly for public values that agree in front of these
bytes, as all of at most `width` bytes do (`Server.accepted_value_eq_iff`); with a multiple of N put
there, the server takes another number with the same proof (`Server.verify_congr`).
-/

namespace HomeKit.Srp

/-! ## What is in front of the bytes that are hashed -/

theorem ofBigEndian_pad_eq_mod (n : Nat) : ofBigEndian (pad n) = n % Nat.pow 256 width :=
  ofBigEndian_bigEndian_eq_mod width n

/-- Two numbers are hashed alike exactly if they agree in their lowest bytes. -/
theorem pad_eq_pad_iff {a b : Nat} :
    pad a = pad b ↔ a % Nat.pow 256 width = b % Nat.pow 256 width := by
  constructor
  · intro h
    calc a % Nat.pow 256 width
      _ = ofBigEndian (pad a) := (ofBigEndian_pad_eq_mod a).symm
      _ = ofBigEndian (pad b) := congrArg ofBigEndian h
      _ = b % Nat.pow 256 width := ofBigEndian_pad_eq_mod b
  · intro h
    refine eq_of_ofBigEndian_eq ?_ ?_
    · rw [pad, pad, length_bigEndian, length_bigEndian]
    · exact (ofBigEndian_pad_eq_mod a).trans (h.trans (ofBigEndian_pad_eq_mod b).symm)

/-- A byte string in `width` bytes: with zeros in front of it, or the last of its bytes. -/
def fitted (b : Bytes) : Bytes :=
  if width ≤ b.length then b.drop (b.length - width)
  else List.replicate (width - b.length) 0 ++ b

/-- The hashed form of a number is its shortest form, filled up with zeros or cut. -/
theorem fitted_shortBigEndian (n : Nat) : fitted (shortBigEndian n) = pad n := by
  have hread := ofBigEndian_shortBigEndian n
  generalize shortBigEndian n = b at hread
  subst hread
  unfold fitted
  split
  · rename_i hle
    have hlength : (b.drop (b.length - width)).length = width := by
      rw [List.length_drop]
      omega
    refine eq_of_ofBigEndian_eq (hlength.trans (length_bigEndian width _).symm) ?_
    have hsplit := ofBigEndian_append (b.take (b.length - width)) (b.drop (b.length - width))
    rw [List.take_append_drop, hlength] at hsplit
    rw [ofBigEndian_pad_eq_mod, hsplit, Nat.mul_add_mod, Nat.mod_eq_of_lt]
    exact ofBigEndian_lt (Nat.le_of_eq hlength)
  · rename_i hlt
    refine eq_of_ofBigEndian_eq ?_ ?_
    · rw [pad, length_bigEndian, List.length_append, List.length_replicate]
      omega
    · rw [ofBigEndian_pad_eq_mod, ofBigEndian_append, ofBigEndian_replicate_zero, Nat.mul_zero,
        Nat.zero_add, Nat.mod_eq_of_lt]
      exact ofBigEndian_lt (by omega)

/-- The number in front of the bytes of a public value that are hashed. -/
def excess (publicKey : Bytes) : Nat :=
  ofBigEndian publicKey / Nat.pow 256 width

theorem excess_of_length_le {publicKey : Bytes} (h : publicKey.length ≤ width) :
    excess publicKey = 0 :=
  Nat.div_eq_of_lt (ofBigEndian_lt h)

/-- Numbers that are hashed alike are equal exactly if nothing else differs in front of that. -/
theorem ofBigEndian_eq_iff {first second : Bytes}
    (hpad : pad (ofBigEndian first) = pad (ofBigEndian second)) :
    ofBigEndian first = ofBigEndian second ↔ excess first = excess second := by
  constructor
  · intro h
    rw [excess, excess, h]
  · intro h
    rw [← Nat.div_add_mod (ofBigEndian first) (Nat.pow 256 width),
      ← Nat.div_add_mod (ofBigEndian second) (Nat.pow 256 width), pad_eq_pad_iff.1 hpad]
    exact congrArg (fun n => Nat.pow 256 width * n + _) h

namespace Server

/-! ## What a server hashes -/

/-- What a server hashes when it verifies a client: for the scrambler u, for the proof that it
expects and for the proof that it answers with. -/
structure HashInputs where
  scrambler : Bytes
  clientProof : Bytes
  serverProof : Bytes
  deriving DecidableEq

variable (hash : Bytes → Octets 64) (server : Server)

def hashInputs (a : Nat) : HashInputs :=
  let theirs := fitted (shortBigEndian a)
  let own := fitted (shortBigEndian server.publicValue)
  { scrambler := theirs ++ own
    clientProof := xorBytes (hash (pad modulus)).bytes (hash [UInt8.ofNat generator]).bytes ++
      (hash server.identity).bytes ++ server.salt.bytes ++ theirs ++ own ++
        (server.sharedKey hash a).bytes
    serverProof :=
      theirs ++ (server.expectedProof hash a).bytes ++ (server.sharedKey hash a).bytes }

theorem hashInputs_eq (a : Nat) : server.hashInputs hash a =
    { scrambler := pad a ++ pad server.publicValue
      clientProof := xorBytes (hash (pad modulus)).bytes (hash [UInt8.ofNat generator]).bytes ++
        (hash server.identity).bytes ++ server.salt.bytes ++ pad a ++ pad server.publicValue ++
          (server.sharedKey hash a).bytes
      serverProof := pad a ++ (server.expectedProof hash a).bytes ++
        (server.sharedKey hash a).bytes } := by
  rw [hashInputs, fitted_shortBigEndian, fitted_shortBigEndian]

/-- A server verifies by the hashes of these inputs, and by whether N divides the public value. -/
theorem verify_eq_hashInputs (clientPublic proof : Bytes) :
    server.verify hash clientPublic proof =
      let a := ofBigEndian clientPublic
      let inputs := server.hashInputs hash a
      if a % modulus = 0 then
        .error (.invalidPublicKey "client public key: A mod N = 0")
      else if hashNumber hash inputs.scrambler = 0 then
        .error (.invalidPublicKey "u = 0")
      else if (hash inputs.clientProof).bytes = proof then
        .ok { key := server.sharedKey hash a, serverProof := hash inputs.serverProof }
      else
        .error .proofMismatch := by
  simp only [hashInputs_eq]
  rfl

variable {hash server} {a b : Nat} {first second proof : Bytes} {verified other : Verified}

/-- The key and the proof that are given for inputs that are taken. -/
theorem eq_of_verify (h : server.verify hash first proof = .ok verified) :
    verified = ⟨server.sharedKey hash (ofBigEndian first),
      hash (server.hashInputs hash (ofBigEndian first)).serverProof⟩ := by
  rw [verify_eq_hashInputs] at h
  simp only at h
  split at h
  · cases h
  split at h
  · cases h
  split at h
  · cases h
    rfl
  · cases h

/-- What is hashed tells the lowest bytes of the public value. -/
theorem pad_eq_of_hashInputs (h : server.hashInputs hash a = server.hashInputs hash b) :
    pad a = pad b := by
  rw [hashInputs_eq, hashInputs_eq] at h
  exact (List.append_inj (congrArg HashInputs.scrambler h) (by simp [pad])).1

/-- What is hashed tells the key. -/
theorem sharedKey_eq_of_hashInputs (h : server.hashInputs hash a = server.hashInputs hash b) :
    server.sharedKey hash a = server.sharedKey hash b := by
  have hlength :
      (server.sharedKey hash a).bytes.length = (server.sharedKey hash b).bytes.length := by
    rw [Octets.length_eq, Octets.length_eq]
  exact Octets.ext (List.append_inj' (congrArg HashInputs.clientProof h) hlength).2

/-! ## What the server tells apart -/

theorem sharedKey_congr (hpad : pad a = pad b) (hmod : a ≡ b [MOD modulus]) :
    server.sharedKey hash a = server.sharedKey hash b := by
  have hscrambler : scrambler hash a server.publicValue = scrambler hash b server.publicValue := by
    rw [scrambler, scrambler, hpad]
  have hbase : ∀ power, a * power % modulus = b * power % modulus :=
    fun power => hmod.mul_right power
  unfold sharedKey
  simp only
  rw [hscrambler, hbase]

theorem hashInputs_congr (hpad : pad a = pad b) (hmod : a ≡ b [MOD modulus]) :
    server.hashInputs hash a = server.hashInputs hash b := by
  have hkey : server.sharedKey hash a = server.sharedKey hash b := sharedKey_congr hpad hmod
  have hproof : server.expectedProof hash a = server.expectedProof hash b := by
    rw [expectedProof, expectedProof, clientProof, clientProof, hpad, hkey]
  rw [hashInputs_eq, hashInputs_eq, hpad, hkey, hproof]

/-- A server cannot tell public values that differ by a multiple of N in front of the bytes that are
hashed. -/
theorem verify_congr (hash : Bytes → Octets 64) (server : Server)
    (h : ofBigEndian first ≡ ofBigEndian second [MOD modulus * Nat.pow 256 width]) :
    server.hashInputs hash (ofBigEndian first) = server.hashInputs hash (ofBigEndian second) ∧
      ∀ proof, server.verify hash first proof = server.verify hash second proof := by
  have hmod : ofBigEndian first ≡ ofBigEndian second [MOD modulus] := h.of_mul_right _
  have hpad : pad (ofBigEndian first) = pad (ofBigEndian second) :=
    pad_eq_pad_iff.2 (h.of_mul_left _)
  have hinputs : server.hashInputs hash (ofBigEndian first) =
      server.hashInputs hash (ofBigEndian second) := hashInputs_congr hpad hmod
  refine ⟨hinputs, fun proof => ?_⟩
  have hzero : ofBigEndian first % modulus = ofBigEndian second % modulus := hmod
  have hkey : server.sharedKey hash (ofBigEndian first) =
      server.sharedKey hash (ofBigEndian second) := sharedKey_congr hpad hmod
  rw [verify_eq_hashInputs, verify_eq_hashInputs]
  simp only
  rw [hzero, hinputs, hkey]

/-- If a server takes two public values with one proof, and hashes the same for both, then it gives
the same for both, and they are the same number exactly if nothing differs in front of the bytes
that are hashed; so they are if neither has more bytes than that. Any public value that differs from
one that is taken by a multiple of N there is taken as well. -/
theorem accepted_value_eq_iff (hfirst : server.verify hash first proof = .ok verified)
    (hsecond : server.verify hash second proof = .ok other)
    (hinputs : server.hashInputs hash (ofBigEndian first) =
      server.hashInputs hash (ofBigEndian second)) :
    other = verified ∧
      (ofBigEndian first = ofBigEndian second ↔ excess first = excess second) ∧
      (first.length ≤ width → second.length ≤ width → ofBigEndian first = ofBigEndian second) ∧
      ∀ third, ofBigEndian third ≡ ofBigEndian first [MOD modulus * Nat.pow 256 width] →
        server.verify hash third proof = .ok verified ∧
          server.hashInputs hash (ofBigEndian third) =
            server.hashInputs hash (ofBigEndian first) := by
  have hiff : ofBigEndian first = ofBigEndian second ↔ excess first = excess second :=
    ofBigEndian_eq_iff (pad_eq_of_hashInputs hinputs)
  refine ⟨?_, hiff, ?_, ?_⟩
  · rw [eq_of_verify hfirst, eq_of_verify hsecond, hinputs, sharedKey_eq_of_hashInputs hinputs]
  · intro hshort hshort'
    rw [hiff, excess_of_length_le hshort, excess_of_length_le hshort']
  · intro third hthird
    obtain ⟨hsame, hverify⟩ := server.verify_congr hash hthird
    exact ⟨(hverify proof).trans hfirst, hsame⟩

end Server

/-! ## A longer public value -/

/-- The multiplier k of this group with SHA-512. -/
theorem multiplier_sha512 : multiplier Sha512.digest =
    ofBigEndian (bigEndian 32 0xA9C2E2559BF0EBB53F0CBBF62282906BEDE7F2182F00678211FBD5BDE5B28503 ++
      bigEndian 32 0x3A4993503B87397F9BE5EC02080FEDBC0835587AD039060879B8621E8C3659E0) := by
  decide +kernel

/-- A server for the code "001-02-003", with a secret of two bytes. -/
def shortServer : Server :=
  .new Sha512.digest (utf8 "Pair-Setup") (utf8 "001-02-003") (.replicate 16 7)
    (ofBigEndian [0x03, 0x05])

def shortClient : Client :=
  .new (utf8 "Pair-Setup") (utf8 "001-02-003") (ofBigEndian [0x02, 0x04])

/-- The proof that the server expects of the client. -/
def shortProof : Bytes :=
  (agreed Sha512.digest shortServer shortClient).proof.bytes

theorem scrambler_short_ne_zero :
    scrambler Sha512.digest shortClient.publicValue shortServer.publicValue ≠ 0 := by
  rw [shortServer, Server.new, multiplier_sha512]
  decide +kernel

/-- The client's public value with the modulus in front of it. -/
def longKey : Bytes :=
  pad modulus ++ shortClient.publicKey

theorem longKey_modEq :
    ofBigEndian longKey ≡ ofBigEndian shortClient.publicKey [MOD modulus * Nat.pow 256 width] := by
  have hlength : shortClient.publicKey.length = width := by
    rw [Client.publicKey, pad, length_bigEndian]
  have hmodulus : ofBigEndian (pad modulus) = modulus := ofBigEndian_bigEndian modulus_lt
  rw [longKey, ofBigEndian_append, hlength, hmodulus, Nat.mul_comm modulus]
  exact Nat.modulus_add_modEq_iff.2 (Nat.ModEq.refl _)

theorem verify_longKey : ∃ verified,
    shortServer.verify Sha512.digest shortClient.publicKey shortProof = .ok verified ∧
      shortServer.verify Sha512.digest longKey shortProof = .ok verified ∧
      shortServer.hashInputs Sha512.digest (ofBigEndian shortClient.publicKey) =
        shortServer.hashInputs Sha512.digest (ofBigEndian longKey) := by
  have hshort : ∃ verified,
      shortServer.verify Sha512.digest shortClient.publicKey shortProof = .ok verified := by
    have hscrambler := scrambler_short_ne_zero
    unfold shortProof
    unfold shortServer shortClient at hscrambler ⊢
    exact ⟨_, verify_agreed hscrambler⟩
  obtain ⟨verified, hshort⟩ := hshort
  obtain ⟨hinputs, hverify⟩ := shortServer.verify_congr Sha512.digest longKey_modEq
  exact ⟨verified, hshort, (hverify shortProof).trans hshort, hinputs.symm⟩

/-- The client's public value and the longer one are taken with the same proof. -/
theorem Server.accepted_value_eq_iff_long : ∃ verified,
    shortServer.verify Sha512.digest shortClient.publicKey shortProof = .ok verified ∧
      shortServer.verify Sha512.digest longKey shortProof = .ok verified ∧
      shortServer.hashInputs Sha512.digest (ofBigEndian shortClient.publicKey) =
        shortServer.hashInputs Sha512.digest (ofBigEndian longKey) ∧
      (ofBigEndian shortClient.publicKey = ofBigEndian longKey ↔
        excess shortClient.publicKey = excess longKey) := by
  obtain ⟨verified, hshort, hlong, hinputs⟩ := verify_longKey
  exact ⟨verified, hshort, hlong, hinputs,
    (Server.accepted_value_eq_iff hshort hlong hinputs).2.1⟩

/-- One proof is taken for two numbers for which the server hashes the same bytes. -/
theorem Server.two_values_accepted :
    (∃ verified, shortServer.verify Sha512.digest shortClient.publicKey shortProof = .ok verified) ∧
      (∃ verified, shortServer.verify Sha512.digest longKey shortProof = .ok verified) ∧
      shortServer.hashInputs Sha512.digest (ofBigEndian shortClient.publicKey) =
        shortServer.hashInputs Sha512.digest (ofBigEndian longKey) ∧
      ofBigEndian shortClient.publicKey ≠ ofBigEndian longKey := by
  obtain ⟨verified, hshort, hlong, hinputs⟩ := verify_longKey
  exact ⟨⟨verified, hshort⟩, ⟨verified, hlong⟩, hinputs, by decide +kernel⟩

end HomeKit.Srp
