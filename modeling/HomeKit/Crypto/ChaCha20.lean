import HomeKit.Bytes
import HomeKit.Chunks

/-!
# ChaCha20

The stream cipher of RFC 8439: a key, a nonce and a block counter give 64 bytes of key stream
(`block`), and a message is enciphered by the exclusive or with the stream (`apply`), so applying
it twice gives the message back (`apply_apply`).
-/

namespace HomeKit.ChaCha20

/-- The sixteen words of the cipher's state, row by row. -/
structure State where
  a0 : UInt32
  a1 : UInt32
  a2 : UInt32
  a3 : UInt32
  b0 : UInt32
  b1 : UInt32
  b2 : UInt32
  b3 : UInt32
  c0 : UInt32
  c1 : UInt32
  c2 : UInt32
  c3 : UInt32
  d0 : UInt32
  d1 : UInt32
  d2 : UInt32
  d3 : UInt32

@[inline] def rotateLeft (x : UInt32) (n : UInt32) : UInt32 :=
  (x <<< n) ||| (x >>> (32 - n))

@[inline] def quarterRound (a b c d : UInt32) : UInt32 × UInt32 × UInt32 × UInt32 :=
  let a := a + b
  let d := rotateLeft (d ^^^ a) 16
  let c := c + d
  let b := rotateLeft (b ^^^ c) 12
  let a := a + b
  let d := rotateLeft (d ^^^ a) 8
  let c := c + d
  let b := rotateLeft (b ^^^ c) 7
  (a, b, c, d)

/-- Quarter rounds on the four columns and then on the four diagonals. -/
def doubleRound (s : State) : State :=
  let (a0, b0, c0, d0) := quarterRound s.a0 s.b0 s.c0 s.d0
  let (a1, b1, c1, d1) := quarterRound s.a1 s.b1 s.c1 s.d1
  let (a2, b2, c2, d2) := quarterRound s.a2 s.b2 s.c2 s.d2
  let (a3, b3, c3, d3) := quarterRound s.a3 s.b3 s.c3 s.d3
  let (a0, b1, c2, d3) := quarterRound a0 b1 c2 d3
  let (a1, b2, c3, d0) := quarterRound a1 b2 c3 d0
  let (a2, b3, c0, d1) := quarterRound a2 b3 c0 d1
  let (a3, b0, c1, d2) := quarterRound a3 b0 c1 d2
  ⟨a0, a1, a2, a3, b0, b1, b2, b3, c0, c1, c2, c3, d0, d1, d2, d3⟩

def State.sum (s t : State) : List UInt32 :=
  [s.a0 + t.a0, s.a1 + t.a1, s.a2 + t.a2, s.a3 + t.a3,
    s.b0 + t.b0, s.b1 + t.b1, s.b2 + t.b2, s.b3 + t.b3,
    s.c0 + t.c0, s.c1 + t.c1, s.c2 + t.c2, s.c3 + t.c3,
    s.d0 + t.d0, s.d1 + t.d1, s.d2 + t.d2, s.d3 + t.d3]

/-- The little-endian word at the `i`-th group of four bytes. -/
def word (b : Bytes) (i : Nat) : UInt32 :=
  UInt32.ofNat (ofLittleEndian ((b.drop (4 * i)).take 4))

/-- The state before the rounds: constants, key, block counter, nonce. -/
def start (key : Octets 32) (nonce : Octets 12) (counter : Nat) : State where
  a0 := 0x61707865
  a1 := 0x3320646e
  a2 := 0x79622d32
  a3 := 0x6b206574
  b0 := word key.bytes 0
  b1 := word key.bytes 1
  b2 := word key.bytes 2
  b3 := word key.bytes 3
  c0 := word key.bytes 4
  c1 := word key.bytes 5
  c2 := word key.bytes 6
  c3 := word key.bytes 7
  d0 := UInt32.ofNat counter
  d1 := word nonce.bytes 0
  d2 := word nonce.bytes 1
  d3 := word nonce.bytes 2

def block (key : Octets 32) (nonce : Octets 12) (counter : Nat) : Octets 64 where
  bytes :=
    let s := start key nonce counter
    ((List.range 10).foldl (fun t _ => doubleRound t) s).sum s |>.flatMap
      fun w => littleEndian 4 w.toNat
  length_eq := by simp [State.sum]

/-- The pieces of a message, each combined with its own block of key stream. -/
def applyFrom (key : Octets 32) (nonce : Octets 12) : Nat → List Bytes → Bytes
  | _, [] => []
  | counter, piece :: rest =>
    xorBytes piece (block key nonce counter).bytes ++ applyFrom key nonce (counter + 1) rest

/-- Enciphers, or deciphers, a message with the key stream from block `counter` on. -/
def apply (key : Octets 32) (nonce : Octets 12) (counter : Nat) (message : Bytes) : Bytes :=
  applyFrom key nonce counter (chunks 64 message)

theorem length_apply (key : Octets 32) (nonce : Octets 12) (counter : Nat) (message : Bytes) :
    (apply key nonce counter message).length = message.length := by
  unfold apply
  induction message using chunks_induction (n := 64) (by omega) generalizing counter with
  | nil => rfl
  | step l hl ih =>
    rw [chunks_of_ne_nil (by omega) hl, applyFrom, List.length_append, ih]
    simp [xorBytes, (block key nonce counter).length_eq]
    omega

theorem xorBytes_xorBytes {a b : Bytes} (h : a.length ≤ b.length) :
    xorBytes (xorBytes a b) b = a := by
  induction a generalizing b with
  | nil => rfl
  | cons x a ih =>
    cases b with
    | nil => simp at h
    | cons y b =>
      simp only [xorBytes, List.zipWith_cons_cons, List.cons.injEq] at ih ⊢
      exact ⟨by rw [UInt8.xor_assoc, UInt8.xor_self, UInt8.xor_zero], ih (by simpa using h)⟩

@[simp] theorem apply_apply (key : Octets 32) (nonce : Octets 12) (counter : Nat)
    (message : Bytes) : apply key nonce counter (apply key nonce counter message) = message := by
  induction message using chunks_induction (n := 64) (by omega) generalizing counter with
  | nil => rfl
  | step l hl ih =>
    have hx : (xorBytes (l.take 64) (block key nonce counter).bytes).length =
        (l.take 64).length := by
      simp [xorBytes, (block key nonce counter).length_eq]
    have happ : apply key nonce counter l =
        xorBytes (l.take 64) (block key nonce counter).bytes ++
          apply key nonce (counter + 1) (l.drop 64) := by
      rw [apply, chunks_of_ne_nil (by omega) hl, applyFrom]; rfl
    have hpos : 0 < l.length := List.length_pos_iff.2 hl
    have hne : apply key nonce counter l ≠ [] := by
      rw [← List.length_pos_iff, length_apply]; exact hpos
    rw [apply, chunks_of_ne_nil (by omega) hne, applyFrom]
    have htail : (apply key nonce counter l).drop 64 =
        apply key nonce (counter + 1) (l.drop 64) := by
      by_cases h64 : 64 ≤ l.length
      · rw [happ, List.drop_append_of_le_length (by rw [hx, List.length_take]; omega),
          List.drop_of_length_le (by rw [hx, List.length_take]; omega), List.nil_append]
      · rw [List.drop_of_length_le (by rw [length_apply]; omega),
          List.drop_of_length_le (show l.length ≤ 64 by omega)]
        rfl
    have hhead : (apply key nonce counter l).take 64 =
        xorBytes (l.take 64) (block key nonce counter).bytes := by
      by_cases h64 : 64 ≤ l.length
      · rw [happ, List.take_append_of_le_length (by rw [hx, List.length_take]; omega),
          List.take_of_length_le (by rw [hx, List.length_take]; omega)]
      · rw [List.take_of_length_le (by rw [length_apply]; omega), happ,
          List.drop_of_length_le (show l.length ≤ 64 by omega)]
        simp [apply, applyFrom]
    rw [htail, hhead, xorBytes_xorBytes (by
      rw [(block key nonce counter).length_eq, List.length_take]; omega)]
    show l.take 64 ++ apply key nonce (counter + 1) _ = l
    rw [ih, List.take_append_drop]

end HomeKit.ChaCha20
