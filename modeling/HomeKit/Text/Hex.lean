import HomeKit.Bytes

/-!
# Hexadecimal text

Two digits a byte, the high half first. `encode` writes lower-case digits, `decode` reads either
case and says what is wrong otherwise; it reads back what `encode` writes (`decode_encode`).
-/

namespace HomeKit.Text.Hex

def digit (n : UInt8) : Char :=
  if n < 10 then Char.ofNat (n.toNat + 48) else Char.ofNat (n.toNat + 87)

def value? (b : UInt8) : Option UInt8 :=
  if 48 ≤ b ∧ b ≤ 57 then some (b - 48)
  else if 97 ≤ b ∧ b ≤ 102 then some (b - 87)
  else if 65 ≤ b ∧ b ≤ 70 then some (b - 55)
  else none

def encodeChars (b : Bytes) : List Char :=
  b.flatMap fun x => [digit (x / 16), digit (x % 16)]

def encode (b : Bytes) : String :=
  String.ofList (encodeChars b)

inductive Fault where
  | oddLength
  | badDigit (byte : UInt8) (position : Nat)
  deriving DecidableEq, Repr

/-- The bytes of pairs of digits, the first of which stands at `position`. -/
def decodePairs (position : Nat) : Bytes → Except Fault Bytes
  | high :: low :: rest =>
    match value? high, value? low with
    | none, _ => .error (.badDigit high position)
    | some _, none => .error (.badDigit low (position + 1))
    | some h, some l => (decodePairs (position + 2) rest).map ((16 * h + l) :: ·)
  | _ => .ok []

def decodeBytes (digits : Bytes) : Except Fault Bytes :=
  if digits.length % 2 = 1 then .error .oddLength else decodePairs 0 digits

def decode (s : String) : Except Fault Bytes :=
  decodeBytes (utf8 s)

theorem utf8_ofList_of_ascii {cs : List Char} (h : ∀ c ∈ cs, c.toNat < 128) :
    utf8 (String.ofList cs) = cs.map fun c => UInt8.ofNat c.toNat := by
  rw [utf8_ofList]
  induction cs with
  | nil => rfl
  | cons c cs ih =>
    rw [List.flatMap_cons, List.map_cons, utf8EncodeChar_of_lt (h c (by simp)),
      ih fun d hd => h d (by simp [hd])]
    rfl

theorem digit_high (x : UInt8) :
    (digit (x / 16)).toNat < 128 ∧ value? (UInt8.ofNat (digit (x / 16)).toNat) = some (x / 16) :=
  (by decide +kernel : ∀ n : Fin 256, (digit (UInt8.ofFin n / 16)).toNat < 128 ∧
    value? (UInt8.ofNat (digit (UInt8.ofFin n / 16)).toNat) = some (UInt8.ofFin n / 16)) x.toFin

theorem digit_low (x : UInt8) :
    (digit (x % 16)).toNat < 128 ∧ value? (UInt8.ofNat (digit (x % 16)).toNat) = some (x % 16) :=
  (by decide +kernel : ∀ n : Fin 256, (digit (UInt8.ofFin n % 16)).toNat < 128 ∧
    value? (UInt8.ofNat (digit (UInt8.ofFin n % 16)).toNat) = some (UInt8.ofFin n % 16)) x.toFin

theorem halves (x : UInt8) : 16 * (x / 16) + x % 16 = x :=
  (by decide +kernel : ∀ n : Fin 256,
    16 * (UInt8.ofFin n / 16) + UInt8.ofFin n % 16 = UInt8.ofFin n) x.toFin

theorem utf8_encode (b : Bytes) :
    utf8 (encode b) = (encodeChars b).map fun c => UInt8.ofNat c.toNat := by
  refine utf8_ofList_of_ascii fun c hc => ?_
  simp only [encodeChars, List.mem_flatMap, List.mem_cons, List.not_mem_nil, or_false] at hc
  obtain ⟨x, -, rfl | rfl⟩ := hc
  · exact (digit_high x).1
  · exact (digit_low x).1

theorem length_encodeChars (b : Bytes) : (encodeChars b).length = 2 * b.length := by
  induction b with
  | nil => rfl
  | cons x b ih =>
    simp only [encodeChars, List.flatMap_cons, List.length_append, List.length_cons,
      List.length_nil] at ih ⊢
    omega

@[simp] theorem decode_encode (b : Bytes) : decode (encode b) = .ok b := by
  have hpairs : ∀ n, decodePairs n ((encodeChars b).map fun c => UInt8.ofNat c.toNat) = .ok b := by
    induction b with
    | nil => intro n; simp [encodeChars, decodePairs]
    | cons x b ih =>
      intro n
      simp only [encodeChars] at ih
      simp only [encodeChars, List.flatMap_cons, List.cons_append, List.nil_append,
        List.map_cons, decodePairs, (digit_high x).2, (digit_low x).2, halves, ih]
      rfl
  simp [decode, decodeBytes, utf8_encode, hpairs, length_encodeChars]

end HomeKit.Text.Hex
