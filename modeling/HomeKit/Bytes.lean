import HomeKit.Chunks

/-!
# Byte strings

The protocol's data are byte strings: `Bytes`, and `Octets n` where the protocol fixes the length
(keys, nonces, seeds). Numbers enter them in one of two orders: `littleEndian` and `bigEndian`
write a number into a given width, `ofLittleEndian` and `ofBigEndian` read one back. The two
orders are reverses of each other (`bigEndian_eq_reverse`), and a number that fits its width is
read back as it was written (`ofLittleEndian_littleEndian`, `littleEndian_ofLittleEndian`).

Texts enter them in UTF-8 (`utf8`, `text?`), in which a byte below 128 stands for its own character
and is no part of another one (`mem_utf8_iff`).
-/

namespace HomeKit

abbrev Bytes := List UInt8

/-- A byte string of exactly `n` bytes. -/
structure Octets (n : Nat) where
  bytes : Bytes
  length_eq : bytes.length = n
  deriving DecidableEq

namespace Octets

@[ext] theorem ext {n : Nat} {a b : Octets n} (h : a.bytes = b.bytes) : a = b := by
  cases a; cases b; simp_all

def ofBytes? (n : Nat) (b : Bytes) : Option (Octets n) :=
  if h : b.length = n then some ⟨b, h⟩ else none

theorem ofBytes?_eq_some_iff {n : Nat} {b : Bytes} {o : Octets n} :
    ofBytes? n b = some o ↔ o.bytes = b := by
  unfold ofBytes?
  split
  · simp [Octets.ext_iff, eq_comm]
  · rename_i h
    simp only [reduceCtorEq, false_iff]
    rintro rfl
    exact h o.length_eq

@[simp] theorem ofBytes?_bytes {n : Nat} (o : Octets n) : ofBytes? n o.bytes = some o :=
  ofBytes?_eq_some_iff.2 rfl

def ofPrefix (n : Nat) (b : Bytes) (h : n ≤ b.length) : Octets n :=
  ⟨b.take n, by simp [h]⟩

def replicate (n : Nat) (b : UInt8) : Octets n :=
  ⟨List.replicate n b, by simp⟩

end Octets

/-! ## Numbers in bytes -/

/-- A number in `width` bytes, least significant byte first; higher digits are dropped. -/
def littleEndian : (width : Nat) → Nat → Bytes
  | 0, _ => []
  | width + 1, n => UInt8.ofNat n :: littleEndian width (n / 256)

def ofLittleEndian : Bytes → Nat
  | [] => 0
  | b :: rest => b.toNat + 256 * ofLittleEndian rest

/-- A number in `width` bytes, most significant byte first; higher digits are dropped. -/
def bigEndian (width n : Nat) : Bytes :=
  (littleEndian width n).reverse

/-- The number `n` continued by more bytes, most significant byte first. -/
def continueBigEndian (n : Nat) : Bytes → Nat
  | [] => n
  | x :: rest => continueBigEndian (256 * n + x.toNat) rest

/-- The number that a byte string denotes, most significant byte first. It is read in pieces, so
that a long string takes few steps on long numbers (`ofBigEndian_eq_continueBigEndian`). -/
def ofBigEndian (b : Bytes) : Nat :=
  (chunks 512 b).foldl (fun n piece => n <<< (8 * piece.length) + continueBigEndian 0 piece) 0

theorem bigEndian_eq_reverse (width n : Nat) : bigEndian width n = (littleEndian width n).reverse :=
  rfl

@[simp] theorem length_littleEndian (width n : Nat) : (littleEndian width n).length = width := by
  induction width generalizing n with
  | zero => rfl
  | succ width ih => simp [littleEndian, ih]

@[simp] theorem length_bigEndian (width n : Nat) : (bigEndian width n).length = width := by
  simp [bigEndian]

/-- A number is read back without the digits that were dropped. -/
theorem ofLittleEndian_littleEndian_eq_mod (width n : Nat) :
    ofLittleEndian (littleEndian width n) = n % Nat.pow 256 width := by
  induction width generalizing n with
  | zero => simp [littleEndian, ofLittleEndian, Nat.mod_one]
  | succ width ih =>
    have hp : Nat.pow 256 (width + 1) = 256 * Nat.pow 256 width := Nat.mul_comm _ _
    rw [littleEndian, ofLittleEndian, ih, UInt8.toNat_ofNat', hp, Nat.mod_mul]

theorem ofLittleEndian_littleEndian {width n : Nat} (h : n < Nat.pow 256 width) :
    ofLittleEndian (littleEndian width n) = n := by
  rw [ofLittleEndian_littleEndian_eq_mod, Nat.mod_eq_of_lt h]

theorem ofLittleEndian_lt (b : Bytes) : ofLittleEndian b < Nat.pow 256 b.length := by
  induction b with
  | nil => exact Nat.one_pos
  | cons x b ih =>
    have hbyte := x.toNat_lt
    have hp : Nat.pow 256 (b.length + 1) = 256 * Nat.pow 256 b.length := Nat.mul_comm _ _
    rw [ofLittleEndian, List.length_cons, hp]
    omega

theorem littleEndian_ofLittleEndian (b : Bytes) : littleEndian b.length (ofLittleEndian b) = b := by
  induction b with
  | nil => rfl
  | cons x b ih =>
    have hbyte := x.toNat_lt
    have hlow : UInt8.ofNat (x.toNat + 256 * ofLittleEndian b) = x := by
      rw [← UInt8.toNat_inj, UInt8.toNat_ofNat']
      omega
    have hhigh : (x.toNat + 256 * ofLittleEndian b) / 256 = ofLittleEndian b := by omega
    rw [List.length_cons, ofLittleEndian, littleEndian, hlow, hhigh, ih]

theorem ofLittleEndian_append (a b : Bytes) :
    ofLittleEndian (a ++ b) = ofLittleEndian a + Nat.pow 256 a.length * ofLittleEndian b := by
  induction a with
  | nil => simp [ofLittleEndian]
  | cons x a ih =>
    have hp : Nat.pow 256 (a.length + 1) = 256 * Nat.pow 256 a.length := Nat.mul_comm _ _
    simp only [List.cons_append, ofLittleEndian, ih, List.length_cons, hp, Nat.mul_add]
    rw [Nat.mul_assoc]
    omega

theorem continueBigEndian_eq (n : Nat) (b : Bytes) :
    continueBigEndian n b = ofLittleEndian b.reverse + Nat.pow 256 b.length * n := by
  induction b generalizing n with
  | nil => simp [continueBigEndian, ofLittleEndian]
  | cons x b ih =>
    have hp : Nat.pow 256 (b.length + 1) = Nat.pow 256 b.length * 256 := rfl
    simp only [continueBigEndian, ih, List.reverse_cons, ofLittleEndian_append, List.length_reverse,
      ofLittleEndian, List.length_cons, hp, Nat.mul_add]
    rw [Nat.mul_assoc (Nat.pow 256 b.length) 256 n]
    omega

theorem continueBigEndian_append (n : Nat) (a b : Bytes) :
    continueBigEndian n (a ++ b) = continueBigEndian (continueBigEndian n a) b := by
  induction a generalizing n with
  | nil => rfl
  | cons x a ih => exact ih _

theorem shiftLeft_add_continueBigEndian (n : Nat) (b : Bytes) :
    n <<< (8 * b.length) + continueBigEndian 0 b = continueBigEndian n b := by
  rw [continueBigEndian_eq n, continueBigEndian_eq 0, Nat.shiftLeft_eq, Nat.pow_mul]
  show n * Nat.pow 256 b.length + (ofLittleEndian b.reverse + Nat.pow 256 b.length * 0) = _
  rw [Nat.mul_zero, Nat.mul_comm n]
  omega

theorem ofBigEndian_eq_continueBigEndian (b : Bytes) : ofBigEndian b = continueBigEndian 0 b := by
  suffices h : ∀ n, (chunks 512 b).foldl
      (fun n piece => n <<< (8 * piece.length) + continueBigEndian 0 piece) n =
        continueBigEndian n b from h 0
  induction b using chunks_induction (n := 512) (by omega) with
  | nil => intro n; rfl
  | step b hb ih =>
    intro n
    rw [chunks_of_ne_nil (by omega) hb, List.foldl_cons, shiftLeft_add_continueBigEndian, ih,
      ← continueBigEndian_append, List.take_append_drop]

theorem ofBigEndian_eq_ofLittleEndian_reverse (b : Bytes) :
    ofBigEndian b = ofLittleEndian b.reverse := by
  rw [ofBigEndian_eq_continueBigEndian, continueBigEndian_eq, Nat.mul_zero, Nat.add_zero]

theorem ofBigEndian_bigEndian_eq_mod (width n : Nat) :
    ofBigEndian (bigEndian width n) = n % Nat.pow 256 width := by
  rw [ofBigEndian_eq_ofLittleEndian_reverse, bigEndian, List.reverse_reverse,
    ofLittleEndian_littleEndian_eq_mod]

theorem ofBigEndian_bigEndian {width n : Nat} (h : n < Nat.pow 256 width) :
    ofBigEndian (bigEndian width n) = n := by
  rw [ofBigEndian_bigEndian_eq_mod, Nat.mod_eq_of_lt h]

theorem bigEndian_ofBigEndian (b : Bytes) : bigEndian b.length (ofBigEndian b) = b := by
  rw [ofBigEndian_eq_ofLittleEndian_reverse, bigEndian, ← List.length_reverse,
    littleEndian_ofLittleEndian, List.reverse_reverse]

theorem ofBigEndian_lt {b : Bytes} {width : Nat} (h : b.length ≤ width) :
    ofBigEndian b < Nat.pow 256 width := by
  have hlt := ofLittleEndian_lt b.reverse
  rw [List.length_reverse, ← ofBigEndian_eq_ofLittleEndian_reverse] at hlt
  exact Nat.lt_of_lt_of_le hlt (Nat.pow_le_pow_right (by decide) h)

theorem ofBigEndian_append (a b : Bytes) :
    ofBigEndian (a ++ b) = Nat.pow 256 b.length * ofBigEndian a + ofBigEndian b := by
  rw [ofBigEndian_eq_ofLittleEndian_reverse, List.reverse_append, ofLittleEndian_append,
    List.length_reverse, ← ofBigEndian_eq_ofLittleEndian_reverse,
    ← ofBigEndian_eq_ofLittleEndian_reverse, Nat.add_comm]

/-- The fewest bytes that hold a number; zero takes one. -/
def byteWidth (n : Nat) : Nat :=
  Nat.log2 n / 8 + 1

/-- A number without leading zero bytes, most significant byte first; zero is one zero byte. -/
def shortBigEndian (n : Nat) : Bytes :=
  bigEndian (byteWidth n) n

theorem lt_pow_byteWidth (n : Nat) : n < Nat.pow 256 (byteWidth n) := by
  have hlog : n < 2 ^ (n.log2 + 1) := Nat.lt_log2_self
  have hbits : n.log2 + 1 ≤ 8 * byteWidth n := by
    unfold byteWidth
    omega
  have hpow : Nat.pow 256 (byteWidth n) = 2 ^ (8 * byteWidth n) := by
    rw [Nat.pow_mul]
    rfl
  rw [hpow]
  exact Nat.lt_of_lt_of_le hlog (Nat.pow_le_pow_right (by decide) hbits)

theorem ofBigEndian_shortBigEndian (n : Nat) : ofBigEndian (shortBigEndian n) = n :=
  ofBigEndian_bigEndian (lt_pow_byteWidth n)

theorem ofBigEndian_replicate_zero (count : Nat) : ofBigEndian (List.replicate count 0) = 0 := by
  rw [ofBigEndian_eq_ofLittleEndian_reverse, List.reverse_replicate]
  induction count with
  | zero => rfl
  | succ count ih => rw [List.replicate_succ, ofLittleEndian, ih]; rfl

/-- Byte strings of one length that denote the same number are equal. -/
theorem eq_of_ofBigEndian_eq {a b : Bytes} (hlength : a.length = b.length)
    (h : ofBigEndian a = ofBigEndian b) : a = b := by
  rw [← bigEndian_ofBigEndian a, h, hlength, bigEndian_ofBigEndian]

/-! ## Bytewise operations -/

/-- The bytewise exclusive or of two strings, as long as the shorter one. -/
def xorBytes (a b : Bytes) : Bytes :=
  List.zipWith (· ^^^ ·) a b

/-! ## Text -/

def utf8 (s : String) : Bytes :=
  s.toUTF8.data.toList

theorem length_utf8 (s : String) : (utf8 s).length = s.utf8ByteSize := rfl

def text? (b : Bytes) : Option String :=
  String.fromUTF8? ⟨b.toArray⟩

@[simp] theorem text?_utf8 (s : String) : text? (utf8 s) = some s := by
  have h : (⟨s.toUTF8.data.toList.toArray⟩ : ByteArray) = s.toByteArray := rfl
  simp only [text?, utf8, h, String.fromUTF8?, s.isValidUTF8]
  rfl

theorem utf8_inj {s t : String} : utf8 s = utf8 t ↔ s = t :=
  ⟨fun h => Option.some.inj (by rw [← text?_utf8 s, ← text?_utf8 t, h]), fun h => h ▸ rfl⟩

theorem utf8_ofList (cs : List Char) :
    utf8 (String.ofList cs) = cs.flatMap String.utf8EncodeChar := by
  show (List.utf8Encode cs).data.toList = _
  simp [List.utf8Encode]

theorem utf8_eq_flatMap (s : String) : utf8 s = s.toList.flatMap String.utf8EncodeChar := by
  rw [← utf8_ofList, String.ofList_toList]

@[simp] theorem utf8_append (s t : String) : utf8 (s ++ t) = utf8 s ++ utf8 t := by
  simp only [utf8_eq_flatMap, String.toList_append, List.flatMap_append]

theorem utf8_join (texts : List String) : utf8 (String.join texts) = texts.flatMap utf8 := by
  induction texts with
  | nil => rfl
  | cons s texts ih => rw [String.join_cons, utf8_append, ih, List.flatMap_cons]

theorem utf8EncodeChar_of_lt {c : Char} (h : c.toNat < 128) :
    String.utf8EncodeChar c = [UInt8.ofNat c.toNat] := by
  have : c.toNat ≤ 127 := by omega
  simp only [String.utf8EncodeChar, Char.toNat_val, this, if_true]

/-- A character of more than one byte has no byte below 128. -/
theorem le_of_mem_utf8EncodeChar {c : Char} {b : UInt8} (h : ¬c.toNat < 128)
    (hb : b ∈ String.utf8EncodeChar c) : 128 ≤ b.toNat := by
  have hlarge : ¬c.toNat ≤ 127 := by omega
  simp only [String.utf8EncodeChar, Char.toNat_val, if_neg hlarge] at hb
  split at hb
  · simp only [List.mem_cons, List.not_mem_nil, or_false] at hb
    rcases hb with rfl | rfl <;> rw [UInt8.toNat_ofNat'] <;> omega
  · split at hb
    · simp only [List.mem_cons, List.not_mem_nil, or_false] at hb
      rcases hb with rfl | rfl | rfl <;> rw [UInt8.toNat_ofNat'] <;> omega
    · simp only [List.mem_cons, List.not_mem_nil, or_false] at hb
      rcases hb with rfl | rfl | rfl | rfl <;> rw [UInt8.toNat_ofNat'] <;> omega

/-- A byte below 128 stands for itself as a character and is no part of another one. -/
theorem mem_utf8_iff {c : Char} {s : String} (h : c.toNat < 128) :
    UInt8.ofNat c.toNat ∈ utf8 s ↔ c ∈ s.toList := by
  rw [utf8_eq_flatMap, List.mem_flatMap]
  constructor
  · rintro ⟨d, hd, hb⟩
    by_cases hsmall : d.toNat < 128
    · rw [utf8EncodeChar_of_lt hsmall, List.mem_singleton] at hb
      have heq := congrArg UInt8.toNat hb
      rw [UInt8.toNat_ofNat', UInt8.toNat_ofNat'] at heq
      have hcd : c = d := Char.toNat_inj.1 (by omega)
      rwa [hcd]
    · have := le_of_mem_utf8EncodeChar hsmall hb
      rw [UInt8.toNat_ofNat'] at this
      omega
  · intro hc
    exact ⟨c, hc, by rw [utf8EncodeChar_of_lt h]; exact List.mem_singleton_self _⟩

theorem utf8_ne_nil {text : String} (h : text ≠ "") : utf8 text ≠ [] := by
  intro hnil
  exact h (utf8_inj.1 hnil)

theorem text?_eq_some_iff {b : Bytes} {s : String} : text? b = some s ↔ b = utf8 s := by
  constructor
  · intro h
    simp only [text?, String.fromUTF8?] at h
    split at h
    · cases h; rfl
    · cases h
  · rintro rfl
    exact text?_utf8 s

end HomeKit
