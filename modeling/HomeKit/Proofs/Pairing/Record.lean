import HomeKit.Pairing.IdentityStore
import HomeKit.Proofs.Json.Lexing

/-!
# Records of controllers

A controller is stored as a record under a key that is made of its identifier. The record is read
back as the controller (`PairedController.decode_encode`), whatever its identifier; two controllers
have different keys unless they have one identifier (`IdentityStore.recordKey_inj`), and every such
key is one that storages take (`IdentityStore.isKey_recordKey`).
-/

namespace HomeKit

namespace PairedController

open Json (Token printString)

/-! ## Reading a record -/

/-- The tokens of a record and how they are spelled. -/
def recordPieces (controller : PairedController) : List (Bytes × Token) :=
  let key := Text.Hex.encode controller.publicKey.bytes
  [([0x7b], .beginObject), (printString "id", .string (some "id")), ([0x3a], .colon),
    (printString controller.id, .string (some controller.id)), ([0x2c], .comma),
    (printString "public_key", .string (some "public_key")), ([0x3a], .colon),
    (printString key, .string (some key)), ([0x2c], .comma),
    (printString "permissions", .string (some "permissions")), ([0x3a], .colon),
    (printString controller.permissions.name, .string (some controller.permissions.name)),
    ([0x7d], .endObject)]

theorem encode_eq_flatMap (controller : PairedController) :
    controller.encode = controller.recordPieces.flatMap (·.1) := by
  simp [encode, recordPieces, Json.commaSeparated]

theorem recordPieces_spells (controller : PairedController) :
    ∀ piece ∈ controller.recordPieces, Token.Spells piece.1 piece.2 := by
  intro piece hpiece
  simp only [recordPieces, List.mem_cons, List.not_mem_nil, or_false] at hpiece
  rcases hpiece with rfl | rfl | rfl | rfl | rfl | rfl | rfl | rfl | rfl | rfl | rfl | rfl | rfl
  · exact Token.spells_beginObject
  · exact Token.spells_string _
  · exact Token.spells_colon
  · exact Token.spells_string _
  · exact Token.spells_comma
  · exact Token.spells_string _
  · exact Token.spells_colon
  · exact Token.spells_string _
  · exact Token.spells_comma
  · exact Token.spells_string _
  · exact Token.spells_colon
  · exact Token.spells_string _
  · exact Token.spells_endObject

/-- The record is an object with three texts. -/
theorem parse?_encode (controller : PairedController) :
    Json.Tree.parse? controller.encode = some (.object
      [(some "id", .string (some controller.id)),
        (some "public_key", .string (some (Text.Hex.encode controller.publicKey.bytes))),
        (some "permissions", .string (some controller.permissions.name))]) := by
  rw [Json.Tree.parse?, encode_eq_flatMap, Token.tokens?_spelled controller.recordPieces_spells]
  rfl

/-- A record is read back as its controller. -/
theorem decode_encode (controller : PairedController) :
    decode controller.encode = .ok controller := by
  have hfields : (Json.Tree.parse? controller.encode).bind fields? =
      some (controller.id, Text.Hex.encode controller.publicKey.bytes, controller.permissions) := by
    rw [parse?_encode]
    cases controller.permissions with
    | regular => rfl
    | admin => rfl
  rw [decode, hfields]
  simp

end PairedController

/-! ## Keys of records -/

namespace IdentityStore

theorem isKeyChar_digit (b : UInt8) :
    isKeyChar (Text.Hex.digit (b / 16)) = true ∧ isKeyChar (Text.Hex.digit (b % 16)) = true :=
  (by decide +kernel : ∀ n : Fin 256, isKeyChar (Text.Hex.digit (UInt8.ofFin n / 16)) = true ∧
    isKeyChar (Text.Hex.digit (UInt8.ofFin n % 16)) = true) b.toFin

theorem toList_recordKey (id : String) :
    (recordKey id).toList = recordPrefix.toList ++ Text.Hex.encodeChars (utf8 id) := by
  simp [recordKey, Text.Hex.encode]

theorem isPrefixOf_recordKey (id : String) :
    recordPrefix.toList.isPrefixOf (recordKey id).toList = true := by
  rw [toList_recordKey, List.isPrefixOf_iff_prefix]
  exact List.prefix_append ..

/-- Storages take the key of every record. -/
theorem isKey_recordKey (id : String) : isKey (recordKey id) = true := by
  have hchars : ∀ c ∈ Text.Hex.encodeChars (utf8 id), isKeyChar c = true := by
    intro c hc
    simp only [Text.Hex.encodeChars, List.mem_flatMap, List.mem_cons, List.not_mem_nil,
      or_false] at hc
    obtain ⟨b, -, rfl | rfl⟩ := hc
    · exact (isKeyChar_digit b).1
    · exact (isKeyChar_digit b).2
  have hmarked : recordPrefix.toList = 'p' :: "airing.".toList := rfl
  rw [isKey, toList_recordKey, hmarked]
  simp only [List.cons_append, List.isEmpty_cons, List.head?_cons, List.all_cons, List.all_append]
  rw [List.all_eq_true.2 hchars]
  rfl

/-- The key of a record tells the identifier. -/
theorem recordKey_inj {id other : String} : recordKey id = recordKey other ↔ id = other := by
  constructor
  · intro h
    have hchars := congrArg String.toList h
    rw [toList_recordKey, toList_recordKey, List.append_cancel_left_eq] at hchars
    have htexts : Text.Hex.encode (utf8 id) = Text.Hex.encode (utf8 other) :=
      congrArg String.ofList hchars
    have hdecoded := congrArg Text.Hex.decode htexts
    rw [Text.Hex.decode_encode, Text.Hex.decode_encode] at hdecoded
    exact utf8_inj.1 (Except.ok.inj hdecoded)
  · rintro rfl
    rfl

theorem recordKey_ne_identifierKey (id : String) : recordKey id ≠ identifierKey := by
  intro h
  have hmarked := isPrefixOf_recordKey id
  rw [h] at hmarked
  revert hmarked
  decide

theorem recordKey_ne_seedKey (id : String) : recordKey id ≠ seedKey := by
  intro h
  have hmarked := isPrefixOf_recordKey id
  rw [h] at hmarked
  revert hmarked
  decide

end IdentityStore

end HomeKit
