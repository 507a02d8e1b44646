import HomeKit.Proofs.Database.Documents
import Mathlib.Data.List.Induction

/-!
# Written values and their formats

What values a format has is said by `Conforms`. A write stores its value in the form of the format
(`normal`) if that is a value of the format, or if it is a number that is too large for it
(`Exceeds`): formats for unsigned numbers take each other's numbers. All other values are refused
(`fit_eq_some_iff`).

Writes change the values of characteristics only, so what holds of one write to a document holds of
every write to it, whatever was written before (`stored_conforms_iff`).
-/

namespace HomeKit.AttributeDatabase

variable {database before after : AttributeDatabase} {id : CharacteristicId} {format : String}
  {value stored : Json}

/-! ## Formats -/

/-- The bits of a format for unsigned numbers. -/
def unsignedWidth? : String → Option Nat
  | "uint8" => some 8
  | "uint16" => some 16
  | "uint32" => some 32
  | "uint64" => some 64
  | _ => none

/-- The values of a format. -/
inductive Conforms : String → Json → Prop where
  | bool (b : Bool) : Conforms "bool" (.bool b)
  | unsigned {format : String} {width : Nat} {n : UInt64}
      (hformat : unsignedWidth? format = some width) (hn : n.toNat < Nat.pow 2 width) :
      Conforms format (.number (.natural n))
  | int {n : UInt64} (hn : n.toNat < Nat.pow 2 63) : Conforms "int" (.number (.natural n))
  | negativeInt (n : Int64) : Conforms "int" (.number (.negative n))
  | float (n : Json.Number) : Conforms "float" (.number n)
  | text {format : String} (hformat : format ∈ ["string", "data", "tlv8"]) (s : String) :
      Conforms format (.string s)

/-- The value is a number that does not fit into the bits of its format. -/
inductive Exceeds : String → Json → Prop where
  | unsigned {format : String} {width : Nat} {n : UInt64}
      (hformat : unsignedWidth? format = some width) (hn : Nat.pow 2 width ≤ n.toNat) :
      Exceeds format (.number (.natural n))

/-- A value in the form of a format: zero and one are truth values. -/
def normal (format : String) : Json → Json
  | .number n =>
    if format = "bool" ∧ n = .natural 0 then .bool false
    else if format = "bool" ∧ n = .natural 1 then .bool true
    else .number n
  | value => value

theorem mem_unsigned_iff :
    format ∈ ["uint8", "uint16", "uint32", "uint64"] ↔
      ∃ width, unsignedWidth? format = some width := by
  unfold unsignedWidth?
  split <;> simp_all

/-- No number is in range and too large for it. -/
theorem Exceeds.not_conforms (h : Exceeds format value) : ¬ Conforms format value := by
  cases h with
  | unsigned hformat hn =>
    intro hconforms
    cases hconforms with
    | unsigned hformat' hn' =>
      rw [hformat] at hformat'
      cases hformat'
      exact absurd hn' (Nat.not_lt.2 hn)
    | int => cases hformat
    | float => cases hformat

/-- The value is one of the format, or a number that is too large for it. -/
def Takes (format : String) (value : Json) : Prop :=
  Conforms format value ∨ Exceeds format value

theorem takes_bool_iff {b : Bool} : Takes format (.bool b) ↔ format = "bool" := by
  constructor
  · rintro (hconforms | hexceeds)
    · cases hconforms
      rfl
    · cases hexceeds
  · rintro rfl
    exact Or.inl (.bool b)

theorem takes_string_iff {s : String} :
    Takes format (.string s) ↔ format ∈ ["string", "data", "tlv8"] := by
  constructor
  · rintro (hconforms | hexceeds)
    · cases hconforms with
      | text hformat => exact hformat
    · cases hexceeds
  · exact fun hformat => Or.inl (.text hformat s)

theorem takes_number_iff {n : Json.Number} :
    Takes format (.number n) ↔
      format ∈ ["uint8", "uint16", "uint32", "uint64"] ∧ n.isNatural = true ∨
        format = "int" ∧ n.isInt64 = true ∨ format = "float" := by
  rw [mem_unsigned_iff]
  constructor
  · rintro (hconforms | hexceeds)
    · cases hconforms with
      | unsigned hformat => exact Or.inl ⟨⟨_, hformat⟩, rfl⟩
      | int hn => exact Or.inr (Or.inl ⟨rfl, decide_eq_true hn⟩)
      | negativeInt n => exact Or.inr (Or.inl ⟨rfl, rfl⟩)
      | float n => exact Or.inr (Or.inr rfl)
    · cases hexceeds with
      | unsigned hformat => exact Or.inl ⟨⟨_, hformat⟩, rfl⟩
  · rintro (⟨⟨width, hformat⟩, hn⟩ | ⟨rfl, hn⟩ | rfl)
    · cases n with
      | natural n =>
        rcases Nat.lt_or_ge n.toNat (Nat.pow 2 width) with hlt | hge
        · exact Or.inl (.unsigned hformat hlt)
        · exact Or.inr (.unsigned hformat hge)
      | _ => cases hn
    · cases n with
      | natural n => exact Or.inl (.int (of_decide_eq_true hn))
      | negative n => exact Or.inl (.negativeInt n)
      | float x => cases hn
    · exact Or.inl (.float n)

theorem Takes.isScalar (h : Takes format value) :
    value ≠ .null ∧ (∀ items, value ≠ .array items) ∧ ∀ members, value ≠ .object members := by
  rcases h with hconforms | hexceeds
  · cases hconforms <;> exact ⟨nofun, nofun, nofun⟩
  · cases hexceeds
    exact ⟨nofun, nofun, nofun⟩

/-! ## Values that fit -/

theorem ite_eq_some_iff {p : Prop} [Decidable p] (h : p ↔ Takes format value) :
    (if p then some value else none) = some stored ↔ stored = value ∧ Takes format stored := by
  rw [Option.ite_none_right_eq_some, Option.some.injEq]
  constructor
  · rintro ⟨hp, rfl⟩
    exact ⟨rfl, h.1 hp⟩
  · rintro ⟨rfl, htakes⟩
    exact ⟨h.2 htakes, rfl⟩

theorem fit_number_of_ne (hbool : format ≠ "bool") (n : Json.Number) :
    fit format (.number n) =
      if format ∈ ["uint8", "uint16", "uint32", "uint64"] ∧ n.isNatural = true ∨
          format = "int" ∧ n.isInt64 = true ∨ format = "float" then some (.number n)
      else none := by
  simp only [fit, hbool, if_false, List.contains_iff_mem]
  by_cases hunsigned : format ∈ ["uint8", "uint16", "uint32", "uint64"]
  · have hint : format ≠ "int" := by
      rintro rfl
      revert hunsigned
      decide
    have hfloat : format ≠ "float" := by
      rintro rfl
      revert hunsigned
      decide
    simp only [hunsigned, hint, hfloat, if_true, true_and, false_and, or_false]
  · by_cases hint : format = "int"
    · subst hint
      simp only [hunsigned, if_true, if_false, true_and, false_and, false_or,
        show ("int" : String) ≠ "float" by decide, or_false]
    · simp only [hunsigned, hint, if_false, false_and, false_or]

/-- A value fits if its form is one that the format takes. -/
theorem fit_eq_some_iff :
    fit format value = some stored ↔ stored = normal format value ∧ Takes format stored := by
  cases value with
  | bool b => exact ite_eq_some_iff takes_bool_iff.symm
  | string s => exact ite_eq_some_iff (List.contains_iff_mem.trans takes_string_iff.symm)
  | number n =>
    by_cases hbool : format = "bool"
    · subst hbool
      simp only [fit, normal, if_true, true_and]
      split
      · rw [Option.some.injEq, eq_comm]
        exact ⟨fun h => ⟨h, h ▸ takes_bool_iff.2 rfl⟩, And.left⟩
      · split
        · rw [Option.some.injEq, eq_comm]
          exact ⟨fun h => ⟨h, h ▸ takes_bool_iff.2 rfl⟩, And.left⟩
        · refine ⟨nofun, ?_⟩
          rintro ⟨rfl, htakes⟩
          rw [takes_number_iff] at htakes
          revert htakes
          simp
    · simp only [normal, hbool, false_and, if_false]
      rw [fit_number_of_ne hbool]
      exact ite_eq_some_iff takes_number_iff.symm
  | null => exact ⟨nofun, fun ⟨hstored, htakes⟩ => absurd hstored htakes.isScalar.1⟩
  | array items => exact ⟨nofun, fun ⟨hstored, htakes⟩ => absurd hstored (htakes.isScalar.2.1 _)⟩
  | object members => exact ⟨nofun, fun ⟨hstored, htakes⟩ => absurd hstored (htakes.isScalar.2.2 _)⟩

/-! ## One write -/

/-- The format that a document declares for a characteristic. -/
def declaredFormat? (document : Json) (id : CharacteristicId) : Option String :=
  (find? document id).map formatOf

/-- A value is stored: it is the characteristic's value, and nothing else changes. -/
structure Stores (id : CharacteristicId) (stored : Json) (before after : AttributeDatabase) :
    Prop where
  characteristic : find? after.document id =
    (find? before.document id).map fun characteristic => characteristic.set "value" stored
  others : ∀ other, id ≠ other → find? after.document other = find? before.document other
  busy : after.busy = before.busy

/-- Access to the characteristic may write its value. -/
def IsWritable (database : AttributeDatabase) (id : CharacteristicId) : Prop :=
  ∃ characteristic, database.access id = .ok characteristic ∧ permits characteristic "pw" = true

theorem find?_of_access {characteristic : Json} (h : database.access id = .ok characteristic) :
    find? database.document id = some characteristic := by
  unfold access at h
  split at h
  · cases h
  · split at h
    · rename_i hfound
      cases h
      exact hfound
    · cases h

theorem stores_update (database : AttributeDatabase) (id : CharacteristicId) (stored : Json) :
    Stores id stored database
      { database with document := update database.document id fun c => c.set "value" stored } := by
  have hkeeps : KeepsNumber fun c => c.set "value" stored := keepsNumber_set (by decide) stored
  exact ⟨find?_update_self hkeeps, fun other hne => find?_update_of_ne hkeeps hne, rfl⟩

theorem write_of_access {characteristic : Json} (haccess : database.access id = .ok characteristic)
    (hpermits : permits characteristic "pw" = true) (value : Json) :
    database.write id value =
      match fit (formatOf characteristic) value with
      | none => .error .invalidValue
      | some stored =>
        if isIdentify characteristic && stored.bool? == some true then .ok database
        else .ok { database with
          document := update database.document id fun c => c.set "value" stored } := by
  unfold write
  rw [haccess]
  simp only [bind, Except.bind, hpermits, Bool.not_true, Bool.false_eq_true, if_false]
  rfl

theorem eq_bool_of_bool? {b : Bool} (h : value.bool? = some b) : value = .bool b := by
  cases value with
  | bool b' =>
    cases h
    rfl
  | _ => cases h

/-- A write that succeeds has found a characteristic that may be written and that the value fits.
The value is stored in the form of the format, unless it has the accessory identify itself. -/
theorem write_ok_cases (h : database.write id value = .ok after) :
    ∃ characteristic stored, database.access id = .ok characteristic ∧
      permits characteristic "pw" = true ∧ fit (formatOf characteristic) value = some stored ∧
      (isIdentify characteristic = true ∧ stored = .bool true ∧ after = database ∨
        ¬ (isIdentify characteristic = true ∧ stored = .bool true) ∧
          after = { database with
            document := update database.document id fun c => c.set "value" stored }) := by
  cases haccess : database.access id with
  | error status =>
    unfold write at h
    rw [haccess] at h
    cases h
  | ok characteristic =>
    cases hpermits : permits characteristic "pw" with
    | false =>
      unfold write at h
      rw [haccess] at h
      simp only [bind, Except.bind, hpermits] at h
      cases h
    | true =>
      rw [write_of_access haccess hpermits] at h
      cases hfit : fit (formatOf characteristic) value with
      | none =>
        rw [hfit] at h
        cases h
      | some stored =>
        refine ⟨characteristic, stored, rfl, hpermits, hfit, ?_⟩
        simp only [hfit] at h
        split at h
        · rename_i hidentify
          rw [Bool.and_eq_true, beq_iff_eq] at hidentify
          cases h
          exact Or.inl ⟨hidentify.1, eq_bool_of_bool? hidentify.2, rfl⟩
        · rename_i hstored
          cases h
          refine Or.inr ⟨?_, rfl⟩
          rintro ⟨hidentify, rfl⟩
          rw [hidentify] at hstored
          exact hstored rfl

/-- A write that succeeds takes the value in the form of the declared format, and stores it, or has
the accessory identify itself. -/
theorem takes_of_write (h : database.write id value = .ok after) :
    ∃ format, declaredFormat? database.document id = some format ∧
      Takes format (normal format value) ∧
      (Stores id (normal format value) database after ∨
        after = database ∧ (find? database.document id).any isIdentify = true ∧
          normal format value = .bool true) := by
  obtain ⟨characteristic, stored, haccess, -, hfit, hcases⟩ := write_ok_cases h
  obtain ⟨rfl, htakes⟩ := fit_eq_some_iff.1 hfit
  have hfind := find?_of_access haccess
  refine ⟨formatOf characteristic, ?_, htakes, ?_⟩
  · rw [declaredFormat?, hfind, Option.map_some]
  · rcases hcases with ⟨hidentify, htrue, rfl⟩ | ⟨-, rfl⟩
    · refine Or.inr ⟨rfl, ?_, htrue⟩
      rw [hfind, Option.any_some, hidentify]
    · exact Or.inl (stores_update database id _)

/-- A write to a writable characteristic is refused for its value exactly if its form is not one
that the declared format takes. -/
theorem write_eq_invalidValue_iff {format : String} (hwritable : database.IsWritable id)
    (hformat : declaredFormat? database.document id = some format) :
    database.write id value = .error .invalidValue ↔ ¬ Takes format (normal format value) := by
  obtain ⟨characteristic, haccess, hpermits⟩ := hwritable
  rw [declaredFormat?, find?_of_access haccess, Option.map_some, Option.some.injEq] at hformat
  subst hformat
  rw [write_of_access haccess hpermits]
  cases hfit : fit (formatOf characteristic) value with
  | none =>
    simp only [true_iff]
    intro htakes
    rw [fit_eq_some_iff.2 ⟨rfl, htakes⟩] at hfit
    cases hfit
  | some stored =>
    obtain ⟨rfl, htakes⟩ := fit_eq_some_iff.1 hfit
    simp only [htakes, not_true_eq_false, iff_false]
    split <;> nofun

/-! ## Whole runs -/

/-- The database after writes, one after another; those that are refused change nothing. -/
def writeAll (database : AttributeDatabase) (writes : List (CharacteristicId × Json)) :
    AttributeDatabase :=
  writes.foldl (fun database (id, value) => (database.write id value).toOption.getD database)
    database

theorem writeAll_concat (database : AttributeDatabase) (writes : List (CharacteristicId × Json))
    (id : CharacteristicId) (value : Json) :
    database.writeAll (writes ++ [(id, value)]) =
      (((database.writeAll writes).write id value).toOption).getD (database.writeAll writes) :=
  List.foldl_append

/-- A characteristic is as it was, or one of the writes has stored a value in it, of its declared
format or too large for it. -/
def Written (writes : List (CharacteristicId × Json)) (id : CharacteristicId)
    (original now : Json) : Prop :=
  now = original ∨ ∃ value, (id, value) ∈ writes ∧
    Takes (formatOf original) (normal (formatOf original) value) ∧
    now = original.set "value" (normal (formatOf original) value)

section

variable {writes : List (CharacteristicId × Json)} {original now : Json}

theorem Written.concat (h : Written writes id original now) (last : CharacteristicId × Json) :
    Written (writes ++ [last]) id original now := by
  rcases h with rfl | ⟨value, hmem, h⟩
  · exact Or.inl rfl
  · exact Or.inr ⟨value, List.mem_append_left _ hmem, h⟩

theorem formatOf_set_value (characteristic stored : Json) :
    formatOf (characteristic.set "value" stored) = formatOf characteristic := by
  unfold formatOf
  rw [Json.get?_set_of_ne (by decide)]

theorem Written.formatOf_eq (h : Written writes id original now) :
    formatOf now = formatOf original := by
  rcases h with rfl | ⟨value, -, -, rfl⟩
  · rfl
  · exact formatOf_set_value original _

theorem Written.store (h : Written writes id original now) (value : Json)
    (htakes : Takes (formatOf now) (normal (formatOf now) value)) :
    Written (writes ++ [(id, value)]) id original
      (now.set "value" (normal (formatOf now) value)) := by
  rw [h.formatOf_eq] at htakes ⊢
  refine Or.inr ⟨value, by simp, htakes, ?_⟩
  rcases h with rfl | ⟨_, -, -, rfl⟩
  · rfl
  · exact Json.set_set

end

/-- Writes have led from the one document to the other: what the characteristic was is what it is,
or has become so by a write. -/
structure AgreeOn (writes : List (CharacteristicId × Json)) (id : CharacteristicId)
    (before after : AttributeDatabase) : Prop where
  missing : find? before.document id = none → find? after.document id = none
  found : ∀ original, find? before.document id = some original →
    ∃ now, find? after.document id = some now ∧ Written writes id original now

section

variable {writes : List (CharacteristicId × Json)} {mid : AttributeDatabase}

theorem AgreeOn.refl (database : AttributeDatabase) (id : CharacteristicId) :
    AgreeOn [] id database database :=
  ⟨fun h => h, fun original h => ⟨original, h, Or.inl rfl⟩⟩

theorem AgreeOn.declaredFormat?_eq (h : AgreeOn writes id before after) :
    declaredFormat? after.document id = declaredFormat? before.document id := by
  unfold declaredFormat?
  cases hbefore : find? before.document id with
  | none => rw [h.missing hbefore]
  | some original =>
    obtain ⟨now, hnow, hwritten⟩ := h.found original hbefore
    rw [hnow, Option.map_some, Option.map_some, hwritten.formatOf_eq]

/-- One more write, which leaves the characteristic as it is. -/
theorem AgreeOn.concat (h : AgreeOn writes id before mid)
    (hsame : find? after.document id = find? mid.document id) (last : CharacteristicId × Json) :
    AgreeOn (writes ++ [last]) id before after := by
  refine ⟨fun hbefore => hsame.trans (h.missing hbefore), fun original hbefore => ?_⟩
  obtain ⟨now, hnow, hwritten⟩ := h.found original hbefore
  exact ⟨now, hsame.trans hnow, hwritten.concat last⟩

/-- One more write, which stores a value in the characteristic. -/
theorem AgreeOn.store (h : AgreeOn writes id before mid)
    (hformat : declaredFormat? mid.document id = some format)
    (htakes : Takes format (normal format value))
    (hstores : Stores id (normal format value) mid after) :
    AgreeOn (writes ++ [(id, value)]) id before after := by
  refine ⟨fun hbefore => ?_, fun original hbefore => ?_⟩
  · rw [hstores.characteristic, h.missing hbefore]
    rfl
  · obtain ⟨now, hnow, hwritten⟩ := h.found original hbefore
    rw [declaredFormat?, hnow, Option.map_some, Option.some.injEq] at hformat
    subst hformat
    refine ⟨_, ?_, hwritten.store value htakes⟩
    rw [hstores.characteristic, hnow, Option.map_some]

end

/-- Writes change the values of characteristics and nothing else. -/
theorem agreeOn_writeAll (database : AttributeDatabase)
    (writes : List (CharacteristicId × Json)) (id : CharacteristicId) :
    AgreeOn writes id database (database.writeAll writes) := by
  induction writes using List.reverseRecOn with
  | nil => exact .refl database id
  | append_singleton writes last ih =>
    obtain ⟨target, value⟩ := last
    rw [writeAll_concat]
    cases hwrite : (database.writeAll writes).write target value with
    | error status => exact ih.concat rfl _
    | ok after =>
      obtain ⟨format, hformat, htakes, hstores | ⟨rfl, -⟩⟩ := takes_of_write hwrite
      · by_cases hid : target = id
        · subst hid
          exact ih.store hformat htakes hstores
        · exact ih.concat (hstores.others id hid) _
      · exact ih.concat rfl _

/-! ## Values of a format -/

/-- What a format takes is a value of the format, unless it is a number that is too large for it. -/
theorem Takes.conforms_iff (h : Takes format value) :
    Conforms format value ↔ ¬ Exceeds format value := by
  constructor
  · exact fun hconforms hexceeds => hexceeds.not_conforms hconforms
  · exact h.resolve_right

/-- Whatever was written before, the formats are those that the document declares. A write that
succeeds stores the value in the form of its format, where it is not to identify the accessory, and
changes nothing else; what it stores is a value of the format exactly if it is not a number that is
too large for it. A write to a writable characteristic is refused as invalid exactly if the value
has no such form, and then nothing changes. So every value is the one that the document began with,
or of its format, or a number that is too large for it. -/
theorem stored_conforms_iff (database : AttributeDatabase)
    (writes : List (CharacteristicId × Json)) :
    let now := database.writeAll writes
    (∀ id value after, now.write id value = .ok after →
      ∃ format stored, declaredFormat? database.document id = some format ∧
        stored = normal format value ∧ (Conforms format stored ↔ ¬ Exceeds format stored) ∧
        (Stores id stored now after ∨
          after = now ∧ (find? now.document id).any isIdentify = true ∧ stored = .bool true)) ∧
    (∀ id value format, declaredFormat? database.document id = some format →
      now.IsWritable id →
      (now.write id value = .error .invalidValue ↔
        ¬ Conforms format (normal format value) ∧ ¬ Exceeds format (normal format value))) ∧
    (∀ id value status, now.write id value = .error status →
      database.writeAll (writes ++ [(id, value)]) = now) ∧
    ∀ id characteristic, find? now.document id = some characteristic →
      ∃ original, find? database.document id = some original ∧
        (characteristic = original ∨ ∃ value stored, (id, value) ∈ writes ∧
          stored = normal (formatOf original) value ∧
          characteristic = original.set "value" stored ∧
          (Conforms (formatOf original) stored ↔ ¬ Exceeds (formatOf original) stored)) := by
  intro now
  have hagree : ∀ id, AgreeOn writes id database now := agreeOn_writeAll database writes
  refine ⟨?_, ?_, ?_, ?_⟩
  · intro id value after hwrite
    obtain ⟨format, hformat, htakes, hstores⟩ := takes_of_write hwrite
    rw [(hagree id).declaredFormat?_eq] at hformat
    exact ⟨format, _, hformat, rfl, htakes.conforms_iff, hstores⟩
  · intro id value format hformat hwritable
    rw [← (hagree id).declaredFormat?_eq] at hformat
    rw [write_eq_invalidValue_iff hwritable hformat, Takes, not_or]
  · intro id value status hwrite
    rw [writeAll_concat, hwrite]
    rfl
  · intro id characteristic hnow
    cases horiginal : find? database.document id with
    | none =>
      rw [(hagree id).missing horiginal] at hnow
      cases hnow
    | some original =>
      obtain ⟨found, hfound, hwritten⟩ := (hagree id).found original horiginal
      rw [hnow, Option.some.injEq] at hfound
      subst hfound
      refine ⟨original, rfl, ?_⟩
      rcases hwritten with rfl | ⟨value, hmem, htakes, hset⟩
      · exact Or.inl rfl
      · exact Or.inr ⟨value, _, hmem, rfl, hset, htakes.conforms_iff⟩

/-- A number for a switch: one switches it on, zero switches it off again, and two is refused. -/
theorem stored_conforms_iff_lightbulb :
    let database := lightbulb "Test"
    let now := database.writeAll [(⟨1, 10⟩, .ofNatural 1)]
    ((now.read ⟨1, 10⟩).toOption.bind Json.bool? = some true) ∧
      (∃ after format stored, now.write ⟨1, 10⟩ (.ofNatural 0) = .ok after ∧
        declaredFormat? database.document ⟨1, 10⟩ = some format ∧
        stored = normal format (.ofNatural 0) ∧
        (Conforms format stored ↔ ¬ Exceeds format stored)) ∧
      now.write ⟨1, 10⟩ (.ofNatural 2) = .error .invalidValue := by
  intro database now
  obtain ⟨hwrite, -, -, -⟩ := stored_conforms_iff database [(⟨1, 10⟩, .ofNatural 1)]
  obtain ⟨after, hafter⟩ : ∃ after, now.write ⟨1, 10⟩ (.ofNatural 0) = .ok after := ⟨_, rfl⟩
  obtain ⟨format, stored, hformat, hstored, hconforms, -⟩ := hwrite _ _ _ hafter
  exact ⟨rfl, ⟨after, format, stored, hafter, hformat, hstored, hconforms⟩, rfl⟩

/-- A light whose brightness is a number of eight bits. -/
def dimmer : AttributeDatabase where
  document := .ofMembers [("accessories", .array [.ofMembers [
    ("aid", .ofNatural 1),
    ("services", .array [.ofMembers [
      ("iid", .ofNatural 8),
      ("type", .string "43"),
      ("characteristics", .array [
        characteristic 10 "8" ["pr", "pw"] "uint8" (some (.ofNatural 0))])]])]])]

/-- A number of nine bits is stored in a characteristic that has numbers of eight bits. -/
theorem dimmer_stores_nine_bits :
    ∃ after, dimmer.write ⟨1, 10⟩ (.ofNatural 300) = .ok after ∧
      declaredFormat? dimmer.document ⟨1, 10⟩ = some "uint8" ∧
      after.read ⟨1, 10⟩ = .ok (.ofNatural 300) ∧ ¬ Conforms "uint8" (.ofNatural 300) := by
  have hexceeds : Exceeds "uint8" (.ofNatural 300) := .unsigned rfl (by decide)
  exact ⟨_, rfl, rfl, rfl, hexceeds.not_conforms⟩

end HomeKit.AttributeDatabase
