import HomeKit.Proofs.Database.Formats
import HomeKit.Proofs.Database.Places

/-!
# What a write touches

A write changes its document in place: it looks for the characteristic, and in the end it assigns to
the member `value` of what it found (`AttributeDatabase.writeInPlace`). Not every value has members
to assign to, but what was found has a number, so it is an object and the assignment cannot fail;
the document is then the one of `write`, and it is the old one where the write is refused
(`AttributeDatabase.writeInPlace_eq`).

A value that is stored is read back, everything else in the document is as it was, and to write it
once more changes nothing (`AttributeDatabase.write_touches_one`).
-/

namespace HomeKit.AttributeDatabase

open Json (DifferAt)

variable {database after : AttributeDatabase} {document characteristic value stored : Json}
  {id other : CharacteristicId}

/-! ## In place -/

/-- Writes to a characteristic where it stands in the document, which comes out with the answer.
There is no result if the assignment fails. -/
def writeInPlace (document : Json) (id : CharacteristicId) (value : Json) :
    Option (Except HapStatus Unit × Json) :=
  match locate? document id with
  | none => some (.error .resourceDoesNotExist, document)
  | some (place, characteristic) =>
    if !permits characteristic "pw" then some (.error .readOnly, document)
    else
      match fit (formatOf characteristic) value with
      | none => some (.error .invalidValue, document)
      | some value =>
        if isIdentify characteristic && value.bool? == some true then some (.ok (), document)
        else (document.changeAt? (Json.assign? "value" value) place).map (.ok (), ·)

/-- What is found has a number. -/
theorem exists_number_of_find? (h : find? document id = some characteristic) :
    ∃ number, characteristic.get? "iid" = some number := by
  obtain ⟨accessory, -, h⟩ := Option.bind_eq_some_iff.1 h
  obtain ⟨service, -, h⟩ := Option.bind_eq_some_iff.1 h
  have hnumbered := List.find?_some h
  unfold isNumbered at hnumbered
  cases hnumber : characteristic.get? "iid" with
  | none =>
    rw [hnumber] at hnumbered
    cases hnumbered
  | some number => exact ⟨number, rfl⟩

/-- What has a member can be assigned to. -/
theorem assign?_of_get? {name found : String} {member old : Json}
    (h : characteristic.get? found = some old) :
    Json.assign? name member characteristic = some (characteristic.set name member) := by
  cases characteristic with
  | object members => rfl
  | _ => cases h

/-- The assignment to what was found does not fail, and it is what `update` does. -/
theorem changeAt?_assign? {place : Json.Place}
    (h : locate? document id = some (place, characteristic))
    (stored : Json) :
    document.changeAt? (Json.assign? "value" stored) place =
      some (update document id fun c => c.set "value" stored) := by
  obtain ⟨number, hnumber⟩ := exists_number_of_find? (located h).found
  exact (located h).update _ (fun c => c.set "value" stored) (assign?_of_get? hnumber)

theorem access_eq_ok_iff :
    database.access id = .ok characteristic ↔
      database.busy = false ∧ find? database.document id = some characteristic := by
  unfold access
  cases database.busy with
  | true => exact iff_of_false nofun nofun
  | false =>
    cases find? database.document id with
    | none => exact iff_of_false nofun nofun
    | some found =>
      simp only [Bool.false_eq_true, if_false, Except.ok.injEq, Option.some.injEq, true_and]

/-- A write in place always has a result: it answers as `write` does, and it leaves the document as
`write` does, or as it was if it is refused. -/
theorem writeInPlace_eq (document : Json) (id : CharacteristicId) (value : Json) :
    writeInPlace document id value = some
      (match ({ document } : AttributeDatabase).write id value with
      | .error status => (.error status, document)
      | .ok after => (.ok (), after.document)) := by
  unfold writeInPlace
  cases hlocate : locate? document id with
  | none =>
    have haccess : ({ document } : AttributeDatabase).access id = .error .resourceDoesNotExist := by
      unfold access
      rw [locate?_eq_none_iff.1 hlocate]
      rfl
    simp only [write, haccess]
    rfl
  | some found =>
    obtain ⟨place, characteristic⟩ := found
    have haccess : ({ document } : AttributeDatabase).access id = .ok characteristic :=
      access_eq_ok_iff.2 ⟨rfl, (located hlocate).found⟩
    cases hpermits : permits characteristic "pw" with
    | false =>
      simp only [write, haccess, bind, Except.bind, hpermits, Bool.not_false, if_true]
    | true =>
      rw [write_of_access haccess hpermits]
      simp only [hpermits, Bool.not_true, Bool.false_eq_true, if_false]
      cases fit (formatOf characteristic) value with
      | none => rfl
      | some stored =>
        simp only
        split
        · rfl
        · rw [changeAt?_assign? hlocate]
          rfl

/-! ## Reading back -/

/-- A value in the form of a format stays as it is. -/
theorem normal_normal (format : String) (value : Json) :
    normal format (normal format value) = normal format value := by
  cases value with
  | number n =>
    by_cases hzero : format = "bool" ∧ n = .natural 0
    · have hfalse : normal format (.number n) = .bool false := if_pos hzero
      rw [hfalse]
      rfl
    · by_cases hone : format = "bool" ∧ n = .natural 1
      · have htrue : normal format (.number n) = .bool true := (if_neg hzero).trans (if_pos hone)
        rw [htrue]
        rfl
      · have hsame : normal format (.number n) = .number n := (if_neg hzero).trans (if_neg hone)
        rw [hsame, hsame]
  | _ => rfl

theorem fit_fit {format : String} (h : fit format value = some stored) :
    fit format stored = some stored := by
  obtain ⟨rfl, htakes⟩ := fit_eq_some_iff.1 h
  exact fit_eq_some_iff.2 ⟨(normal_normal format value).symm, htakes⟩

theorem permits_set_value (characteristic stored : Json) (permission : String) :
    permits (characteristic.set "value" stored) permission = permits characteristic permission := by
  unfold permits items
  rw [Json.get?_set_of_ne (by decide)]

theorem isIdentify_set_value (characteristic stored : Json) :
    isIdentify (characteristic.set "value" stored) = isIdentify characteristic := by
  unfold isIdentify
  rw [Json.get?_set_of_ne (by decide)]

/-- What is found under a name, and whether the database is busy, decides on access to it. -/
theorem access_congr (hbusy : after.busy = database.busy)
    (hfind : find? after.document id = find? database.document id) :
    after.access id = database.access id := by
  unfold access
  rw [hbusy, hfind]

theorem read_congr (h : after.access id = database.access id) :
    after.read id = database.read id := by
  unfold read
  rw [h]

theorem subscribe_congr (h : after.access id = database.access id) :
    after.subscribe id = database.subscribe id := by
  unfold subscribe
  rw [h]

theorem ofDocument_eq_ok_iff :
    ofDocument document = .ok database ↔
      ((document.get? "accessories").bind Json.array?).isSome = true ∧ database = { document } := by
  unfold ofDocument
  split
  · rename_i haccessories
    rw [Except.ok.injEq, eq_comm]
    exact (and_iff_right haccessories).symm
  · rename_i haccessories
    exact iff_of_false nofun fun h => haccessories h.1

/-- A document that can be opened still can be when a characteristic has changed. -/
theorem ofDocument_update (hopened : ofDocument document = .ok database) (id : CharacteristicId)
    (f : Json → Json) :
    ofDocument (update document id f) = .ok { document := update document id f } := by
  refine ofDocument_eq_ok_iff.2 ⟨?_, rfl⟩
  have haccessories := (ofDocument_eq_ok_iff.1 hopened).1
  unfold update mapItems
  cases hget : document.get? "accessories" with
  | none =>
    rw [hget] at haccessories
    cases haccessories
  | some accessories =>
    rw [Json.get?_set_self (Option.isSome_of_eq_some hget)]
    rfl

/-- A write has stored a value at its place and touched nothing else. -/
structure TouchesOne (id : CharacteristicId) (place : Json.Place) (isReadable : Bool)
    (stored : Json) (before after : AttributeDatabase) : Prop where
  value : after.document.at? (place ++ [.member "value"]) = some stored
  rest : DifferAt (place ++ [.member "value"]) before.document after.document
  readBack : isReadable = true → after.read id = .ok stored
  /-- To write the value once more changes nothing. -/
  again : after.write id stored = .ok after
  others : ∀ other, id ≠ other →
    after.read other = before.read other ∧ after.subscribe other = before.subscribe other

theorem touchesOne_of_stored {before : AttributeDatabase} {place : Json.Place}
    (hlocate : locate? before.document id = some (place, characteristic))
    (haccess : before.access id = .ok characteristic)
    (hpermits : permits characteristic "pw" = true)
    (hfit : fit (formatOf characteristic) value = some stored)
    (hstored : ¬ (isIdentify characteristic = true ∧ stored = .bool true))
    (hafter : after = { before with
      document := update before.document id fun c => c.set "value" stored }) :
    TouchesOne id place (permits characteristic "pr") stored before after := by
  have hstores : Stores id stored before after := hafter ▸ stores_update before id stored
  obtain ⟨hbusy, hfind⟩ := access_eq_ok_iff.1 haccess
  obtain ⟨number, hnumber⟩ := exists_number_of_find? hfind
  have hobject := Option.isSome_of_eq_some hnumber
  have hwritten : after.access id = .ok (characteristic.set "value" stored) := by
    rw [access_eq_ok_iff, hstores.busy, hstores.characteristic, hfind]
    exact ⟨hbusy, rfl⟩
  have hassigned : (before.document.at? place).bind (·.get? "iid") = some number := by
    rw [(located hlocate).there, Option.bind_some, hnumber]
  obtain ⟨hvalue, hrest⟩ := Json.differAt_of_assign hassigned (changeAt?_assign? hlocate stored)
  refine ⟨?_, ?_, ?_, ?_, ?_⟩
  · rw [hafter]
    exact hvalue
  · rw [hafter]
    exact hrest
  · intro hreadable
    simp only [read, hwritten, bind, Except.bind, permits_set_value, hreadable, if_true,
      Json.get?_set_self hobject]
    rfl
  · have hsame : update after.document id (fun c => c.set "value" stored) = after.document := by
      rw [hafter, update_update (keepsNumber_set (by decide) stored)]
      congr 1
      funext c
      exact Json.set_set
    rw [write_of_access hwritten ((permits_set_value ..).trans hpermits), formatOf_set_value,
      fit_fit hfit]
    simp only [isIdentify_set_value, hsame]
    exact if_neg fun hidentify => hstored (by
      rw [Bool.and_eq_true, beq_iff_eq] at hidentify
      exact ⟨hidentify.1, eq_bool_of_bool? hidentify.2⟩)
  · intro other hne
    have hother := access_congr hstores.busy (hstores.others other hne)
    exact ⟨read_congr hother, subscribe_congr hother⟩

/-- Whatever the document looks like, a write to it has a result. If it is refused, the document is
as it was. If it is accepted, the document can still be opened, and either it is as it was and the
accessory is to identify itself, or the characteristic that was found has the value in the form of
its format, all else in the document is as it was, and so is what is read and may be subscribed to
under any other name. A value that was stored is read back where it may be read, and to write it
once more changes nothing. -/
theorem write_touches_one (hopened : ofDocument document = .ok database) (id : CharacteristicId)
    (value : Json) :
    writeInPlace document id value = some
      (match database.write id value with
      | .error status => (.error status, document)
      | .ok after => (.ok (), after.document)) ∧
    ∀ after, database.write id value = .ok after →
      ofDocument after.document = .ok after ∧
      ∃ place characteristic stored, locate? document id = some (place, characteristic) ∧
        document.at? place = some characteristic ∧
        fit (formatOf characteristic) value = some stored ∧
        (isIdentify characteristic = true ∧ stored = .bool true ∧ after = database ∨
          ¬ (isIdentify characteristic = true ∧ stored = .bool true) ∧
            TouchesOne id place (permits characteristic "pr") stored database after) := by
  obtain ⟨-, rfl⟩ := ofDocument_eq_ok_iff.1 hopened
  refine ⟨writeInPlace_eq document id value, fun after hwrite => ?_⟩
  obtain ⟨characteristic, stored, haccess, hpermits, hfit, hcases⟩ := write_ok_cases hwrite
  obtain ⟨-, hfind⟩ := access_eq_ok_iff.1 haccess
  obtain ⟨place, hlocate⟩ : ∃ place, locate? document id = some (place, characteristic) := by
    obtain ⟨⟨place, found⟩, hlocate⟩ := Option.isSome_iff_exists.1 (isSome_locate?_of_find? hfind)
    have hsame := (located hlocate).found.symm.trans hfind
    cases hsame
    exact ⟨place, hlocate⟩
  have hthere := (located hlocate).there
  rcases hcases with ⟨hidentify, htrue, rfl⟩ | ⟨hstored, hafter⟩
  · exact ⟨hopened, place, characteristic, stored, hlocate, hthere, hfit,
      Or.inl ⟨hidentify, htrue, rfl⟩⟩
  · refine ⟨?_, place, characteristic, stored, hlocate, hthere, hfit, Or.inr ⟨hstored, ?_⟩⟩
    · rw [hafter]
      exact ofDocument_update hopened id _
    · exact touchesOne_of_stored hlocate haccess hpermits hfit hstored hafter

/-- The light is switched on by the number one, and its name is as it was. -/
theorem write_touches_one_lightbulb :
    let database := lightbulb "Test"
    ofDocument database.document = .ok database ∧
      ∃ after, database.write ⟨1, 10⟩ (.ofNatural 1) = .ok after ∧
        ofDocument after.document = .ok after ∧ after.read ⟨1, 10⟩ = .ok (.bool true) ∧
        after.write ⟨1, 10⟩ (.bool true) = .ok after ∧
        after.read ⟨1, 5⟩ = .ok (.string "Test") := by
  intro database
  have hopened : ofDocument database.document = .ok database := rfl
  obtain ⟨after, hafter⟩ : ∃ after, database.write ⟨1, 10⟩ (.ofNatural 1) = .ok after := ⟨_, rfl⟩
  obtain ⟨hstill, place, light, stored, hlocate, -, hfit, hcases⟩ :=
    (write_touches_one hopened ⟨1, 10⟩ (.ofNatural 1)).2 after hafter
  have hfound : (locate? database.document ⟨1, 10⟩).map (·.2) =
      some (characteristic 10 "25" ["pr", "pw", "ev"] "bool" (some (.bool false))) := rfl
  rw [hlocate, Option.map_some, Option.some.injEq] at hfound
  subst hfound
  have hform : fit "bool" (.ofNatural 1) = some (.bool true) := rfl
  obtain rfl : .bool true = stored := Option.some.inj (hform.symm.trans hfit)
  rcases hcases with ⟨hidentify, -⟩ | ⟨-, htouches⟩
  · cases hidentify
  · obtain ⟨hread, -⟩ := htouches.others ⟨1, 5⟩ (by decide)
    exact ⟨hopened, after, hafter, hstill, htouches.readBack rfl, htouches.again, hread⟩

end HomeKit.AttributeDatabase
