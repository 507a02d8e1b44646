import HomeKit.Proofs.Accessory.Writes

/-!
# Entries that fail

An entry of a request to write can ask for a subscription and give a value. If it fails, the
database and all that waits to be sent are as they were. But the subscription comes first, and it
stays where the value is refused after it. So an entry that fails leaves everything as it was
exactly if the subscription that it asks for made no difference (`Accessory.failed_unaltered_iff`).
-/

namespace HomeKit.Accessory

variable {accessory : Accessory} {conn : ConnectionId} {id : CharacteristicId} {entry : Json}

/-- The entry asks to begin or to end a subscription, and the database has nothing against it. -/
def AsksToSubscribe (database : AttributeDatabase) (id : CharacteristicId) (entry : Json)
    (on : Bool) : Prop :=
  (entry.get? "ev").bind Json.bool? = some on ∧ (on = true → database.subscribe id = .ok ())

theorem applySubscription_cases (accessory : Accessory) (conn : ConnectionId)
    (id : CharacteristicId) (entry : Json) :
    ((∀ on, ¬ AsksToSubscribe accessory.database id entry on) ∧
        ((∃ status, accessory.applySubscription conn id entry = .error status) ∨
          accessory.applySubscription conn id entry = .ok accessory)) ∨
      ∃ on, AsksToSubscribe accessory.database id entry on ∧
        accessory.applySubscription conn id entry =
          .ok (accessory.setRegistry (accessory.registry.setSubscription conn id on)) := by
  unfold applySubscription AsksToSubscribe
  cases entry.get? "ev" with
  | none => exact .inl ⟨fun on hasks => (nomatch hasks.1), .inr rfl⟩
  | some ev =>
    simp only [Option.bind_some]
    cases ev.bool? with
    | none => exact .inl ⟨fun on hasks => (nomatch hasks.1), .inl ⟨_, rfl⟩⟩
    | some on =>
      cases on with
      | false => exact .inr ⟨false, ⟨rfl, nofun⟩, rfl⟩
      | true =>
        simp only [if_true]
        cases accessory.database.subscribe id with
        | ok _ => exact .inr ⟨true, ⟨rfl, fun _ => rfl⟩, rfl⟩
        | error status =>
          refine .inl ⟨?_, .inl ⟨status, rfl⟩⟩
          rintro on ⟨hon, hgranted⟩
          cases hon
          cases hgranted rfl

/-- An entry that fails comes to its subscription at most. -/
theorem applyEntry_of_failed (hfailed : (accessory.applyEntry conn id entry).1 ≠ .success) :
    ((∀ on, ¬ AsksToSubscribe accessory.database id entry on) ∧
        (accessory.applyEntry conn id entry).2 = accessory) ∨
      ∃ on, AsksToSubscribe accessory.database id entry on ∧
        (accessory.applyEntry conn id entry).2 =
          accessory.setRegistry (accessory.registry.setSubscription conn id on) := by
  have hvalue : ∀ mid : Accessory, (mid.applyValue conn id entry).1 ≠ .success →
      (mid.applyValue conn id entry).2 = mid := by
    intro mid hstatus
    unfold applyValue at hstatus ⊢
    cases hgiven : entry.get? "value" with
    | none => rfl
    | some value =>
      simp only [hgiven] at hstatus ⊢
      cases hwrite : mid.database.write id value with
      | error status => rfl
      | ok database =>
        simp only [hwrite] at hstatus
        exact absurd rfl hstatus
  unfold applyEntry at hfailed ⊢
  rcases accessory.applySubscription_cases conn id entry with
    ⟨hasks, ⟨status, happlied⟩ | happlied⟩ | ⟨on, hasks, happlied⟩
  · rw [happlied]
    exact .inl ⟨hasks, rfl⟩
  · rw [happlied] at hfailed ⊢
    exact .inl ⟨hasks, hvalue _ hfailed⟩
  · rw [happlied] at hfailed ⊢
    exact .inr ⟨on, hasks, hvalue _ hfailed⟩

theorem AsksToSubscribe.unique {database : AttributeDatabase} {on other : Bool}
    (h : AsksToSubscribe database id entry on) (h' : AsksToSubscribe database id entry other) :
    other = on :=
  Option.some.inj (h'.1.symm.trans h.1)

/-- Whatever an entry holds: if it fails, the database and all that waits to be sent are as they
were, and so is everything else exactly if the subscription that it asks for, where the database
grants it, was as asked before. -/
theorem failed_unaltered_iff (accessory : Accessory) (conn : ConnectionId) (id : CharacteristicId)
    (entry : Json) (hfailed : (accessory.applyEntry conn id entry).1 ≠ .success) :
    let after := (accessory.applyEntry conn id entry).2
    after.database = accessory.database ∧
      (∀ other, after.connections.outbox? other = accessory.connections.outbox? other) ∧
      (Unaltered accessory after ↔ ∀ on, AsksToSubscribe accessory.database id entry on →
        (id ∈ (accessory.registry.session conn).subscriptions ↔ on = true)) := by
  intro after
  rcases applyEntry_of_failed hfailed with ⟨hasks, hsame⟩ | ⟨on, hasks, hset⟩
  · rw [show after = accessory from hsame]
    exact ⟨rfl, fun _ => rfl,
      iff_of_true ⟨rfl, fun _ => rfl, fun _ => rfl⟩ fun on hon => absurd hon (hasks on)⟩
  · rw [show after = _ from hset]
    refine ⟨rfl, fun _ => rfl, ?_⟩
    rw [(applies_setSubscription accessory conn id on).unaltered_iff]
    constructor
    · rintro ⟨-, hsubscription, -⟩ other hother
      rw [hasks.unique hother]
      exact hsubscription id on (by simp [Grants.subscription?])
    · intro hsame
      refine ⟨rfl, fun other last hlast => ?_, nofun⟩
      obtain ⟨rfl, rfl⟩ : id = other ∧ on = last := by
        simpa [Grants.subscription?, List.find?_singleton] using hlast
      exact hsame on hasks

/-- An entry for the light with a value that is no light's, and a subscription. -/
def unlitEntry (on : Bool) : Json :=
  .ofMembers [("aid", .ofNatural 1), ("iid", .ofNatural 10), ("ev", .bool on),
    ("value", .string "x")]

theorem failed_unaltered_iff_lightbulb :
    let applied := lightbulbAccessory.applyEntry 1 ⟨1, 10⟩ (unlitEntry false)
    applied.1 ≠ .success ∧ Unaltered lightbulbAccessory applied.2 := by
  intro applied
  have hfailed : applied.1 ≠ .success := by decide +kernel
  refine ⟨hfailed, (failed_unaltered_iff lightbulbAccessory 1 ⟨1, 10⟩ _ hfailed).2.2.2 ?_⟩
  rintro on ⟨hon, -⟩
  have hoff : ((unlitEntry false).get? "ev").bind Json.bool? = some false := by decide +kernel
  rw [hoff] at hon
  cases hon
  decide +kernel

/-- The value is refused, and the connection is subscribed to the light. -/
theorem failed_altered_lightbulb :
    let applied := lightbulbAccessory.applyEntry 1 ⟨1, 10⟩ (unlitEntry true)
    entryId? (unlitEntry true) = some ⟨1, 10⟩ ∧ applied.1 = .invalidValue ∧
      (lightbulbAccessory.registry.session 1).subscriptions.toList = [] ∧
      (applied.2.registry.session 1).subscriptions.toList = [⟨1, 10⟩] ∧
      ¬ Unaltered lightbulbAccessory applied.2 := by
  intro applied
  have hbefore : (lightbulbAccessory.registry.session 1).subscriptions.toList = [] := by
    decide +kernel
  have hafter : (applied.2.registry.session 1).subscriptions.toList = [⟨1, 10⟩] := by
    decide +kernel
  refine ⟨by decide +kernel, by decide +kernel, hbefore, hafter, ?_⟩
  intro hunaltered
  rw [hunaltered.subscriptions 1, hbefore] at hafter
  cases hafter

end HomeKit.Accessory
