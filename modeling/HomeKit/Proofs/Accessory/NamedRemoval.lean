import HomeKit.Proofs.Accessory.Disconnecting
import HomeKit.Proofs.Tlv.RoundTrip

/-!
# Whom a removal names

A request to remove a pairing names a controller by bytes. If the bytes are a text, or if nobody is
paired under the identifier as which they are read, then only that controller goes, and the others
along with the last admin (`Accessory.removesOnly_iff`). But bytes that are no text are read as one
all the same, and then another controller is removed, whose identifier they are not
(`Accessory.not_removesOnly_byte`).
-/

namespace HomeKit.Accessory

open IdentityStore (NamesToRemove)

/-- A removal of those only whom these bytes name. -/
structure RemovesOnly (name : Bytes) (before : Accessory) (removed : List String)
    (after : Accessory) : Prop where
  /-- Another controller goes only along with the last admin. -/
  others : ∀ id, Unpairs before after id → utf8 id ≠ name →
    ∃ named, utf8 named = name ∧ (before.store.controller? named).isSome = true ∧
      ∀ admin, before.store.isAdmin admin = true → admin = named
  /-- If nobody is named, nothing happens. -/
  nobody : (∀ id, (before.store.controller? id).isSome = true → utf8 id ≠ name) →
    before.store.Unchanged after.store ∧ removed = [] ∧ after.connections = before.connections

variable {accessory : Accessory} {conn : ConnectionId} {body name : Bytes}

/-- Whoever is unpaired by a removal that names an identifier is that controller, or there is no
other admin. -/
theorem eq_or_last_of_mem_removed {store : IdentityStore} {named other : String}
    (hkeyed : IdentityStore.KeyedById store.controllers)
    (hremoved : other ∈ (store.remove named).1.removed) :
    other = named ∨ ∀ admin, store.isAdmin admin = true → admin = named := by
  by_cases hlast : ∀ admin, store.isAdmin admin = true → admin = named
  · exact .inr hlast
  · simp only [not_forall] at hlast
    obtain ⟨admin, hadmin, hne⟩ := hlast
    have hdoomed := IdentityStore.mem_doomed_of_mem_removed hremoved
    rw [IdentityStore.doomed_of_isAdmin hkeyed hne hadmin, List.mem_singleton] at hdoomed
    exact .inl hdoomed

/-- If a removal says that it removed nobody, nothing happened. -/
theorem unchanged_of_removed_eq_nil
    (hadmin : (accessory.registry.controllerOf conn).any accessory.store.isAdmin = true)
    (hnames : NamesToRemove body name)
    (hnone : (accessory.runPairings conn body).1.removed = []) :
    accessory.store.Unchanged (accessory.pairings conn body).2.store ∧
      (accessory.pairings conn body).2.connections = accessory.connections := by
  obtain ⟨hremoved, hstore⟩ := IdentityStore.handlePairings_of_namesToRemove hadmin hnames
  have hafter : (accessory.pairings conn body).2.store =
      (accessory.store.remove (Text.lossy name)).2 := hstore
  refine ⟨?_, ((accessory.pairings_disconnects conn body).nobody ?_).2⟩
  · rw [hafter]
    exact IdentityStore.unchanged_of_removed_eq_nil (hremoved.symm.trans hnone)
  · intro id hunpairs
    have hmem := (accessory.mem_removed_iff conn body id).2 hunpairs
    rw [hnone] at hmem
    cases hmem

theorem removesOnly_of_removed_eq_nil
    (hadmin : (accessory.registry.controllerOf conn).any accessory.store.isAdmin = true)
    (hnames : NamesToRemove body name)
    (hnone : (accessory.runPairings conn body).1.removed = []) :
    RemovesOnly name accessory (accessory.runPairings conn body).1.removed
      (accessory.pairings conn body).2 := by
  obtain ⟨hstore, hconnections⟩ := unchanged_of_removed_eq_nil hadmin hnames hnone
  refine ⟨fun id hunpairs => ?_, fun _ => ⟨hstore, hnone, hconnections⟩⟩
  have hmem := (accessory.mem_removed_iff conn body id).2 hunpairs
  rw [hnone] at hmem
  cases hmem

/-- A text names the controller of that identifier. -/
theorem removesOnly_utf8 {named : String} (hreachable : accessory.store.Reachable)
    (hadmin : (accessory.registry.controllerOf conn).any accessory.store.isAdmin = true)
    (hnames : NamesToRemove body (utf8 named)) :
    RemovesOnly (utf8 named) accessory (accessory.runPairings conn body).1.removed
      (accessory.pairings conn body).2 := by
  have hremoved : (accessory.runPairings conn body).1.removed =
      (accessory.store.remove named).1.removed := by
    have hread := (IdentityStore.handlePairings_of_namesToRemove hadmin hnames).1
    rwa [Text.lossy_utf8] at hread
  cases hpaired : accessory.store.controller? named with
  | none =>
    refine removesOnly_of_removed_eq_nil hadmin hnames (hremoved.trans ?_)
    exact IdentityStore.remove_removed_eq_nil_iff.2 (.inl hpaired)
  | some controller =>
    have hisPaired : (accessory.store.controller? named).isSome = true := by
      rw [hpaired]
      rfl
    refine ⟨fun id hunpairs hne => ?_, fun hunnamed => ?_⟩
    · have hmem := (accessory.mem_removed_iff conn body id).2 hunpairs
      rw [hremoved] at hmem
      rcases eq_or_last_of_mem_removed hreachable.keyedById hmem with rfl | hlast
      · exact absurd rfl hne
      · exact ⟨named, rfl, hisPaired, hlast⟩
    · exact absurd rfl (hunnamed named hisPaired)

/-- Whatever bytes the request of an admin names: only whom they name is removed exactly if they are
a text, or nobody is paired under the identifier as which they are read, or its record cannot be
erased. -/
theorem removesOnly_iff (accessory : Accessory) (conn : ConnectionId) (body name : Bytes)
    (hreachable : accessory.store.Reachable)
    (hadmin : (accessory.registry.controllerOf conn).any accessory.store.isAdmin = true)
    (hnames : NamesToRemove body name) :
    RemovesOnly name accessory (accessory.runPairings conn body).1.removed
        (accessory.pairings conn body).2 ↔
      (text? name).isSome = true ∨ accessory.store.controller? (Text.lossy name) = none ∨
        ∃ error, (accessory.store.storage.delete
          (IdentityStore.recordKey (Text.lossy name))).1 = .error error := by
  have hremoved : (accessory.runPairings conn body).1.removed =
      (accessory.store.remove (Text.lossy name)).1.removed :=
    (IdentityStore.handlePairings_of_namesToRemove hadmin hnames).1
  rw [← IdentityStore.remove_removed_eq_nil_iff, ← hremoved]
  constructor
  · intro h
    by_cases htext : (text? name).isSome = true
    · exact .inl htext
    -- nobody has an identifier of these bytes
    · refine .inr (h.nobody fun id _ hid => htext ?_).2.1
      rw [← hid, text?_utf8, Option.isSome_some]
  · rintro (htext | hnone)
    · obtain ⟨named, hnamed⟩ := Option.isSome_iff_exists.1 htext
      obtain rfl := text?_eq_some_iff.1 hnamed
      exact removesOnly_utf8 hreachable hadmin hnames
    · exact removesOnly_of_removed_eq_nil hadmin hnames hnone

/-! ## Bytes that are no text -/

/-- A request to remove whom these bytes name. -/
def removal (name : Bytes) : Bytes :=
  (Tlv.ofList [(.state, [1]), (.method, [PairingMethod.removePairing.code]),
    (.identifier, name)]).encode

theorem namesToRemove_removal (name : Bytes) : NamesToRemove (removal name) name :=
  ⟨_, Tlv.decode_encode_ofList (by simp), rfl, rfl, by simp⟩

/-- An admin, who is verified on connection 1, and a guest whose identifier is the replacement
character. -/
def replacementAccessory : Accessory where
  store := ((IdentityStore.withController ⟨"admin", .replicate 32 1, .admin⟩).add
    ⟨"\ufffd", .replicate 32 2, .regular⟩).2
  random := .constant 7
  setupCode := .default
  database := .refusing
  connections := ({} : Connections).callAll .transparent
    [(1, .attach 8), (1, .stage "admin" plainKeys), (1, .activate)]

theorem replacementAccessory_reachable : replacementAccessory.store.Reachable :=
  (IdentityStore.withController_reachable _).added _

theorem removesOnly_iff_replacement :
    let body := removal (utf8 "\ufffd")
    let result := replacementAccessory.pairings 1 body
    replacementAccessory.store.Reachable ∧
      (replacementAccessory.registry.controllerOf 1).any replacementAccessory.store.isAdmin = true ∧
      NamesToRemove body (utf8 "\ufffd") ∧
      RemovesOnly (utf8 "\ufffd") replacementAccessory
        (replacementAccessory.runPairings 1 body).1.removed result.2 ∧
      Unpairs replacementAccessory result.2 "\ufffd" := by
  have hadmin : (replacementAccessory.registry.controllerOf 1).any
      replacementAccessory.store.isAdmin = true := by decide +kernel
  have hnames := namesToRemove_removal (utf8 "\ufffd")
  refine ⟨replacementAccessory_reachable, hadmin, hnames, ?_, ?_⟩
  · exact
      (removesOnly_iff replacementAccessory 1 _ _ replacementAccessory_reachable hadmin hnames).2
      (.inl (by rw [text?_utf8, Option.isSome_some]))
  · unfold Unpairs
    decide +kernel

/-- The admin names a single byte that starts no character, and the guest goes, though there is
still an admin and the guest's identifier has other bytes. -/
theorem not_removesOnly_byte :
    let result := replacementAccessory.pairings 1 (removal [0xff])
    replacementAccessory.store.Reachable ∧
      (replacementAccessory.registry.controllerOf 1).any replacementAccessory.store.isAdmin = true ∧
      NamesToRemove (removal [0xff]) [0xff] ∧
      (∀ id, utf8 id ≠ [0xff]) ∧ Unpairs replacementAccessory result.2 "\ufffd" ∧
      result.2.store.isAdmin "admin" = true ∧
      ¬ RemovesOnly [0xff] replacementAccessory
        (replacementAccessory.runPairings 1 (removal [0xff])).1.removed result.2 := by
  have hnobody : ∀ id, utf8 id ≠ [0xff] := by
    intro id hid
    have hread := text?_utf8 id
    rw [hid, show text? [0xff] = none by decide +kernel] at hread
    cases hread
  have hunpairs : Unpairs replacementAccessory
      (replacementAccessory.pairings 1 (removal [0xff])).2 "\ufffd" := by
    unfold Unpairs
    decide +kernel
  refine ⟨replacementAccessory_reachable, by decide +kernel, namesToRemove_removal _, hnobody,
    hunpairs, by decide +kernel, ?_⟩
  intro honly
  obtain ⟨named, hnamed, -⟩ := honly.others "\ufffd" hunpairs (hnobody _)
  exact hnobody named hnamed

end HomeKit.Accessory
