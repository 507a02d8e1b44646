import HomeKit.Proofs.Pairing.Admins
import HomeKit.Proofs.Pairing.Persistence

/-!
# The table of pairings

Controllers are paired by pair-setup, by the requests of admins and by the accessory itself, and
they are removed by the latter two. Each of these comes down to one addition or removal
(`SetupSystem.act_store_cases`), whichever calls of the storage fail. Neither ever makes more than
`IdentityStore.maxPairings` controllers, and neither gives a controller that stays another key
(`IdentityStore.call_size_le`, `IdentityStore.call_publicKey?`). So a controller is pinned to the
key that it was paired with for as long as it is paired (`SetupSystem.pairing_table_invariant`).
-/

namespace HomeKit

namespace IdentityStore

open Std (ExtTreeMap)

variable {store : IdentityStore} {id : String}

/-! ## One call -/

/-- The key that a controller is paired with. -/
def publicKey? (store : IdentityStore) (id : String) : Option (Octets 32) :=
  (store.controller? id).map (·.publicKey)

theorem Reachable.call (h : store.Reachable) (call : StoreCall) : (store.call call).Reachable := by
  cases call with
  | add controller => exact h.added controller
  | remove id => exact h.removed id

theorem add_size_le (h : store.controllers.size ≤ maxPairings) (controller : PairedController) :
    (store.add controller).2.controllers.size ≤ maxPairings := by
  have hadded := store.add_addition controller
  generalize store.add controller = result at hadded
  cases hadded with
  | otherKey | full | notStored => exact h
  | updated hknown =>
    have hcontains : store.controllers.contains controller.id = true := by
      rw [ExtTreeMap.contains_eq_isSome_getElem?]
      exact Option.isSome_of_eq_some hknown
    rw [ExtTreeMap.size_insert, if_pos hcontains]
    exact h
  | paired hunknown hroom => exact Nat.le_trans ExtTreeMap.size_insert_le hroom

/-- No call makes too many pairings. -/
theorem call_size_le (h : store.controllers.size ≤ maxPairings) (call : StoreCall) :
    (store.call call).controllers.size ≤ maxPairings := by
  cases call with
  | add controller => exact add_size_le h controller
  | remove id =>
    exact remove_induction (motive := fun table => table.size ≤ maxPairings)
      (fun _ _ hsize => Nat.le_trans ExtTreeMap.size_erase_le hsize) h id

theorem add_publicKey? (store : IdentityStore) (controller : PairedController)
    (hbefore : (store.controller? id).isSome = true) :
    (store.add controller).2.publicKey? id = store.publicKey? id := by
  have hadded := store.add_addition controller
  generalize store.add controller = result at hadded
  unfold publicKey? controller?
  cases hadded with
  | otherKey | full | notStored => rfl
  | @updated known storage hknown hkey =>
    rw [ExtTreeMap.getElem?_insert]
    split
    · rename_i hid
      cases Std.LawfulEqOrd.eq_of_compare hid
      rw [controller?] at hknown
      rw [hknown, Option.map_some, Option.map_some, hkey]
    · rfl
  | paired hunknown =>
    rw [ExtTreeMap.getElem?_insert, if_neg]
    intro hid
    cases Std.LawfulEqOrd.eq_of_compare hid
    rw [hunknown] at hbefore
    cases hbefore

theorem remove_publicKey? (store : IdentityStore) (removing : String)
    (hafter : ((store.remove removing).2.controller? id).isSome = true) :
    (store.remove removing).2.publicKey? id = store.publicKey? id := by
  unfold publicKey?
  rw [controller?_remove_eq_ite] at hafter ⊢
  split
  · rename_i hremoved
    rw [if_pos hremoved] at hafter
    cases hafter
  · rfl

/-- No call changes the key of a controller that was paired before it and is after it. -/
theorem call_publicKey? (call : StoreCall) (hbefore : (store.controller? id).isSome = true)
    (hafter : ((store.call call).controller? id).isSome = true) :
    (store.call call).publicKey? id = store.publicKey? id := by
  cases call with
  | add controller => exact store.add_publicKey? controller hbefore
  | remove removing => exact store.remove_publicKey? removing hafter

/-- A controller that is paired can be added again with its key, however many others there are. -/
theorem add_of_publicKey? {controller : PairedController}
    (hknown : store.publicKey? controller.id = some controller.publicKey) :
    (store.add controller).1 = .ok () ↔
      (store.storage.set (recordKey controller.id) controller.encode).1 = .ok () := by
  obtain ⟨known, hcontroller, hkey⟩ := Option.map_eq_some_iff.1 hknown
  rw [add_eq_ok_iff]
  constructor
  · rintro ⟨-, -, hset⟩
    exact hset
  · intro hset
    refine ⟨?_, ?_, hset⟩
    · intro found hfound
      rw [hcontroller] at hfound
      cases hfound
      exact hkey
    · intro hunknown
      rw [hcontroller] at hunknown
      cases hunknown

end IdentityStore

/-! ## Runs -/

/-- What can happen to the pairings: what happens to an accessory, and an addition by the accessory
itself. -/
inductive TableAction where
  | take (action : SetupAction)
  | add (controller : PairedController)

namespace SetupSystem

variable (suite : CipherSuite)

/-- Takes an action. -/
def act (system : SetupSystem) : TableAction → SetupSystem
  | .take action => system.step suite action
  | .add controller => system.withStore (system.shared.store.add controller).2

/-- Takes actions one after another. -/
def actAll (system : SetupSystem) (actions : List TableAction) : SetupSystem :=
  actions.foldl (act suite) system

variable {suite} {system : SetupSystem} {id : String}

theorem actAll_concat (system : SetupSystem) (actions : List TableAction) (action : TableAction) :
    system.actAll suite (actions ++ [action]) = (system.actAll suite actions).act suite action :=
  List.foldl_append

/-- An action leaves the store as it is, or calls it once. -/
theorem act_store_cases (suite : CipherSuite) (system : SetupSystem) (action : TableAction) :
    (system.act suite action).shared.store = system.shared.store ∨
      ∃ call : StoreCall, (system.act suite action).shared.store =
        system.shared.store.call call := by
  cases action with
  | take action =>
    rcases step_store_cases suite system action with hsame | ⟨controller, hadd⟩ | ⟨id, hremove⟩
    · exact .inl hsame
    · exact .inr ⟨.add controller, hadd⟩
    · exact .inr ⟨.remove id, hremove⟩
  | add controller => exact .inr ⟨.add controller, rfl⟩

theorem actAll_reachable (suite : CipherSuite) (h : system.shared.store.Reachable)
    (actions : List TableAction) : (system.actAll suite actions).shared.store.Reachable := by
  induction actions generalizing system with
  | nil => exact h
  | cons action rest ih =>
    rcases act_store_cases suite system action with hsame | ⟨call, hcall⟩
    · exact ih (hsame ▸ h)
    · exact ih (hcall ▸ h.call call)

theorem actAll_size_le (suite : CipherSuite)
    (h : system.shared.store.controllers.size ≤ IdentityStore.maxPairings)
    (actions : List TableAction) :
    (system.actAll suite actions).shared.store.controllers.size ≤ IdentityStore.maxPairings := by
  induction actions generalizing system with
  | nil => exact h
  | cons action rest ih =>
    rcases act_store_cases suite system action with hsame | ⟨call, hcall⟩
    · exact ih (hsame ▸ h)
    · exact ih (hcall ▸ IdentityStore.call_size_le h call)

theorem act_publicKey? (suite : CipherSuite) (action : TableAction)
    (hbefore : (system.shared.store.controller? id).isSome = true)
    (hafter : ((system.act suite action).shared.store.controller? id).isSome = true) :
    (system.act suite action).shared.store.publicKey? id = system.shared.store.publicKey? id := by
  rcases act_store_cases suite system action with hsame | ⟨call, hcall⟩
  · rw [hsame]
  · rw [hcall] at hafter ⊢
    exact IdentityStore.call_publicKey? call hbefore hafter

/-- A controller that is paired all the time keeps its key. -/
theorem actAll_publicKey? (suite : CipherSuite) {actions : List TableAction}
    (hpaired : ∀ before, before <+: actions →
      ((system.actAll suite before).shared.store.controller? id).isSome = true) :
    (system.actAll suite actions).shared.store.publicKey? id =
      system.shared.store.publicKey? id := by
  induction actions using List.reverseRecOn with
  | nil => rfl
  | append_singleton actions action ih =>
    have hinitial : actions <+: actions ++ [action] := List.prefix_append ..
    have hnow := hpaired (actions ++ [action]) List.prefix_rfl
    rw [actAll_concat] at hnow ⊢
    rw [act_publicKey? suite action (hpaired actions hinitial) hnow]
    exact ih fun before hbefore => hpaired before (hbefore.trans hinitial)

/-- Controllers are added and removed in all ways there are, whichever calls of the storage fail, on
a store that was opened with no more controllers than there may be. There are never more; each of
them stands under its own identifier; while it is paired its key stays the same; an addition that is
not carried out changes nothing; and a paired controller can be added again with its key, also if
there is no room for another one. -/
theorem pairing_table_invariant (suite : CipherSuite) (start : SetupSystem)
    (hreachable : start.shared.store.Reachable)
    (hsize : start.shared.store.controllers.size ≤ IdentityStore.maxPairings)
    (history : List TableAction) :
    let system := start.actAll suite history
    let store := system.shared.store
    store.controllers.size ≤ IdentityStore.maxPairings ∧
      (∀ id controller, store.controller? id = some controller → controller.id = id) ∧
      (∀ id later,
        (∀ before, before <+: later →
          ((system.actAll suite before).shared.store.controller? id).isSome = true) →
        (system.actAll suite later).shared.store.publicKey? id = store.publicKey? id) ∧
      (∀ action, (system.act suite action).shared.store = store ∨
        ∃ call : StoreCall, (system.act suite action).shared.store = store.call call) ∧
      (∀ controller error, (store.add controller).1 = .error error →
        (store.add controller).2.controllers = store.controllers ∧
          (store.add controller).2.storage.entries = store.storage.entries ∧
          (store.add controller).2.events = store.events) ∧
      ∀ controller, store.publicKey? controller.id = some controller.publicKey →
        (store.storage.set (IdentityStore.recordKey controller.id) controller.encode).1 = .ok () →
          (store.add controller).1 = .ok () ∧
            (store.add controller).2.controller? controller.id = some controller := by
  intro system store
  refine ⟨actAll_size_le suite hsize history, ?_, ?_, act_store_cases suite system, ?_, ?_⟩
  · intro id controller hcontroller
    exact (actAll_reachable suite hreachable history).id_eq hcontroller
  · intro id later hpaired
    exact actAll_publicKey? suite hpaired
  · intro controller error herror
    have hunchanged := IdentityStore.add_of_error herror
    exact ⟨hunchanged.controllers, hunchanged.entries, hunchanged.events⟩
  · intro controller hknown hset
    have hadded := (IdentityStore.add_of_publicKey? hknown).2 hset
    exact ⟨hadded, IdentityStore.controller?_add_self hadded⟩

/-! ## A full table -/

/-- A controller with this number. -/
def numbered (number : Nat) : PairedController where
  id := String.singleton (Char.ofNat (0x41 + number))
  publicKey := .replicate 32 (UInt8.ofNat number)
  permissions := .regular

/-- A request to add a controller of eights. -/
def addsEights : Bytes :=
  (Tlv.ofList [(.state, [1]), (.method, [PairingMethod.addPairing.code]), (.identifier, [0x65]),
    (.publicKey, List.replicate 32 8)]).encode

/-- The controller of eights as an admin. -/
def eightsAdmin : PairedController where
  id := "e"
  publicKey := .replicate 32 8
  permissions := .admin

/-- One controller is paired by pair-setup and adds that of eights, and then the accessory adds as
many as there is room for. -/
def fullHistory : List TableAction :=
  (onesHistory ++ [SetupAction.request 1 sevensM5, .manage (some "c") addsEights]).map .take ++
    (List.range 14).map fun number => .add (numbered number)

def fullTable : IdentityStore :=
  ((fresh .default .unpaired (.constant 7)).actAll .transparent fullHistory).shared.store

/-- A further controller is refused, but the controller of eights can become an admin. -/
theorem pairing_table_invariant_full :
    IdentityStore.unpaired.Reachable ∧
      IdentityStore.unpaired.controllers.size ≤ IdentityStore.maxPairings ∧
      fullTable.controllers.size = IdentityStore.maxPairings ∧
      (fullTable.add (numbered 14)).1 = .error PairingError.maxPeers ∧
      (fullTable.add (numbered 14)).2.controllers = fullTable.controllers ∧
      fullTable.isAdmin eightsAdmin.id = false ∧
      (fullTable.add eightsAdmin).2.controller? eightsAdmin.id = some eightsAdmin := by
  have hsize : IdentityStore.unpaired.controllers.size ≤ IdentityStore.maxPairings := by
    decide +kernel
  have htable := pairing_table_invariant .transparent (fresh .default .unpaired (.constant 7))
    IdentityStore.unpaired_reachable hsize fullHistory
  have hstore : ((fresh .default .unpaired (.constant 7)).actAll .transparent
      fullHistory).shared.store = fullTable := rfl
  simp only [hstore] at htable
  obtain ⟨-, -, -, -, hrefused, hupdated⟩ := htable
  have hfull : (fullTable.add (numbered 14)).1 = .error PairingError.maxPeers := by
    decide +kernel
  have hknown : fullTable.publicKey? eightsAdmin.id = some eightsAdmin.publicKey := by
    decide +kernel
  have hset : (fullTable.storage.set (IdentityStore.recordKey eightsAdmin.id)
      eightsAdmin.encode).1 = .ok () := by
    decide +kernel
  obtain ⟨hsame, -, -⟩ := hrefused (numbered 14) PairingError.maxPeers hfull
  obtain ⟨-, hfound⟩ := hupdated eightsAdmin hknown hset
  exact ⟨IdentityStore.unpaired_reachable, hsize, by decide +kernel, hfull, hsame,
    by decide +kernel, hfound⟩

end SetupSystem

end HomeKit
