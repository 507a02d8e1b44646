import HomeKit.Proofs.Pairing.Changes
import HomeKit.Proofs.Tlv.Records

/-!
# The list of the pairings

An admin who asks for the pairings is told all of them in one message, a record for each. What is
decoded comes apart into these records again, for any number of controllers and any identifiers
(`list_lossless`), and a record says all about its controller (`Describes.controller_inj`).
-/

namespace HomeKit

theorem Permissions.code_inj {permissions other : Permissions} :
    permissions.code = other.code ↔ permissions = other := by
  cases permissions <;> cases other <;> decide

namespace IdentityStore

open Std (ExtTreeMap)

variable {store : IdentityStore} {controller other : PairedController}

/-- The request asks for the list of the pairings. -/
def AsksToList (request : Bytes) : Prop :=
  ∃ tlv, Tlv.decode request = .ok tlv ∧ tlv.state? = some 1 ∧
    tlv.method? = some PairingMethod.listPairings.code

/-- The record says who the controller is, which key it has and what it may do, and reports no
error. -/
structure Describes (record : Tlv) (controller : PairedController) : Prop where
  identifier : record.get? .identifier = some (utf8 controller.id)
  publicKey : record.get? .publicKey = some controller.publicKey.bytes
  permissions : record.get? .permissions = some [controller.permissions.code]
  error : record.get? .error = none

/-- A record describes just one controller. -/
theorem Describes.controller_inj {record : Tlv} (h : Describes record controller)
    (hother : Describes record other) : controller = other := by
  obtain ⟨id, publicKey, permissions⟩ := controller
  obtain ⟨otherId, otherKey, otherPermissions⟩ := other
  have hid : utf8 id = utf8 otherId :=
    Option.some.inj (h.identifier.symm.trans hother.identifier)
  have hkey : publicKey.bytes = otherKey.bytes :=
    Option.some.inj (h.publicKey.symm.trans hother.publicKey)
  have hcode : [permissions.code] = [otherPermissions.code] :=
    Option.some.inj (h.permissions.symm.trans hother.permissions)
  rw [utf8_inj.1 hid, Octets.ext hkey, Permissions.code_inj.1 (List.singleton_inj.1 hcode)]

/-- The controllers are all that are paired, in ascending order of their identifiers. -/
structure AllPaired (store : IdentityStore) (controllers : List PairedController) : Prop where
  ascending : controllers.Pairwise (·.id < ·.id)
  mem_iff : ∀ id controller,
    store.controller? id = some controller ↔ controller ∈ controllers ∧ controller.id = id

theorem allPaired_controllerList (h : store.Reachable) : store.AllPaired store.controllerList where
  ascending := by
    have hordered : store.controllers.toList.Pairwise fun a b => compare a.1 b.1 = .lt :=
      ExtTreeMap.ordered_keys_toList
    rw [controllerList, values_eq_map_toList, List.pairwise_map]
    refine hordered.imp_of_mem fun {first second} hfirst hsecond hlt => ?_
    rw [h.id_eq (ExtTreeMap.mem_toList_iff_getElem?_eq_some.1 hfirst),
      h.id_eq (ExtTreeMap.mem_toList_iff_getElem?_eq_some.1 hsecond)]
    exact compareOfLessAndEq_eq_lt.1 hlt
  mem_iff id controller := by
    rw [mem_controllerList_iff]
    constructor
    · intro hpaired
      exact ⟨⟨id, hpaired⟩, h.id_eq hpaired⟩
    · rintro ⟨⟨other, hpaired⟩, rfl⟩
      rw [h.id_eq hpaired]
      exact hpaired

/-! ## Records of controllers -/

theorem isRecord_listing (controller : PairedController) : Tlv.IsRecord (listing controller) where
  nonempty := nofun
  unseparated := by simp [listing]
  unjoined := by simp [listing]

theorem isRecord_state_listing (state : Bytes) (controller : PairedController) :
    Tlv.IsRecord ((.state, state) :: listing controller) where
  nonempty := nofun
  unseparated := by simp [listing]
  unjoined := by simp [listing]

theorem describes_listing (controller : PairedController) :
    Describes (.ofList (listing controller)) controller where
  identifier := by simp [listing]
  publicKey := by simp [listing]
  permissions := by simp [listing]
  error := by simp [listing]

theorem Describes.cons_state {fields : List (TlvType × Bytes)}
    (h : Describes (.ofList fields) controller) (state : Bytes) :
    Describes (.ofList ((.state, state) :: fields)) controller := by
  obtain ⟨hidentifier, hpublicKey, hpermissions, herror⟩ := h
  constructor <;> simpa

/-- The records of an answer with at least one controller: the first one has the state as well. -/
def recordsOf (first : PairedController) (rest : List PairedController) :
    List (List (TlvType × Bytes)) :=
  ((.state, [2]) :: listing first) :: rest.map listing

theorem isRecord_of_mem_recordsOf {first : PairedController} {rest : List PairedController}
    {fields : List (TlvType × Bytes)} (h : fields ∈ recordsOf first rest) :
    Tlv.IsRecord fields := by
  rcases List.mem_cons.1 h with rfl | hrest
  · exact isRecord_state_listing [2] first
  · obtain ⟨controller, -, rfl⟩ := List.mem_map.1 hrest
    exact isRecord_listing controller

theorem describes_recordsOf (first : PairedController) (rest : List PairedController) :
    List.Forall₂ Describes ((recordsOf first rest).map Tlv.ofList) (first :: rest) := by
  rw [recordsOf, List.map_cons, List.map_map]
  refine .cons ((describes_listing first).cons_state [2]) ?_
  rw [List.forall₂_map_left_iff, List.forall₂_same]
  exact fun controller _ => describes_listing controller

theorem listingResponse_eq {first : PairedController} {rest : List PairedController}
    (h : store.controllerList = first :: rest) :
    store.listingResponse =
      .ofList (List.intercalate [(.separator, [])] (recordsOf first rest)) := by
  rw [listingResponse, h, recordsOf]
  cases rest <;> rfl

theorem handlePairings_of_asksToList {requester : Option String} {request : Bytes}
    (hadmin : requester.any store.isAdmin = true) (h : AsksToList request) :
    store.handlePairings requester request = (answer (.ok store.listingResponse) [], store) := by
  obtain ⟨tlv, hdecode, hstate, hmethod⟩ := h
  have hcode : PairingMethod.ofCode PairingMethod.listPairings.code = .ok .listPairings :=
    ofCode_eq_ok_iff.2 rfl
  rw [handlePairings_of_admin hadmin hdecode hstate, carryOut]
  simp only [hmethod, hcode]

/-- Asked by an admin for the pairings, the store answers with one record for each of them, in
ascending order of the identifiers: what is decoded comes apart into records that describe them. The
first record also has the state of the answer. Nothing is changed or removed. -/
theorem list_lossless (h : store.Reachable) {requester : String} {request : Bytes}
    (hadmin : store.isAdmin requester = true) (hasks : AsksToList request) :
    (store.handlePairings (some requester) request).2 = store ∧
    (store.handlePairings (some requester) request).1.removed = [] ∧
    ∃ tlv controllers,
      Tlv.decode (store.handlePairings (some requester) request).1.body = .ok tlv ∧
      store.AllPaired controllers ∧ List.Forall₂ Describes tlv.splitRecords controllers ∧
      ∃ first rest, tlv.splitRecords = first :: rest ∧ first.get? .state = some [2] ∧
        ∀ record ∈ rest, record.get? .state = none := by
  have hsome : (some requester).any store.isAdmin = true := hadmin
  rw [handlePairings_of_asksToList hsome hasks]
  refine ⟨rfl, rfl, ?_⟩
  obtain ⟨paired, hpaired, -⟩ := isAdmin_iff.1 hadmin
  have hall := allPaired_controllerList h
  cases hlist : store.controllerList with
  | nil =>
    have hmem := ((hall.mem_iff requester paired).1 hpaired).1
    rw [hlist] at hmem
    cases hmem
  | cons first rest =>
    rw [hlist] at hall
    have hrecords : ∀ fields ∈ recordsOf first rest, Tlv.IsRecord fields :=
      fun _ => isRecord_of_mem_recordsOf
    obtain ⟨tlv, hdecode, hsplit⟩ := Tlv.decode_encode_intercalate hrecords
    rw [← listingResponse_eq hlist] at hdecode
    refine ⟨tlv, first :: rest, hdecode, hall, hsplit ▸ describes_recordsOf first rest, _, _,
      hsplit,
      Tlv.get?_ofList_cons_self .., ?_⟩
    intro record hrecord
    obtain ⟨fields, hfields, rfl⟩ := List.mem_map.1 hrecord
    obtain ⟨controller, -, rfl⟩ := List.mem_map.1 hfields
    simp [listing]

/-- An admin without a name, and a guest. -/
def nameless : IdentityStore :=
  ((withController ⟨"", .replicate 32 1, .admin⟩).add ⟨"guest", .replicate 32 2, .regular⟩).2

theorem nameless_reachable : nameless.Reachable :=
  (withController_reachable _).added _

theorem list_lossless_nameless :
    nameless.Reachable ∧ nameless.isAdmin "" = true ∧ AsksToList [6, 1, 1, 0, 1, 5] ∧
      nameless.controllerList.map (·.id) = ["", "guest"] ∧
      ∃ tlv controllers,
        Tlv.decode (nameless.handlePairings (some "") [6, 1, 1, 0, 1, 5]).1.body = .ok tlv ∧
          nameless.AllPaired controllers ∧ List.Forall₂ Describes tlv.splitRecords controllers := by
  have hadmin : nameless.isAdmin "" = true := by decide +kernel
  have hasks : AsksToList [6, 1, 1, 0, 1, 5] :=
    ⟨.ofList [(.state, [1]), (.method, [5])], by decide, by decide, by decide⟩
  obtain ⟨-, -, tlv, controllers, hdecode, hall, hdescribes, -⟩ :=
    list_lossless nameless_reachable hadmin hasks
  exact ⟨nameless_reachable, hadmin, hasks, by decide +kernel, tlv, controllers, hdecode, hall,
    hdescribes⟩

end IdentityStore

end HomeKit
