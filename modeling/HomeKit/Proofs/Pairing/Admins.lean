import HomeKit.Proofs.Pairing.Changes
import HomeKit.Proofs.Pairing.Opening
import HomeKit.Proofs.Pairing.SetupSound

/-!
# Paired accessories and their admins

Only an admin may manage the pairings, and pair-setup is refused while a controller is paired. An
accessory whose controllers are all regular is therefore stuck: nobody can remove them, and nobody
can be added.

Pair-setup adds admins only, and a removal that takes the last admin takes everyone
(`IdentityStore.IsManaged.remove`). What is left is an admin's request to add a controller. It may
name one that is paired already, whose permissions it then changes; there is no check that an admin
is left (`IdentityStore.DemotesLastAdmin`). The accessory keeps an admin exactly as long as no such
request is made (`SetupSystem.isManaged_iff_no_demotion`).
-/

namespace HomeKit

namespace IdentityStore

open Std (ExtTreeMap)

variable {store after : IdentityStore} {controller : PairedController} {id : String}

/-- If anyone is paired, some admin is. -/
def IsManaged (store : IdentityStore) : Prop :=
  store.isPaired = true → ∃ id, store.isAdmin id = true

/-- The only admin asks to be added once more, with the same key but not as an admin. -/
def DemotesLastAdmin (store : IdentityStore) (requester : Option String) (request : Bytes) : Prop :=
  ∃ controller known, AsksToAdd request controller ∧ requester = some controller.id ∧
    controller.isAdmin = false ∧ store.controller? controller.id = some known ∧
    known.publicKey = controller.publicKey ∧ known.isAdmin = true ∧
    ∀ id, store.isAdmin id = true → id = controller.id

/-- The storage of the store without pairings is reliable. -/
theorem unpaired_reliable : unpaired.storage.Reliable := by
  have hopen := toOption_eq_some_iff.1 (Option.some_get openOrCreate_empty_isSome).symm
  obtain ⟨hfails, -, hok⟩ := openOrCreate_spec {} (.constant 7)
  have hstorage := (hok unpaired hopen).1
  intro kind number
  rw [hstorage, hfails]

/-! ## Who is an admin afterwards -/

theorem isPaired_iff :
    store.isPaired = true ↔ ∃ id controller, store.controller? id = some controller := by
  constructor
  · intro hpaired
    have hne : store.controllers ≠ ∅ := by
      intro hempty
      rw [isPaired_eq_false_iff.2 hempty] at hpaired
      cases hpaired
    rcases hlist : store.controllers.toList with _ | ⟨⟨id, controller⟩, rest⟩
    · exact absurd (ExtTreeMap.toList_eq_nil_iff.1 hlist) hne
    · refine ⟨id, controller, ExtTreeMap.mem_toList_iff_getElem?_eq_some.1 ?_⟩
      rw [hlist]
      exact List.mem_cons_self
  · rintro ⟨id, controller, hcontroller⟩
    exact isPaired_of_controller? hcontroller

theorem isManaged_congr (h : after.controllers = store.controllers) :
    after.IsManaged ↔ store.IsManaged := by
  unfold IsManaged isPaired isAdmin controller?
  rw [h]

theorem isAdmin_of_insert
    (h : after.controllers = store.controllers.insert controller.id controller) (id : String) :
    after.isAdmin id = if controller.id = id then controller.isAdmin else store.isAdmin id := by
  unfold isAdmin controller?
  rw [h, ExtTreeMap.getElem?_insert]
  simp only [Std.LawfulEqOrd.compare_eq_iff_eq]
  split
  · rfl
  · rfl

theorem isPaired_of_insert
    (h : after.controllers = store.controllers.insert controller.id controller) :
    after.isPaired = true := by
  refine isPaired_iff.2 ⟨controller.id, controller, ?_⟩
  unfold controller?
  rw [h, ExtTreeMap.getElem?_insert_self]

theorem isPaired_add (h : (store.add controller).1 = .ok ()) :
    (store.add controller).2.isPaired = true :=
  isPaired_of_insert (add_controllers h)

/-! ## What keeps an admin -/

theorem IsManaged.add_admin (h : store.IsManaged) (hadmin : controller.isAdmin = true) :
    (store.add controller).2.IsManaged := by
  rcases add_cases store controller with ⟨-, hcontrollers, -⟩ | ⟨-, hcontrollers, -⟩
  · intro _
    refine ⟨controller.id, ?_⟩
    rw [isAdmin_of_insert hcontrollers, if_pos rfl, hadmin]
  · exact (isManaged_congr hcontrollers).2 h

/-- A removal leaves an admin or nobody. -/
theorem IsManaged.remove (h : store.IsManaged) (hreliable : store.storage.Reliable)
    (hkeyed : KeyedById store.controllers) (id : String) : (store.remove id).2.IsManaged := by
  have hleft := controller?_remove hreliable id
  by_cases hother : ∃ other, other ≠ id ∧ store.isAdmin other = true
  · obtain ⟨other, hne, hadmin⟩ := hother
    intro _
    refine ⟨other, ?_⟩
    rw [doomed_of_isAdmin hkeyed hne hadmin] at hleft
    unfold isAdmin
    rw [hleft other, if_neg (fun hgone => hne (List.mem_singleton.1 hgone.2))]
    exact hadmin
  · have hlast : ∀ other, store.isAdmin other = true → other = id := by
      intro other hadmin
      by_cases heq : other = id
      · exact heq
      · exact absurd ⟨other, heq, hadmin⟩ hother
    by_cases hid : store.controllers.contains id = true
    · intro hpaired
      obtain ⟨other, found, hfound⟩ := isPaired_iff.1 hpaired
      rw [hleft other] at hfound
      split at hfound
      · cases hfound
      · rename_i hkept
        have hcontains : store.controllers.contains other = true := by
          rw [ExtTreeMap.contains_eq_isSome_getElem?]
          exact Option.isSome_of_eq_some hfound
        exact absurd ⟨hid, mem_doomed_of_last hkeyed hlast other hcontains⟩ hkept
    · refine (isManaged_congr ?_).2 h
      unfold IdentityStore.remove
      rw [if_neg hid]

/-! ## What does not -/

/-- Nobody is an admin after such a request. -/
theorem DemotesLastAdmin.not_isManaged (hreliable : store.storage.Reliable)
    {requester : Option String} {request : Bytes} (h : store.DemotesLastAdmin requester request) :
    ¬ (store.handlePairings requester request).2.IsManaged := by
  obtain ⟨controller, known, hasks, rfl, hregular, hknown, hkey, hadmin, hlast⟩ := h
  have hrequester : (some controller.id).any store.isAdmin = true :=
    isAdmin_iff.2 ⟨known, hknown, hadmin⟩
  rw [handlePairings_of_asksToAdd hrequester hasks]
  have hadded := add_of_known hreliable hknown hkey
  intro hmanaged
  obtain ⟨id, hid⟩ := hmanaged (isPaired_add hadded)
  rw [isAdmin_of_insert (add_controllers hadded)] at hid
  split at hid
  · rw [hregular] at hid
    cases hid
  · rename_i hne
    exact hne (hlast id hid).symm

/-- No other addition by an admin takes the last one. -/
theorem demotesLastAdmin_of_add {requester : Option String} {request : Bytes}
    (hrequester : requester.any store.isAdmin = true) (hasks : AsksToAdd request controller)
    (hunmanaged : ¬ (store.add controller).2.IsManaged) :
    store.DemotesLastAdmin requester request := by
  obtain ⟨admin, rfl, hadmin⟩ := (Option.any_eq_true _ _).1 hrequester
  rcases add_cases store controller with ⟨hok, hcontrollers, -⟩ | ⟨-, hcontrollers, -⟩
  · have hnone : ∀ id, (store.add controller).2.isAdmin id ≠ true := by
      intro id hid
      exact hunmanaged fun _ => ⟨id, hid⟩
    have hregular : controller.isAdmin = false := by
      have hself := hnone controller.id
      rw [isAdmin_of_insert hcontrollers, if_pos rfl] at hself
      exact Bool.eq_false_iff.2 hself
    have hlast : ∀ id, store.isAdmin id = true → id = controller.id := by
      intro id hid
      by_cases heq : controller.id = id
      · exact heq.symm
      · have hother := hnone id
        rw [isAdmin_of_insert hcontrollers, if_neg heq] at hother
        exact absurd hid hother
    cases hlast admin hadmin
    obtain ⟨known, hknown, hisAdmin⟩ := isAdmin_iff.1 hadmin
    exact ⟨controller, known, hasks, rfl, hregular, hknown, publicKey_eq_of_add hok hknown,
      hisAdmin, hlast⟩
  · exact absurd ((isManaged_congr hcontrollers).2 fun _ => ⟨admin, hadmin⟩) hunmanaged

/-- A request to manage pairings takes the last admin only if the last admin asks for it. -/
theorem handlePairings_isManaged_iff (h : store.IsManaged) (hreliable : store.storage.Reliable)
    (hkeyed : KeyedById store.controllers) (requester : Option String) (request : Bytes) :
    (store.handlePairings requester request).2.IsManaged ↔
      ¬ store.DemotesLastAdmin requester request := by
  constructor
  · intro hmanaged hdemotes
    exact hdemotes.not_isManaged hreliable hmanaged
  · intro hkeeps
    rcases handlePairings_cases store requester request with
      ⟨hrequester, controller, hasks, hadd⟩ | ⟨-, id, -, hremove⟩ | hsame
    · by_cases hmanaged : (store.add controller).2.IsManaged
      · rw [hadd]
        exact hmanaged
      · exact absurd (demotesLastAdmin_of_add hrequester hasks hmanaged) hkeeps
    · rw [hremove]
      exact h.remove hreliable hkeyed id
    · rw [hsame]
      exact h

end IdentityStore

namespace SetupSystem

variable {suite : CipherSuite} {system : SetupSystem} {action : SetupAction}

/-- A request of pair-setup leaves the store as it is, or adds an admin. -/
theorem call_store_cases (suite : CipherSuite) (system : SetupSystem) (conn : ConnectionId)
    (body : Bytes) :
    (system.call suite conn body).2.store = system.shared.store ∨
      ∃ controller : PairedController, controller.isAdmin = true ∧
        (system.call suite conn body).2.store = (system.shared.store.add controller).2 := by
  have hmove := call_move suite system conn body
  generalize system.call suite conn body = result at hmove
  cases hmove with
  | started hdecode hstate hstart => exact Or.inl rfl
  | busy hdecode hstate hbusy => exact Or.inl rfl
  | proved hdecode hstate hstage hcheck => exact Or.inl rfl
  | refused hdecode hstate hstage hcheck => exact Or.inl rfl
  | @paired tlv key controller hdecode hstate hstage hintro hadd =>
    obtain ⟨-, -, -, -, -, -, -, -, -, -, -, hadmin⟩ := hintro
    exact Or.inr ⟨controller, by rw [PairedController.isAdmin, hadmin]; rfl, rfl⟩
  | @notStored tlv key controller error hdecode hstate hstage hintro hadd =>
    obtain ⟨-, -, -, -, -, -, -, -, -, -, -, hadmin⟩ := hintro
    exact Or.inr ⟨controller, by rw [PairedController.isAdmin, hadmin]; rfl, rfl⟩
  | failed hbusy => exact Or.inl rfl

/-- An action leaves the store as it is, adds a controller or removes one. -/
theorem step_store_cases (suite : CipherSuite) (system : SetupSystem) (action : SetupAction) :
    (system.step suite action).shared.store = system.shared.store ∨
      (∃ controller, (system.step suite action).shared.store =
        (system.shared.store.add controller).2) ∨
      ∃ id, (system.step suite action).shared.store = (system.shared.store.remove id).2 := by
  cases action with
  | request conn body =>
    rcases call_store_cases suite system conn body with hsame | ⟨controller, -, hadd⟩
    · exact Or.inl hsame
    · exact Or.inr (Or.inl ⟨controller, hadd⟩)
  | drop conn => exact Or.inl rfl
  | manage requester body =>
    rcases system.shared.store.handlePairings_cases requester body with
      ⟨-, controller, -, hadd⟩ | ⟨-, id, -, hremove⟩ | hsame
    · exact Or.inr (Or.inl ⟨controller, hadd⟩)
    · exact Or.inr (Or.inr ⟨id, hremove⟩)
    · exact Or.inl hsame
  | remove id => exact Or.inr (Or.inr ⟨id, rfl⟩)

/-- Which calls of the storage fail never changes. -/
theorem step_storage_fails (suite : CipherSuite) (system : SetupSystem) (action : SetupAction) :
    (system.step suite action).shared.store.storage.fails = system.shared.store.storage.fails := by
  rcases step_store_cases suite system action with hsame | ⟨controller, hadd⟩ | ⟨id, hremove⟩
  · rw [hsame]
  · rw [hadd, IdentityStore.add_storage_fails]
  · rw [hremove, IdentityStore.remove_storage_fails]

theorem step_keyedById (suite : CipherSuite) (action : SetupAction)
    (h : IdentityStore.KeyedById system.shared.store.controllers) :
    IdentityStore.KeyedById (system.step suite action).shared.store.controllers := by
  rcases step_store_cases suite system action with hsame | ⟨controller, hadd⟩ | ⟨id, hremove⟩
  · rw [hsame]
    exact h
  · rw [hadd]
    exact h.add controller
  · rw [hremove]
    exact h.remove id

/-- An action takes the last admin only if it is that admin's request. -/
theorem step_isManaged_iff (suite : CipherSuite) (h : system.shared.store.IsManaged)
    (hreliable : system.shared.store.storage.Reliable)
    (hkeyed : IdentityStore.KeyedById system.shared.store.controllers) (action : SetupAction) :
    (system.step suite action).shared.store.IsManaged ↔
      ∀ requester body, action = .manage requester body →
        ¬ system.shared.store.DemotesLastAdmin requester body := by
  cases action with
  | request conn body =>
    refine iff_of_true ?_ nofun
    rcases call_store_cases suite system conn body with hsame | ⟨controller, hadmin, hadd⟩
    · rw [step_request_shared, hsame]
      exact h
    · rw [step_request_shared, hadd]
      exact h.add_admin hadmin
  | drop conn => exact iff_of_true h nofun
  | manage requester body =>
    have hmanage := IdentityStore.handlePairings_isManaged_iff h hreliable hkeyed requester body
    constructor
    · rintro hmanaged _ _ ⟨⟩
      exact hmanage.1 hmanaged
    · intro hkeeps
      exact hmanage.2 (hkeeps requester body rfl)
  | remove id => exact iff_of_true (h.remove hreliable hkeyed id) nofun

theorem run_reliable (suite : CipherSuite) (h : system.shared.store.storage.Reliable)
    (actions : List SetupAction) : (system.run suite actions).shared.store.storage.Reliable := by
  induction actions generalizing system with
  | nil => exact h
  | cons action rest ih => exact ih (h.of_fails (step_storage_fails suite system action))

theorem run_keyedById (suite : CipherSuite)
    (h : IdentityStore.KeyedById system.shared.store.controllers) (actions : List SetupAction) :
    IdentityStore.KeyedById (system.run suite actions).shared.store.controllers := by
  induction actions generalizing system with
  | nil => exact h
  | cons action rest ih => exact ih (step_keyedById suite action h)

/-- An accessory that starts with no pairings keeps an admin, as long as anyone is paired, exactly
if the last admin never asks to be added again as a regular controller. -/
theorem isManaged_iff_no_demotion (suite : CipherSuite) (setupCode : SetupCode)
    (store : IdentityStore) (random : Entropy) (hempty : store.controllers = ∅)
    (hreliable : store.storage.Reliable) (history : List SetupAction) :
    let start := fresh setupCode store random
    (∀ before, before <+: history → (start.run suite before).shared.store.IsManaged) ↔
      ∀ before requester body, before ++ [.manage requester body] <+: history →
        ¬ (start.run suite before).shared.store.DemotesLastAdmin requester body := by
  intro start
  have hkeyed : IdentityStore.KeyedById start.shared.store.controllers := by
    rw [show start.shared.store.controllers = ∅ from hempty]
    exact .empty
  -- one action, after any others that left an admin
  have hstep : ∀ before action, (start.run suite before).shared.store.IsManaged →
      ((start.run suite (before ++ [action])).shared.store.IsManaged ↔
        ∀ requester body, action = .manage requester body →
          ¬ (start.run suite before).shared.store.DemotesLastAdmin requester body) := by
    intro before action hmanaged
    rw [run_concat]
    exact step_isManaged_iff suite hmanaged (run_reliable suite hreliable before)
      (run_keyedById suite hkeyed before) action
  constructor
  · intro hmanaged before requester body hinitial
    have hbefore := hmanaged before ((List.prefix_append ..).trans hinitial)
    exact (hstep before _ hbefore).1 (hmanaged _ hinitial) requester body rfl
  · intro hkeeps before hinitial
    induction before using List.reverseRecOn with
    | nil =>
      intro hpaired
      change store.isPaired = true at hpaired
      rw [IdentityStore.isPaired_eq_false_iff.2 hempty] at hpaired
      cases hpaired
    | append_singleton before action ih =>
      have hbefore := ih ((List.prefix_append ..).trans hinitial)
      refine (hstep before action hbefore).2 ?_
      rintro requester body rfl
      exact hkeeps before requester body hinitial

/-! ## A run -/

/-- A controller that is paired and introduces itself with all sevens asks to be added once more;
its request names no permissions. -/
def demotion : Bytes :=
  (Tlv.ofList [(.state, [1]), (.method, [3]), (.identifier, [0x63]),
    (.publicKey, List.replicate 32 7)]).encode

/-- The first controller is paired and takes its own permissions. -/
def demotionHistory : List SetupAction :=
  onesHistory ++ [.request 1 sevensM5, .manage (some "c") demotion]

theorem isManaged_iff_no_demotion_unpaired :
    IdentityStore.unpaired.controllers = ∅ ∧ IdentityStore.unpaired.storage.Reliable ∧
      let start := fresh .default .unpaired (.constant 7)
      ((∀ before, before <+: demotionHistory →
          (start.run .transparent before).shared.store.IsManaged) ↔
        ∀ before requester body, before ++ [.manage requester body] <+: demotionHistory →
          ¬ (start.run .transparent before).shared.store.DemotesLastAdmin requester body) := by
  have hempty : IdentityStore.unpaired.controllers = ∅ :=
    IdentityStore.isPaired_eq_false_iff.1 (by decide +kernel)
  exact ⟨hempty, IdentityStore.unpaired_reliable, isManaged_iff_no_demotion .transparent .default
    .unpaired (.constant 7) hempty IdentityStore.unpaired_reliable demotionHistory⟩

/-- After that run a controller is paired, but no admin is. -/
theorem demotionHistory_not_isManaged :
    IdentityStore.unpaired.controllers = ∅ ∧ IdentityStore.unpaired.storage.Reliable ∧
      ¬ ((fresh .default .unpaired (.constant 7)).run .transparent
        demotionHistory).shared.store.IsManaged := by
  have hempty : IdentityStore.unpaired.controllers = ∅ :=
    IdentityStore.isPaired_eq_false_iff.1 (by decide +kernel)
  refine ⟨hempty, IdentityStore.unpaired_reliable, ?_⟩
  have hpaired : ((fresh .default .unpaired (.constant 7)).run .transparent
      demotionHistory).shared.store.isPaired = true := by decide +kernel
  have hregular : ((fresh .default .unpaired (.constant 7)).run .transparent
      demotionHistory).shared.store.controllerList.any (·.isAdmin) = false := by decide +kernel
  intro hmanaged
  obtain ⟨id, hid⟩ := hmanaged hpaired
  obtain ⟨controller, hcontroller, hadmin⟩ := IdentityStore.isAdmin_iff.1 hid
  rw [List.any_eq_false] at hregular
  exact hregular controller (IdentityStore.mem_controllerList_iff.2 ⟨id, hcontroller⟩) hadmin

end SetupSystem

end HomeKit
