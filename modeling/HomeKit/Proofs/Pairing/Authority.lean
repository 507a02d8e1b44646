import HomeKit.Proofs.Pairing.Changes
import HomeKit.Proofs.Tlv.RoundTrip
import HomeKit.Text.Pieces

/-!
# Who may manage the pairings

A request is decoded first, then it has to be a message with number 1, and only then does it matter
who asks. Whoever is no admin is answered with one of two errors, by the request alone, and nothing
happens (`IdentityStore.only_admins_manage`). So nobody else can change the pairings or find out
anything about them.

One of these errors, the missing authentication, is for them only: an admin may be told that
something else is wrong, or what has been done, but never that
(`IdentityStore.handlePairings_body_eq_iff`).
-/

namespace HomeKit

namespace IdentityStore

variable {store : IdentityStore} {requester : Option String} {request : Bytes}

theorem any_isAdmin_eq_false_iff :
    requester.any store.isAdmin = false ↔ ∀ id ∈ requester, store.isAdmin id = false := by
  cases requester <;> simp

/-! ## What an admin is answered -/

/-- An addition may fail, but not for want of a right to it. -/
theorem code_of_add {controller : PairedController} {error : Error}
    (h : (store.add controller).1 = .error error) : error.code ≠ .authentication := by
  have hadded := store.add_addition controller
  generalize store.add controller = result at hadded h
  cases hadded with
  | otherKey | full | notStored =>
    cases h
    nofun
  | updated | paired => cases h

/-- No field of a listing reports an error. -/
theorem type_ne_error_of_mem_listingResponse {field : TlvField}
    (h : field ∈ store.listingResponse.fields) : field.type ≠ TlvType.error.code := by
  unfold listingResponse Tlv.ofList at h
  rw [List.map_cons, List.mem_cons, List.mem_map] at h
  rcases h with rfl | ⟨⟨type, value⟩, hmem, rfl⟩
  · nofun
  · rcases Text.mem_intercalate_singleton hmem with heq | ⟨piece, hpiece, hmem⟩
    · cases heq
      nofun
    · obtain ⟨controller, -, rfl⟩ := List.mem_map.1 hpiece
      simp only [listing, List.mem_cons, List.not_mem_nil, or_false] at hmem
      rcases hmem with heq | heq | heq <;> cases heq <;> nofun

/-- An admin is never told that the authentication is missing. -/
theorem handlePairings_body_eq_iff :
    (store.handlePairings requester request).1.body =
        (Tlv.errorResponse 2 .authentication).encode ↔
      IsFirstMessage request ∧ ∀ id ∈ requester, store.isAdmin id = false := by
  rw [← any_isAdmin_eq_false_iff]
  have hhandled := store.handlePairings_handled requester request
  generalize store.handlePairings requester request = result at hhandled
  have hadmin (hrequester : requester.any store.isAdmin = true) :
      ¬ (IsFirstMessage request ∧ requester.any store.isAdmin = false) := by
    rw [hrequester]
    nofun
  have herror (error : Error) (removed : List String) (hcode : error.code ≠ .authentication) :
      (answer (.error error) removed).body ≠ (Tlv.errorResponse 2 .authentication).encode :=
    fun hbody => hcode (Tlv.encode_errorResponse_inj.1 hbody)
  have hdone (removed : List String) :
      (answer (.ok done) removed).body ≠ (Tlv.errorResponse 2 .authentication).encode := nofun
  cases hhandled with
  | notFirst hfirst =>
    refine iff_of_false ?_ fun h => hfirst h.1
    nofun
  | notAdmin hfirst hrequester => exact iff_of_true rfl ⟨hfirst, hrequester⟩
  | malformed hfirst hrequester =>
    refine iff_of_false ?_ (hadmin hrequester)
    nofun
  | @added controller hrequester =>
    refine iff_of_false ?_ (hadmin hrequester)
    cases hadd : (store.add controller).1 with
    | error error => exact herror error [] (code_of_add hadd)
    | ok added => exact hdone []
  | @removed id hrequester =>
    refine iff_of_false ?_ (hadmin hrequester)
    cases (store.remove id).1.error with
    | some error => exact herror error _ nofun
    | none => exact hdone _
  | listed hfirst hrequester =>
    refine iff_of_false ?_ (hadmin hrequester)
    intro hbody
    obtain ⟨field, hfield, htype⟩ := Tlv.exists_error_of_encode_eq hbody
    exact type_ne_error_of_mem_listingResponse hfield htype

/-! ## What the others are answered -/

instance (request : Bytes) : Decidable (IsFirstMessage request) :=
  decidable_of_iff ((Tlv.decode request).toOption.bind Tlv.state? = some 1) <| by
    unfold IsFirstMessage
    cases Tlv.decode request <;> simp [Except.toOption]

/-- The error that is reported to whoever is no admin. -/
def refusal (request : Bytes) : TlvErrorCode :=
  if IsFirstMessage request then .authentication else .unknown

theorem handlePairings_of_not_admin (hrequester : ∀ id ∈ requester, store.isAdmin id = false) :
    store.handlePairings requester request = (denial (refusal request), store) := by
  have hno := any_isAdmin_eq_false_iff.2 hrequester
  have hhandled := store.handlePairings_handled requester request
  generalize store.handlePairings requester request = result at hhandled
  unfold refusal
  cases hhandled with
  | notFirst hfirst => rw [if_neg hfirst]
  | notAdmin hfirst => rw [if_pos hfirst]
  | malformed _ hadmin | added hadmin | removed hadmin | listed _ hadmin =>
    rw [hno] at hadmin
    cases hadmin

/-- A request of someone who is no admin changes nothing and removes nobody. The answer depends on
the request alone: on another store, whose admins the requester is not among either, it is the
same. -/
theorem only_admins_manage (store : IdentityStore) (requester : Option String) (request : Bytes)
    (hrequester : ∀ id ∈ requester, store.isAdmin id = false) :
    let result := store.handlePairings requester request
    result.2 = store ∧
      result.1.removed = [] ∧
      result.1.body = (Tlv.errorResponse 2
        (if IsFirstMessage request then .authentication else .unknown)).encode ∧
      ∀ (other : IdentityStore) (asker : Option String),
        (∀ id ∈ asker, other.isAdmin id = false) →
          (other.handlePairings asker request).1 = result.1 := by
  intro result
  have hresult : result = (denial (refusal request), store) :=
    handlePairings_of_not_admin hrequester
  rw [hresult]
  refine ⟨rfl, rfl, rfl, ?_⟩
  intro other asker hasker
  rw [handlePairings_of_not_admin hasker]

/-- An admin and a guest. -/
def withGuest : IdentityStore :=
  ((withController ⟨"admin", .replicate 32 1, .admin⟩).add ⟨"guest", .replicate 32 2, .regular⟩).2

/-- A request for the list of the pairings. -/
def listRequest : Bytes :=
  (Tlv.ofList [(.state, [1]), (.method, [PairingMethod.listPairings.code])]).encode

/-- The guest is refused, in the same way as when nobody is paired. -/
theorem only_admins_manage_guest :
    (∀ id ∈ some "guest", withGuest.isAdmin id = false) ∧
      (withGuest.handlePairings (some "guest") listRequest).2 = withGuest ∧
      (withGuest.handlePairings (some "guest") listRequest).1.body = [6, 1, 2, 7, 1, 2] ∧
      (unpaired.handlePairings none listRequest).1 =
        (withGuest.handlePairings (some "guest") listRequest).1 := by
  have hguest : ∀ id ∈ some "guest", withGuest.isAdmin id = false := by decide +kernel
  obtain ⟨hstore, -, hbody, hsame⟩ :=
    only_admins_manage withGuest (some "guest") listRequest hguest
  have hfirst : IsFirstMessage listRequest := by decide +kernel
  rw [if_pos hfirst] at hbody
  exact ⟨hguest, hstore, hbody, hsame unpaired none nofun⟩

end IdentityStore

end HomeKit
