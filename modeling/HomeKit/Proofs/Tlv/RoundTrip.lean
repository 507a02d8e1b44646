import HomeKit.Tlv
import Mathlib.Data.List.Chain

/-!
# Messages read back

A message is written item by item (`itemsOf`), and its items are read back as they were written
(`items_flatMap_encodeItem`). A field that is longer than an item comes back in pieces, which are
joined together with its neighbours of the same type: what is decoded is the message with its runs
joined (`decode_encode`), and the message itself if no two neighbours share a type
(`decode_encode_of_isChain`).
-/

namespace HomeKit.Tlv

/-! ## Items -/

/-- The items of a field on the wire. -/
def itemsOf (field : TlvField) : List TlvField :=
  if field.value.isEmpty then [⟨field.type, []⟩]
  else (chunks maxItem field.value).map (TlvField.mk field.type)

theorem encodeField_eq (field : TlvField) :
    encodeField field = (itemsOf field).flatMap fun item => encodeItem item.type item.value := by
  unfold encodeField itemsOf
  split
  · simp
  · simp [List.flatMap_map]

theorem encode_eq (tlv : Tlv) :
    tlv.encode =
      (tlv.fields.flatMap itemsOf).flatMap fun item => encodeItem item.type item.value := by
  unfold encode
  rw [List.flatMap_assoc]
  congr 1
  funext field
  exact encodeField_eq field

theorem length_le_of_mem_itemsOf {field item : TlvField} (h : item ∈ itemsOf field) :
    item.value.length ≤ maxItem := by
  unfold itemsOf at h
  split at h
  · rw [List.mem_singleton.1 h]
    exact Nat.zero_le _
  · obtain ⟨piece, hpiece, rfl⟩ := List.mem_map.1 h
    exact (length_of_mem_chunks (by decide) hpiece).2

theorem length_encodeItem (type : UInt8) (value : Bytes) :
    (encodeItem type value).length = value.length + 2 :=
  rfl

/-- Items are read back as they were written. -/
theorem itemsUpTo_flatMap_encodeItem {list : List TlvField}
    (h : ∀ item ∈ list, item.value.length ≤ maxItem) {count : Nat} (hcount : list.length ≤ count) :
    itemsUpTo count (list.flatMap fun item => encodeItem item.type item.value) = .ok list := by
  induction list generalizing count with
  | nil =>
    cases count with
    | zero => rfl
    | succ count => rfl
  | cons item rest ih =>
    cases count with
    | zero => simp at hcount
    | succ count =>
      have hlength : (UInt8.ofNat item.value.length).toNat = item.value.length := by
        have hitem := h item List.mem_cons_self
        unfold maxItem at hitem
        simp only [UInt8.toNat_ofNat']
        omega
      have hrest := ih (fun other hother => h other (List.mem_cons_of_mem _ hother))
        (Nat.le_of_succ_le_succ hcount)
      simp only [List.flatMap_cons, encodeItem, List.cons_append, itemsUpTo, hlength,
        List.take_left, List.drop_left]
      rw [if_neg (Nat.lt_irrefl _)]
      simp only [encodeItem] at hrest
      rw [hrest]
      rfl

theorem items_flatMap_encodeItem {list : List TlvField}
    (h : ∀ item ∈ list, item.value.length ≤ maxItem) :
    items (list.flatMap fun item => encodeItem item.type item.value) = .ok list := by
  refine itemsUpTo_flatMap_encodeItem h ?_
  induction list with
  | nil => exact Nat.le_refl _
  | cons item rest ih =>
    have hrest := ih fun other hother => h other (List.mem_cons_of_mem _ hother)
    simp only [List.flatMap_cons, List.length_append, length_encodeItem, List.length_cons]
    omega

/-! ## Runs -/

/-- How a field joins what follows depends on what that comes to. -/
theorem joinRuns_cons_congr {rest other : List TlvField} (field : TlvField)
    (h : joinRuns rest = joinRuns other) :
    joinRuns (field :: rest) = joinRuns (field :: other) := by
  rw [joinRuns, joinRuns, h]

/-- Two neighbours of one type come to the same as one field. -/
theorem joinRuns_cons_cons (type : UInt8) (first second : Bytes) (rest : List TlvField) :
    joinRuns (⟨type, first⟩ :: ⟨type, second⟩ :: rest) =
      joinRuns (⟨type, first ++ second⟩ :: rest) := by
  rw [joinRuns, joinRuns, joinRuns]
  cases joinRuns rest with
  | nil => simp
  | cons next more =>
    by_cases htype : type = next.type
    · simp [htype]
    · simp [htype]

/-- Pieces of a value come to the same as the value. -/
theorem joinRuns_map_append (type : UInt8) (pieces : List Bytes) (first : Bytes)
    (rest : List TlvField) :
    joinRuns (⟨type, first⟩ :: pieces.map (TlvField.mk type) ++ rest) =
      joinRuns (⟨type, first ++ pieces.flatten⟩ :: rest) := by
  induction pieces generalizing first with
  | nil => simp
  | cons piece pieces ih =>
    have hpieces := ih (first ++ piece)
    rw [List.append_assoc] at hpieces
    rw [List.map_cons, List.cons_append, List.cons_append, joinRuns_cons_cons, List.flatten_cons,
      ← hpieces]
    rfl

/-- The items of a field come to the same as the field. -/
theorem joinRuns_itemsOf_append (field : TlvField) (rest : List TlvField) :
    joinRuns (itemsOf field ++ rest) = joinRuns (field :: rest) := by
  obtain ⟨type, value⟩ := field
  unfold itemsOf
  simp only
  split
  · rename_i hempty
    rw [List.isEmpty_iff.1 hempty]
    rfl
  · rename_i hvalue
    have hflatten := flatten_chunks (n := maxItem) (by decide) value
    cases hchunks : chunks maxItem value with
    | nil =>
      rw [hchunks] at hflatten
      rw [← hflatten] at hvalue
      exact absurd rfl hvalue
    | cons piece pieces =>
      rw [hchunks, List.flatten_cons] at hflatten
      rw [List.map_cons, joinRuns_map_append, hflatten]

theorem joinRuns_flatMap_itemsOf (fields : List TlvField) :
    joinRuns (fields.flatMap itemsOf) = joinRuns fields := by
  induction fields with
  | nil => rfl
  | cons field rest ih =>
    rw [List.flatMap_cons, joinRuns_itemsOf_append]
    exact joinRuns_cons_congr field ih

/-- Fields whose neighbours differ in type stay as they are. -/
theorem joinRuns_of_isChain {fields : List TlvField}
    (h : (fields.map TlvField.type).IsChain (· ≠ ·)) : joinRuns fields = fields := by
  induction fields with
  | nil => rfl
  | cons field rest ih =>
    cases rest with
    | nil => rfl
    | cons next more =>
      have hrest := ih h.tail
      have hne : field.type ≠ next.type := by
        simp only [List.map_cons, List.isChain_cons_cons] at h
        exact h.1
      rw [joinRuns, hrest]
      simp [hne]

/-- Joining neighbours brings no new types. -/
theorem exists_type_eq_of_mem_joinRuns {fields : List TlvField} {field : TlvField}
    (h : field ∈ joinRuns fields) : ∃ other ∈ fields, other.type = field.type := by
  induction fields generalizing field with
  | nil => cases h
  | cons first rest ih =>
    have hrest : field ∈ joinRuns rest → ∃ other ∈ first :: rest, other.type = field.type := by
      intro hmem
      obtain ⟨other, hother, htype⟩ := ih hmem
      exact ⟨other, List.mem_cons_of_mem _ hother, htype⟩
    rw [joinRuns] at h
    cases hjoined : joinRuns rest with
    | nil =>
      rw [hjoined, List.mem_singleton] at h
      exact ⟨first, List.mem_cons_self, by rw [h]⟩
    | cons next more =>
      simp only [hjoined] at h
      split at h
      · rcases List.mem_cons.1 h with rfl | hmore
        · exact ⟨first, List.mem_cons_self, rfl⟩
        · exact hrest (hjoined ▸ List.mem_cons_of_mem _ hmore)
      · rcases List.mem_cons.1 h with rfl | hmore
        · exact ⟨field, List.mem_cons_self, rfl⟩
        · exact hrest (hjoined ▸ hmore)

/-! ## Messages -/

/-- What is written is read back, with neighbours of one type joined. -/
theorem decode_encode (tlv : Tlv) : decode tlv.encode = .ok ⟨joinRuns tlv.fields⟩ := by
  have hshort : ∀ item ∈ tlv.fields.flatMap itemsOf, item.value.length ≤ maxItem := by
    intro item hitem
    obtain ⟨field, -, hmem⟩ := List.mem_flatMap.1 hitem
    exact length_le_of_mem_itemsOf hmem
  rw [decode, encode_eq, items_flatMap_encodeItem hshort, Except.map, joinRuns_flatMap_itemsOf]

/-- A message whose neighbouring fields differ in type is read back as it was written. -/
theorem decode_encode_of_isChain {tlv : Tlv} (h : (tlv.fields.map TlvField.type).IsChain (· ≠ ·)) :
    decode tlv.encode = .ok tlv := by
  rw [decode_encode, joinRuns_of_isChain h]

theorem ofCode?_code (type : TlvType) : TlvType.ofCode? type.code = some type := by
  cases type <;> rfl

theorem code_inj {type other : TlvType} : type.code = other.code ↔ type = other := by
  constructor
  · intro h
    have hsome := ofCode?_code type
    rw [h, ofCode?_code other] at hsome
    exact (Option.some.inj hsome).symm
  · rintro rfl
    rfl

@[simp] theorem get?_ofList_nil (type : TlvType) : (ofList []).get? type = none := rfl

@[simp] theorem get?_ofList_cons_self (type : TlvType) (value : Bytes)
    (rest : List (TlvType × Bytes)) : (ofList ((type, value) :: rest)).get? type = some value := by
  simp [get?, getCode?, ofList]

@[simp] theorem get?_ofList_cons_of_ne {type other : TlvType} (h : other ≠ type) (value : Bytes)
    (rest : List (TlvType × Bytes)) :
    (ofList ((other, value) :: rest)).get? type = (ofList rest).get? type := by
  have hcode : (other.code == type.code) = false := by
    rw [beq_eq_false_iff_ne]
    exact fun hcode => h (code_inj.1 hcode)
  simp [get?, getCode?, ofList, hcode]

theorem decode_encode_ofList {fields : List (TlvType × Bytes)}
    (h : (fields.map Prod.fst).IsChain (· ≠ ·)) :
    decode (ofList fields).encode = .ok (ofList fields) := by
  refine decode_encode_of_isChain ?_
  simp only [ofList, List.map_map]
  rw [List.isChain_map] at h ⊢
  exact h.imp fun _ _ hne hcode => hne (code_inj.1 hcode)

/-- An answer that reports a failure is read as that. -/
theorem decode_errorResponse (state : UInt8) (code : TlvErrorCode) :
    decode (errorResponse state code).encode = .ok (errorResponse state code) :=
  decode_encode_ofList (by simp)

/-- Only a message with an error field reads like a report of a failure. -/
theorem exists_error_of_encode_eq {tlv : Tlv} {state : UInt8} {code : TlvErrorCode}
    (h : tlv.encode = (errorResponse state code).encode) :
    ∃ field ∈ tlv.fields, field.type = TlvType.error.code := by
  have hdecode := decode_errorResponse state code
  rw [← h, decode_encode] at hdecode
  injection hdecode with hjoined
  have hfields : joinRuns tlv.fields = (errorResponse state code).fields :=
    congrArg Tlv.fields hjoined
  have hmem : (⟨TlvType.error.code, [code.code]⟩ : TlvField) ∈ joinRuns tlv.fields := by
    rw [hfields]
    exact List.mem_cons_of_mem _ List.mem_cons_self
  exact exists_type_eq_of_mem_joinRuns hmem

theorem encode_errorResponse_inj {code other : TlvErrorCode} :
    (errorResponse 2 code).encode = (errorResponse 2 other).encode ↔ code = other := by
  constructor
  · intro h
    cases code <;> cases other <;> first | rfl | cases h
  · rintro rfl
    rfl

end HomeKit.Tlv
