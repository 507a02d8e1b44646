import HomeKit.Proofs.Tlv.RoundTrip

/-!
# Records in a message

Several records are sent in one message with separators between them. A record (`IsRecord`) has at
least one field, no separator, and no neighbours of one type: then nothing runs together, within a
record or where two of them meet, and the message comes apart into the records that it was made of
(`decode_encode_intercalate`).
-/

namespace HomeKit.Tlv

/-- Fields that stay together, and apart from each other. -/
structure IsRecord (fields : List (TlvType × Bytes)) : Prop where
  nonempty : fields ≠ []
  unseparated : ∀ field ∈ fields, field.1 ≠ .separator
  unjoined : (fields.map Prod.fst).IsChain (· ≠ ·)

variable {first : List (TlvType × Bytes)} {rest records : List (List (TlvType × Bytes))}

/-! ## Taking apart -/

/-- Up to the next separator, fields are added to the record. -/
theorem recordsFrom_append {fields : List TlvField}
    (h : ∀ field ∈ fields, field.type ≠ TlvType.separator.code) (record rest : List TlvField) :
    recordsFrom record (fields ++ rest) = recordsFrom (fields.reverse ++ record) rest := by
  induction fields generalizing record with
  | nil => rfl
  | cons field fields ih =>
    have hfields := ih (fun other hother => h other (List.mem_cons_of_mem _ hother))
      (field :: record)
    rw [List.cons_append, recordsFrom, if_neg (h field List.mem_cons_self), hfields,
      List.reverse_cons, List.append_assoc]
    rfl

theorem IsRecord.type_ne_separator {fields : List (TlvType × Bytes)} (h : IsRecord fields) :
    ∀ field ∈ (ofList fields).fields, field.type ≠ TlvType.separator.code := by
  intro field hfield
  obtain ⟨⟨type, value⟩, hmem, rfl⟩ := List.mem_map.1 hfield
  exact fun htype => h.unseparated _ hmem (code_inj.1 htype)

theorem recordsFrom_intercalate (h : ∀ fields ∈ first :: rest, IsRecord fields) :
    recordsFrom [] (ofList (List.intercalate [(.separator, [])] (first :: rest))).fields =
      (first :: rest).map fun fields => (ofList fields).fields := by
  induction rest generalizing first with
  | nil =>
    have hfirst := recordsFrom_append (h first List.mem_cons_self).type_ne_separator [] []
    simpa [recordsFrom] using hfirst
  | cons next rest ih =>
    have hrest := ih fun fields hfields => h fields (List.mem_cons_of_mem _ hfields)
    have hfields : (ofList (List.intercalate [(.separator, [])] (first :: next :: rest))).fields =
        (ofList first).fields ++ ⟨TlvType.separator.code, []⟩ ::
          (ofList (List.intercalate [(.separator, [])] (next :: rest))).fields := by
      rw [List.intercalate_cons_cons]
      simp [ofList]
    rw [hfields, recordsFrom_append (h first List.mem_cons_self).type_ne_separator, recordsFrom,
      if_pos rfl, hrest, List.append_nil, List.reverse_reverse]
    rfl

/-- Records with separators between them come apart at the separators. -/
theorem splitRecords_intercalate (h : ∀ fields ∈ records, IsRecord fields) :
    (ofList (List.intercalate [(.separator, [])] records)).splitRecords = records.map ofList := by
  cases records with
  | nil => rfl
  | cons first rest =>
    have hnonempty : ∀ fields ∈ (first :: rest).map fun fields => (ofList fields).fields,
        (!fields.isEmpty) = true := by
      intro fields hfields
      obtain ⟨record, hrecord, rfl⟩ := List.mem_map.1 hfields
      simp [ofList, (h record hrecord).nonempty]
    rw [splitRecords, recordsFrom_intercalate h, List.filter_eq_self.2 hnonempty, List.map_map]
    rfl

/-! ## Sending -/

theorem head?_intercalate {α : Type} {separator first : List α} (h : first ≠ [])
    (rest : List (List α)) :
    (List.intercalate separator (first :: rest)).head? = first.head? := by
  cases rest with
  | nil => rw [List.intercalate_singleton]
  | cons next rest =>
    rw [List.intercalate_cons_cons, List.append_assoc, List.head?_append_of_ne_nil _ h]

/-- Neighbours differ in type within records, and where a record and a separator meet. -/
theorem isChain_intercalate (h : ∀ fields ∈ records, IsRecord fields) :
    ((List.intercalate [(.separator, [])] records).map Prod.fst).IsChain (· ≠ ·) := by
  have hseparated : ∀ fields ∈ records, TlvType.separator ∉ fields.map Prod.fst := by
    intro fields hfields hmem
    obtain ⟨field, hfield, htype⟩ := List.mem_map.1 hmem
    exact (h fields hfields).unseparated field hfield htype
  induction records with
  | nil => exact List.isChain_nil
  | cons first rest ih =>
    have hfirst := h first List.mem_cons_self
    cases rest with
    | nil =>
      rw [List.intercalate_singleton]
      exact hfirst.unjoined
    | cons next more =>
      have hrest := ih (fun fields hfields => h fields (List.mem_cons_of_mem _ hfields))
        fun fields hfields => hseparated fields (List.mem_cons_of_mem _ hfields)
      have hnext := h next (List.mem_cons_of_mem _ List.mem_cons_self)
      rw [List.intercalate_cons_cons, List.append_assoc, List.map_append, List.singleton_append,
        List.map_cons]
      refine hfirst.unjoined.append (hrest.cons fun type htype => ?_)
        fun last hlast type htype => ?_
      · rw [List.head?_map, head?_intercalate hnext.nonempty, ← List.head?_map] at htype
        rintro rfl
        exact hseparated next (List.mem_cons_of_mem _ List.mem_cons_self)
          (List.mem_of_mem_head? htype)
      · cases htype
        rintro rfl
        exact hseparated first List.mem_cons_self (List.mem_of_mem_getLast? hlast)

/-- Records that are sent with separators between them are read back as they are. -/
theorem decode_encode_intercalate (h : ∀ fields ∈ records, IsRecord fields) :
    ∃ tlv, decode (ofList (List.intercalate [(.separator, [])] records)).encode = .ok tlv ∧
      tlv.splitRecords = records.map ofList :=
  ⟨_, decode_encode_ofList (isChain_intercalate h), splitRecords_intercalate h⟩

end HomeKit.Tlv
