import HomeKit.Proofs.Tlv.RoundTrip

/-!
# Runs of fields

A list of fields falls into runs (`FieldRun`), each as long as the type stays the same
(`IsRunsOf`). Reading back what was written joins the values of each run and changes nothing else,
so a message comes back as it was exactly when all its runs are single fields
(`decode_encode_runs`).
-/

namespace HomeKit.Tlv

/-- Neighbouring fields of one type, of which there is at least one. -/
structure FieldRun where
  type : UInt8
  first : Bytes
  more : List Bytes := []

namespace FieldRun

/-- The fields of the run. -/
def fields (run : FieldRun) : List TlvField :=
  ⟨run.type, run.first⟩ :: run.more.map (TlvField.mk run.type)

/-- One field with the values of the run, one after another. -/
def joined (run : FieldRun) : TlvField :=
  ⟨run.type, run.first ++ run.more.flatten⟩

/-- Puts a field in front of runs: into the first of them, if that is of its type. -/
def prepend (field : TlvField) : List FieldRun → List FieldRun
  | [] => [⟨field.type, field.value, []⟩]
  | run :: rest =>
    if field.type = run.type then ⟨field.type, field.value, run.first :: run.more⟩ :: rest
    else ⟨field.type, field.value, []⟩ :: run :: rest

end FieldRun

/-- The runs make up the fields, and none could be longer: the next one is of another type. -/
structure IsRunsOf (runs : List FieldRun) (fields : List TlvField) : Prop where
  flatten : runs.flatMap FieldRun.fields = fields
  maximal : (runs.map FieldRun.type).IsChain (· ≠ ·)

theorem IsRunsOf.prepend {runs : List FieldRun} {fields : List TlvField} (h : IsRunsOf runs fields)
    (field : TlvField) : IsRunsOf (FieldRun.prepend field runs) (field :: fields) := by
  obtain ⟨rfl, hmaximal⟩ := h
  cases runs with
  | nil => exact ⟨rfl, List.isChain_singleton _⟩
  | cons run rest =>
    by_cases htype : field.type = run.type
    · rw [FieldRun.prepend, if_pos htype]
      refine ⟨?_, ?_⟩
      · simp [FieldRun.fields, ← htype]
      · rw [List.map_cons] at hmaximal ⊢
        rw [htype]
        exact hmaximal
    · rw [FieldRun.prepend, if_neg htype]
      refine ⟨rfl, ?_⟩
      rw [List.map_cons, List.map_cons, List.isChain_cons_cons]
      exact ⟨htype, hmaximal⟩

/-- Every list of fields falls into runs. -/
theorem exists_isRunsOf (fields : List TlvField) : ∃ runs, IsRunsOf runs fields := by
  induction fields with
  | nil => exact ⟨[], rfl, List.isChain_nil⟩
  | cons field rest ih =>
    obtain ⟨runs, hruns⟩ := ih
    exact ⟨_, hruns.prepend field⟩

theorem joinRuns_flatMap_fields (runs : List FieldRun) :
    joinRuns (runs.flatMap FieldRun.fields) = joinRuns (runs.map FieldRun.joined) := by
  induction runs with
  | nil => rfl
  | cons run rest ih =>
    rw [List.flatMap_cons, FieldRun.fields, joinRuns_map_append, List.map_cons]
    exact joinRuns_cons_congr run.joined ih

/-- Neighbours are joined just within the runs. -/
theorem IsRunsOf.joinRuns_eq {runs : List FieldRun} {fields : List TlvField}
    (h : IsRunsOf runs fields) : joinRuns fields = runs.map FieldRun.joined := by
  have htypes : (runs.map FieldRun.joined).map TlvField.type = runs.map FieldRun.type := by
    rw [List.map_map]
    rfl
  rw [← h.flatten, joinRuns_flatMap_fields]
  refine joinRuns_of_isChain ?_
  rw [htypes]
  exact h.maximal

/-- Of joined fields no two neighbours are of one type. -/
theorem isChain_joinRuns (fields : List TlvField) :
    ((joinRuns fields).map TlvField.type).IsChain (· ≠ ·) := by
  obtain ⟨runs, hruns⟩ := exists_isRunsOf fields
  rw [hruns.joinRuns_eq, List.map_map]
  exact hruns.maximal

/-- Joining neighbours leaves fields alone only if there are none to join. -/
theorem joinRuns_eq_self_iff {fields : List TlvField} :
    joinRuns fields = fields ↔ (fields.map TlvField.type).IsChain (· ≠ ·) := by
  constructor
  · intro hsame
    rw [← hsame]
    exact isChain_joinRuns fields
  · exact joinRuns_of_isChain

/-- A message is read back with each run of fields of one type joined into one field, and so as it
was exactly when no two neighbours are of one type. On the wire it is a series of items, each with
its type, the length of its value, which is at most 255, and as many bytes. -/
theorem decode_encode_runs (tlv : Tlv) :
    (∃ runs, IsRunsOf runs tlv.fields ∧
      decode tlv.encode = .ok ⟨runs.map FieldRun.joined⟩) ∧
    (decode tlv.encode = .ok tlv ↔ (tlv.fields.map TlvField.type).IsChain (· ≠ ·)) ∧
    ∃ list : List TlvField, items tlv.encode = .ok list ∧
      tlv.encode =
        list.flatMap (fun item => item.type :: UInt8.ofNat item.value.length :: item.value) ∧
      ∀ item ∈ list, item.value.length ≤ 255 ∧
        (UInt8.ofNat item.value.length).toNat = item.value.length := by
  have hshort : ∀ item ∈ tlv.fields.flatMap itemsOf, item.value.length ≤ maxItem := by
    intro item hitem
    obtain ⟨field, -, hmem⟩ := List.mem_flatMap.1 hitem
    exact length_le_of_mem_itemsOf hmem
  refine ⟨?_, ?_, tlv.fields.flatMap itemsOf, ?_, encode_eq tlv, ?_⟩
  · obtain ⟨runs, hruns⟩ := exists_isRunsOf tlv.fields
    refine ⟨runs, hruns, ?_⟩
    rw [decode_encode, hruns.joinRuns_eq]
  · rw [decode_encode, Except.ok.injEq, ← joinRuns_eq_self_iff]
    constructor
    · exact congrArg Tlv.fields
    · exact congrArg Tlv.mk
  · rw [encode_eq]
    exact items_flatMap_encodeItem hshort
  · intro item hitem
    have hlength := hshort item hitem
    have hmax : maxItem = 255 := rfl
    refine ⟨hlength, ?_⟩
    rw [UInt8.toNat_ofNat']
    omega

end HomeKit.Tlv
