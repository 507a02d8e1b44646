import HomeKit.Proofs.Positions
import HomeKit.Proofs.Tlv.Runs

/-!
# Which bytes are messages

Bytes are a message exactly when they are items, one after another (`Items`); other bytes break off
within an item (`BreaksOff`), and the failure says what is missing. A message may be cut into items
in many ways. Writing it again takes the fewest: `encodedLength` bytes, which is no more than it was
read from.

The bytes are gone through by position. Written so, with every position tested (`decodeFrom`), no
test ever fails (`decodeFrom_start`). All together is `decode_grammar`.
-/

namespace HomeKit.Tlv

/-! ## Items and what breaks off -/

/-- The bytes are items, one after another: a type, a length and as many bytes. -/
inductive Items : Bytes → List TlvField → Prop
  | nil : Items [] []
  | cons {type length : UInt8} {value rest : Bytes} {list : List TlvField}
      (hlength : value.length = length.toNat) (hrest : Items rest list) :
      Items (type :: length :: (value ++ rest)) (⟨type, value⟩ :: list)

/-- The bytes break off within an item, and the text says what is missing. -/
inductive BreaksOff : Bytes → String → Prop
  | header (type : UInt8) : BreaksOff [type] "truncated header"
  | value {type length : UInt8} {value : Bytes} (hshort : value.length < length.toNat) :
      BreaksOff (type :: length :: value)
        s!"truncated value (expected {length} bytes, got {value.length})"
  | cons {type length : UInt8} {value rest : Bytes} {text : String}
      (hlength : value.length = length.toNat) (hrest : BreaksOff rest text) :
      BreaksOff (type :: length :: (value ++ rest)) text

variable {data rest : Bytes} {list fields : List TlvField} {type length : UInt8}

theorem itemsUpTo_item {value : Bytes} (h : value.length = length.toNat) (rest : Bytes)
    (count : Nat) :
    itemsUpTo (count + 1) (type :: length :: (value ++ rest)) =
      (itemsUpTo count rest).map (⟨type, value⟩ :: ·) := by
  rw [itemsUpTo]
  simp only [List.take_left' h, List.drop_left' h]
  rw [if_neg (by omega)]

theorem itemsUpTo_of_short {value : Bytes} (h : value.length < length.toNat) (count : Nat) :
    itemsUpTo (count + 1) (type :: length :: value) = .error (.malformedTlv
      s!"truncated value (expected {length} bytes, got {value.length})") := by
  rw [itemsUpTo]
  simp only [List.take_of_length_le (Nat.le_of_lt h)]
  rw [if_pos h]

theorem Items.itemsUpTo_eq (h : Items data list) {count : Nat} (hcount : data.length ≤ count) :
    itemsUpTo count data = .ok list := by
  induction h generalizing count with
  | nil => cases count <;> rfl
  | cons hlength _ ih =>
    cases count with
    | zero => cases hcount
    | succ count =>
      simp only [List.length_cons, List.length_append] at hcount
      rw [itemsUpTo_item hlength, ih (by omega)]
      rfl

theorem BreaksOff.itemsUpTo_eq {text : String} (h : BreaksOff data text) {count : Nat}
    (hcount : data.length ≤ count) : itemsUpTo count data = .error (.malformedTlv text) := by
  induction h generalizing count with
  | header type =>
    cases count with
    | zero => cases hcount
    | succ count => rfl
  | value hshort =>
    cases count with
    | zero => cases hcount
    | succ count => exact itemsUpTo_of_short hshort count
  | cons hlength _ ih =>
    cases count with
    | zero => cases hcount
    | succ count =>
      simp only [List.length_cons, List.length_append] at hcount
      rw [itemsUpTo_item hlength, ih (by omega)]
      rfl

/-- Bytes are items or break off within one. -/
theorem items_or_breaksOff (data : Bytes) :
    (∃ list, Items data list) ∨ ∃ text, BreaksOff data text := by
  induction hsize : data.length using Nat.strongRecOn generalizing data with
  | ind size ih =>
    match data, hsize with
    | [], _ => exact .inl ⟨[], .nil⟩
    | [type], _ => exact .inr ⟨_, .header type⟩
    | type :: length :: rest, hsize =>
      by_cases hshort : rest.length < length.toNat
      · exact .inr ⟨_, .value hshort⟩
      · have hvalue : (rest.take length.toNat).length = length.toNat :=
          List.length_take_of_le (by omega)
        have hleft := ih (rest.drop length.toNat).length
          (by simp only [List.length_cons, List.length_drop] at hsize ⊢; omega) _ rfl
        rw [← List.take_append_drop length.toNat rest]
        rcases hleft with ⟨list, hlist⟩ | ⟨text, htext⟩
        · exact .inl ⟨_, .cons hvalue hlist⟩
        · exact .inr ⟨text, .cons hvalue htext⟩

theorem Items.decode_eq (h : Items data list) : decode data = .ok ⟨joinRuns list⟩ := by
  rw [decode, items, h.itemsUpTo_eq (Nat.le_refl _)]
  rfl

theorem BreaksOff.decode_eq {text : String} (h : BreaksOff data text) :
    decode data = .error (.malformedTlv text) := by
  rw [decode, items, h.itemsUpTo_eq (Nat.le_refl _)]
  rfl

/-- A message is read exactly from items. -/
theorem decode_eq_ok_iff {tlv : Tlv} :
    decode data = .ok tlv ↔ ∃ list, Items data list ∧ tlv = ⟨joinRuns list⟩ := by
  constructor
  · intro h
    rcases items_or_breaksOff data with ⟨list, hlist⟩ | ⟨text, htext⟩
    · rw [hlist.decode_eq] at h
      exact ⟨list, hlist, (Except.ok.inj h).symm⟩
    · rw [htext.decode_eq] at h
      cases h
  · rintro ⟨list, hlist, rfl⟩
    exact hlist.decode_eq

/-! ## The length of a message -/

/-- How many items a value of this length takes. -/
def itemCount (length : Nat) : Nat :=
  max 1 ((length + (maxItem - 1)) / maxItem)

/-- The length of a message on the wire. -/
def encodedLength (tlv : Tlv) : Nat :=
  tlv.fields.foldr
    (fun field length => field.value.length + 2 * itemCount field.value.length + length) 0

theorem itemCount_add_le (a b : Nat) : itemCount (a + b) ≤ itemCount a + itemCount b := by
  simp only [itemCount, maxItem]
  omega

theorem length_flatMap_encodeItem (type : UInt8) (pieces : List Bytes) :
    (pieces.flatMap (encodeItem type)).length = pieces.flatten.length + 2 * pieces.length := by
  induction pieces with
  | nil => rfl
  | cons piece pieces ih =>
    rw [List.flatMap_cons, List.flatten_cons, List.length_append, List.length_append, ih,
      length_encodeItem, List.length_cons]
    omega

theorem length_encodeField (field : TlvField) :
    (encodeField field).length = field.value.length + 2 * itemCount field.value.length := by
  unfold encodeField
  split
  · rename_i hempty
    rw [List.isEmpty_iff.1 hempty]
    rfl
  · rename_i hvalue
    have hpos : 0 < field.value.length :=
      List.length_pos_iff.2 fun hnil => hvalue (List.isEmpty_iff.2 hnil)
    have hmax : 0 < maxItem := by decide
    rw [length_flatMap_encodeItem, flatten_chunks hmax, length_chunks hmax, itemCount,
      Nat.max_eq_right]
    simp only [maxItem]
    omega

@[simp] theorem encodedLength_nil : encodedLength ⟨[]⟩ = 0 := rfl

@[simp] theorem encodedLength_cons (field : TlvField) (fields : List TlvField) :
    encodedLength ⟨field :: fields⟩ =
      field.value.length + 2 * itemCount field.value.length + encodedLength ⟨fields⟩ :=
  rfl

theorem length_encode (tlv : Tlv) : tlv.encode.length = tlv.encodedLength := by
  obtain ⟨fields⟩ := tlv
  induction fields with
  | nil => rfl
  | cons field rest ih =>
    rw [encode] at ih
    rw [encode, List.flatMap_cons, List.length_append, length_encodeField, ih, encodedLength_cons]

/-- Joining neighbours makes no message longer. -/
theorem encodedLength_joinRuns_le (fields : List TlvField) :
    encodedLength ⟨joinRuns fields⟩ ≤ encodedLength ⟨fields⟩ := by
  induction fields with
  | nil => exact Nat.le_refl _
  | cons field rest ih =>
    rw [joinRuns]
    cases hjoined : joinRuns rest with
    | nil =>
      simp only [encodedLength_cons, encodedLength_nil]
      omega
    | cons next more =>
      have hcount := itemCount_add_le field.value.length next.value.length
      rw [hjoined, encodedLength_cons] at ih
      simp only
      split
      · simp only [encodedLength_cons, List.length_append]
        omega
      · simp only [encodedLength_cons]
        omega

theorem Items.encodedLength_eq (h : Items data list) : encodedLength ⟨list⟩ = data.length := by
  induction h with
  | nil => rfl
  | @cons type length value rest list hlength _ ih =>
    have hone : itemCount value.length = 1 := by
      have hbyte := length.toNat_lt
      simp only [itemCount, maxItem]
      omega
    simp only [encodedLength_cons, List.length_cons, List.length_append, hone, ih]
    omega

/-! ## By position -/

/-- Adds an item to fields: to the last of them, if that is of its type. -/
def addItem (fields : List TlvField) (item : TlvField) : List TlvField :=
  match fields.getLast? with
  | some last =>
    if last.type = item.type then fields.dropLast ++ [⟨last.type, last.value ++ item.value⟩]
    else fields ++ [item]
  | none => fields ++ [item]

/-- Reads the rest of a message from a position on, with the fields so far; there is no result if a
position is out of range. -/
def decodeFrom (data : Bytes) (i : Nat) (fields : List TlvField) :
    Option (Except ParseError Tlv) :=
  if _ : i < data.length then
    if data.length < i + 2 then some (.error (.malformedTlv "truncated header"))
    else
      match data[i]?, data[i + 1]? with
      | some type, some length =>
        if data.length < i + 2 + length.toNat then
          (minus? data.length (i + 2)).map fun left => .error (.malformedTlv
            s!"truncated value (expected {length} bytes, got {left})")
        else
          match slice? data (i + 2) (i + 2 + length.toNat) with
          | some value => decodeFrom data (i + 2 + length.toNat) (addItem fields ⟨type, value⟩)
          | none => none
      | _, _ => none
  else some (.ok ⟨fields⟩)
termination_by data.length - i

/-- How a list joins with what follows depends on what that comes to. -/
theorem joinRuns_append_congr {rest other : List TlvField} (front : List TlvField)
    (h : joinRuns rest = joinRuns other) :
    joinRuns (front ++ rest) = joinRuns (front ++ other) := by
  induction front with
  | nil => exact h
  | cons field front ih => exact joinRuns_cons_congr field ih

/-- Adding items one by one comes to the same as joining all of them. -/
theorem joinRuns_addItem_append (fields : List TlvField) (item : TlvField) (list : List TlvField) :
    joinRuns (addItem fields item ++ list) = joinRuns (fields ++ item :: list) := by
  unfold addItem
  rcases List.eq_nil_or_concat' fields with rfl | ⟨front, last, rfl⟩
  · rfl
  · simp only [List.getLast?_concat, List.dropLast_concat]
    split
    · rename_i htype
      simp only [List.append_assoc]
      refine joinRuns_append_congr front ?_
      obtain ⟨type, value⟩ := last
      obtain ⟨_, more⟩ := item
      cases htype
      exact (joinRuns_cons_cons type value more list).symm
    · simp only [List.append_assoc, List.cons_append, List.nil_append]

theorem isChain_addItem (h : (fields.map TlvField.type).IsChain (· ≠ ·)) (item : TlvField) :
    ((addItem fields item).map TlvField.type).IsChain (· ≠ ·) := by
  unfold addItem
  rcases List.eq_nil_or_concat' fields with rfl | ⟨front, last, rfl⟩
  · exact List.isChain_singleton _
  · simp only [List.getLast?_concat, List.dropLast_concat]
    split
    · simpa using h
    · rename_i htype
      simp only [List.map_append, List.map_cons, List.map_nil] at h ⊢
      refine List.isChain_append.2 ⟨h, List.isChain_singleton _, ?_⟩
      simpa using htype

/-- From the start of an item on, its positions are in range, and the next one is its end. -/
theorem decodeFrom_item (front rest : Bytes) (fields : List TlvField) {value : Bytes}
    (h : value.length = length.toNat) :
    decodeFrom (front ++ type :: length :: (value ++ rest)) front.length fields =
      decodeFrom ((front ++ type :: length :: value) ++ rest)
        (front ++ type :: length :: value).length (addItem fields ⟨type, value⟩) := by
  have htype : (front ++ type :: length :: (value ++ rest))[front.length]? = some type := by simp
  have hnext : (front ++ type :: length :: (value ++ rest))[front.length + 1]? = some length := by
    simp
  have hvalue : slice? (front ++ type :: length :: (value ++ rest)) (front.length + 2)
      (front.length + (2 + length.toNat)) = some value := by
    rw [slice?_append front _ (Nat.le_add_right 2 _)
      (by simp only [List.length_cons, List.length_append]; omega), Nat.add_comm 2]
    exact congrArg some (List.take_left' h)
  have hstop : (front ++ type :: length :: value).length = front.length + (2 + length.toNat) := by
    simp only [List.length_append, List.length_cons]
    omega
  have hlength : (front ++ type :: length :: (value ++ rest)).length =
      front.length + (2 + length.toNat) + rest.length := by
    simp only [List.length_append, List.length_cons]
    omega
  rw [decodeFrom, dif_pos (by omega), if_neg (by omega), htype, hnext]
  simp only
  rw [if_neg (by omega), Nat.add_assoc, hvalue, hstop, List.append_assoc]
  rfl

theorem Items.decodeFrom_eq (h : Items rest list) (front : Bytes)
    (hfields : (fields.map TlvField.type).IsChain (· ≠ ·)) :
    decodeFrom (front ++ rest) front.length fields = some (.ok ⟨joinRuns (fields ++ list)⟩) := by
  -- each item moves from the rest to the front, and the position with it
  induction h generalizing front fields with
  | nil =>
    rw [decodeFrom, dif_neg (by simp), List.append_nil, joinRuns_of_isChain hfields]
  | @cons type length value rest list hlength _ ih =>
    rw [decodeFrom_item front rest fields hlength, ih _ (isChain_addItem hfields ⟨type, value⟩),
      joinRuns_addItem_append]

theorem BreaksOff.decodeFrom_eq {text : String} (h : BreaksOff rest text) (front : Bytes)
    (fields : List TlvField) :
    decodeFrom (front ++ rest) front.length fields = some (.error (.malformedTlv text)) := by
  induction h generalizing front fields with
  | header type =>
    have hlength : (front ++ [type]).length = front.length + 1 := List.length_append
    rw [decodeFrom, dif_pos (by omega), if_pos (by omega)]
  | @value type length value hshort =>
    have htype : (front ++ type :: length :: value)[front.length]? = some type := by simp
    have hnext : (front ++ type :: length :: value)[front.length + 1]? = some length := by simp
    have hlength : (front ++ type :: length :: value).length =
        front.length + 2 + value.length := by
      simp only [List.length_append, List.length_cons]
      omega
    rw [decodeFrom, dif_pos (by omega), if_neg (by omega), htype, hnext]
    simp only
    rw [if_pos (by omega), minus?_of_le (by omega), hlength, Nat.add_sub_cancel_left]
    rfl
  | @cons type length value rest text hlength _ ih =>
    rw [decodeFrom_item front rest fields hlength, ih]

/-- Going through the bytes by position, no position is out of range, and what comes of them is what
is read. -/
theorem decodeFrom_start (data : Bytes) : decodeFrom data 0 [] = some (decode data) := by
  rcases items_or_breaksOff data with ⟨list, hlist⟩ | ⟨text, htext⟩
  · rw [hlist.decode_eq]
    exact hlist.decodeFrom_eq [] List.isChain_nil
  · rw [htext.decode_eq]
    exact htext.decodeFrom_eq [] []

/-! ## Messages -/

/-- Bytes are read as a message exactly if they are items, one after another. It has the items with
each run of one type joined into one field, so that neighbouring fields differ in type; it is read
back as it is when it is written again, in no more bytes than it was read from. Other bytes are
malformed, with what is missing where they break off. No position is looked at that is out of
range. -/
theorem decode_grammar (data : Bytes) :
    ((∃ tlv, decode data = .ok tlv) ↔ ∃ list, Items data list) ∧
    (∀ list, Items data list →
      ∃ runs, IsRunsOf runs list ∧ decode data = .ok ⟨runs.map FieldRun.joined⟩) ∧
    (∀ tlv, decode data = .ok tlv →
      (tlv.fields.map TlvField.type).IsChain (· ≠ ·) ∧ decode tlv.encode = .ok tlv ∧
        tlv.encode.length ≤ data.length) ∧
    ((¬ ∃ list, Items data list) →
      ∃ text, BreaksOff data text ∧ decode data = .error (.malformedTlv text)) ∧
    decodeFrom data 0 [] = some (decode data) := by
  refine ⟨?_, ?_, ?_, ?_, decodeFrom_start data⟩
  · constructor
    · rintro ⟨tlv, htlv⟩
      obtain ⟨list, hlist, -⟩ := decode_eq_ok_iff.1 htlv
      exact ⟨list, hlist⟩
    · rintro ⟨list, hlist⟩
      exact ⟨_, hlist.decode_eq⟩
  · intro list hlist
    obtain ⟨runs, hruns⟩ := exists_isRunsOf list
    refine ⟨runs, hruns, ?_⟩
    rw [hlist.decode_eq, hruns.joinRuns_eq]
  · intro tlv htlv
    obtain ⟨list, hlist, rfl⟩ := decode_eq_ok_iff.1 htlv
    have hchain := isChain_joinRuns list
    refine ⟨hchain, decode_encode_of_isChain hchain, ?_⟩
    rw [length_encode, ← hlist.encodedLength_eq]
    exact encodedLength_joinRuns_le list
  · intro hnone
    rcases items_or_breaksOff data with hitems | ⟨text, htext⟩
    · exact absurd hitems hnone
    · exact ⟨text, htext, htext.decode_eq⟩

/-- A value in three items, one of them empty, is written again as one. -/
example : decode [1, 1, 5, 1, 0, 1, 1, 6] = .ok ⟨[⟨1, [5, 6]⟩]⟩ ∧
    encode ⟨[⟨1, [5, 6]⟩]⟩ = [1, 2, 5, 6] := by
  decide

end HomeKit.Tlv
