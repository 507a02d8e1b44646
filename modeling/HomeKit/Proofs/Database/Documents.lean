import HomeKit.AttributeDatabase

/-!
# Changing one characteristic of a document

A member that is set is found, and all other members are as they were (`Json.get?_set_self`,
`Json.get?_set_of_ne`). So a characteristic that is changed is found under its name, changed, and
all others are found as they were (`AttributeDatabase.find?_update_self`,
`AttributeDatabase.find?_update_of_ne`): a change that keeps the number of a characteristic keeps
the ways to all of them.
-/

namespace HomeKit

/-! ## Members -/

namespace Json

variable {name other : String} {value member later : Json} {members : List (String × Json)}

theorem find?_insert_self :
    (insert name member members).find? (·.1 == name) = some (name, member) := by
  induction members with
  | nil => simp [insert]
  | cons first rest ih =>
    obtain ⟨found, _⟩ := first
    unfold insert
    split
    · simp
    · split
      · simp
      · rename_i hne
        rw [List.find?_cons_of_neg (by simpa using Ne.symm hne), ih]

theorem find?_insert_of_ne (hne : name ≠ other) :
    (insert name member members).find? (·.1 == other) = members.find? (·.1 == other) := by
  induction members with
  | nil => simp [insert, hne]
  | cons first rest ih =>
    obtain ⟨found, _⟩ := first
    unfold insert
    split
    · exact List.find?_cons_of_neg (by simpa using hne)
    · split
      · rename_i heq
        subst heq
        rw [List.find?_cons_of_neg (by simpa using hne),
          List.find?_cons_of_neg (by simpa using hne)]
      · rw [List.find?_cons, List.find?_cons, ih]

theorem insert_insert :
    insert name later (insert name member members) = insert name later members := by
  induction members with
  | nil => simp [insert]
  | cons first rest ih =>
    obtain ⟨found, _⟩ := first
    by_cases hlt : name < found
    · simp [insert, hlt]
    · by_cases heq : name = found
      · simp [insert, heq]
      · simp [insert, hlt, heq, ih]

/-- A member that is set is found, in an object. -/
theorem get?_set_self (hobject : (value.get? other).isSome = true) :
    (value.set name member).get? name = some member := by
  cases value with
  | object members =>
    simp only [set, get?, find?_insert_self, Option.map_some]
  | _ => cases hobject

theorem get?_set_of_ne (hne : name ≠ other) :
    (value.set name member).get? other = value.get? other := by
  cases value with
  | object members => simp only [set, get?, find?_insert_of_ne hne]
  | _ => rfl

/-- What is set last counts. -/
theorem set_set : (value.set name member).set name later = value.set name later := by
  cases value with
  | object members => simp only [set, insert_insert]
  | _ => rfl

end Json

/-! ## Lists -/

namespace AttributeDatabase

section

variable {α β : Type} {p q : α → Bool} {f : α → α}

/-- What is found and then looked into is found as before if the change of the first item that `p`
holds of does not show in what is looked for. -/
theorem bind_find?_replaceFirst (hq : ∀ x, q (f x) = q x) {g : α → Option β}
    (hg : ∀ x, p x = true → q x = true → g (f x) = g x) (l : List α) :
    ((replaceFirst p f l).find? q).bind g = (l.find? q).bind g := by
  induction l with
  | nil => rfl
  | cons x rest ih =>
    unfold replaceFirst
    cases hp : p x with
    | false =>
      rw [if_neg Bool.false_ne_true, List.find?_cons, List.find?_cons]
      cases q x with
      | false => exact ih
      | true => rfl
    | true =>
      rw [if_pos rfl, List.find?_cons, List.find?_cons, hq]
      cases hqx : q x with
      | false => rfl
      | true => exact hg x hp hqx

/-- The item that is replaced is found, replaced. -/
theorem bind_find?_replaceFirst_self (hp : ∀ x, p (f x) = p x) {g g' : α → Option β}
    (hg : ∀ x, g (f x) = g' x) (l : List α) :
    ((replaceFirst p f l).find? p).bind g = (l.find? p).bind g' := by
  induction l with
  | nil => rfl
  | cons x rest ih =>
    unfold replaceFirst
    cases hpx : p x with
    | false => rw [if_neg Bool.false_ne_true, List.find?_cons, List.find?_cons, hpx, ih]
    | true =>
      rw [if_pos rfl, List.find?_cons, List.find?_cons, hp, hpx]
      exact hg x

theorem any_replaceFirst (hq : ∀ x, q (f x) = q x) (l : List α) :
    (replaceFirst p f l).any q = l.any q := by
  induction l with
  | nil => rfl
  | cons x rest ih =>
    unfold replaceFirst
    split
    · rw [List.any_cons, List.any_cons, hq]
    · rw [List.any_cons, List.any_cons, ih]

/-- To replace an item and then what it was replaced by is to replace it once. -/
theorem replaceFirst_replaceFirst {g : α → α} (hp : ∀ x, p (f x) = p x) (l : List α) :
    replaceFirst p g (replaceFirst p f l) = replaceFirst p (g ∘ f) l := by
  induction l with
  | nil => rfl
  | cons x rest ih =>
    cases hpx : p x with
    | false => simp only [replaceFirst, hpx, Bool.false_eq_true, if_false, ih]
    | true => simp only [replaceFirst, hp, hpx, if_true, Function.comp_apply]

end

/-! ## Documents -/

variable {value document : Json} {name other : String} {id : CharacteristicId}
  {f : Json → Json}

theorem items_mapItems_self {g : List Json → List Json} (hnil : g [] = []) :
    items (mapItems value name g) name = g (items value name) := by
  unfold mapItems items
  cases value with
  | object members => simp [Json.set, Json.get?, Json.find?_insert_self, Json.array?]
  | _ => simp [Json.set, Json.get?, hnil]

theorem isNumbered_mapItems (hne : name ≠ other) (g : List Json → List Json) (number : UInt64) :
    isNumbered other number (mapItems value name g) = isNumbered other number value := by
  unfold mapItems isNumbered
  rw [Json.get?_set_of_ne hne]

/-- Numbers are the same if they are those of one value. -/
theorem eq_of_isNumbered {first second : UInt64} (h : isNumbered name first value = true)
    (h' : isNumbered name second value = true) : first = second := by
  unfold isNumbered at h h'
  rw [beq_iff_eq] at h h'
  exact Option.some.inj (h.symm.trans h')

/-- A characteristic keeps its number. -/
def KeepsNumber (f : Json → Json) : Prop :=
  ∀ characteristic number,
    isNumbered "iid" number (f characteristic) = isNumbered "iid" number characteristic

theorem keepsNumber_set (hne : name ≠ "iid") (member : Json) : KeepsNumber (·.set name member) := by
  intro characteristic number
  unfold isNumbered
  rw [Json.get?_set_of_ne hne]

/-- A service is chosen by the numbers of its characteristics, which they keep. -/
theorem serves_mapItems (hf : KeepsNumber f) (p : Json → Bool) (iid : UInt64) (service : Json) :
    serves iid (mapItems service "characteristics" (replaceFirst p f)) = serves iid service := by
  unfold serves
  rw [items_mapItems_self rfl, any_replaceFirst fun c => hf c iid]

/-- The characteristic that is changed is found, changed. -/
theorem find?_update_self (hf : KeepsNumber f) :
    find? (update document id f) id = (find? document id).map f := by
  unfold find? update
  simp only [Option.bind_eq_bind, Option.map_bind]
  rw [items_mapItems_self rfl]
  refine bind_find?_replaceFirst_self (fun _ => isNumbered_mapItems (by decide) _ _)
    (fun accessory => ?_) _
  rw [items_mapItems_self rfl, Function.comp_apply, Option.map_bind]
  refine bind_find?_replaceFirst_self (fun service => serves_mapItems hf _ _ service)
    (fun service => ?_) _
  rw [items_mapItems_self rfl, Function.comp_apply]
  have hfound := bind_find?_replaceFirst_self (p := isNumbered "iid" id.iid)
    (fun c => hf c id.iid) (g := some) (fun _ => rfl) (items service "characteristics")
  rw [Option.bind_fun_some] at hfound
  rw [hfound, Option.map_eq_bind]
  rfl

/-- All other characteristics are found as they were. -/
theorem find?_update_of_ne (hf : KeepsNumber f) {other : CharacteristicId} (hne : id ≠ other) :
    find? (update document id f) other = find? document other := by
  unfold find? update
  rw [items_mapItems_self rfl]
  refine bind_find?_replaceFirst
    (fun _ => isNumbered_mapItems (by decide) _ _) (fun accessory haid haid' => ?_) _
  rw [items_mapItems_self rfl]
  refine bind_find?_replaceFirst (fun service => serves_mapItems hf _ _ service)
    (fun service _ _ => ?_) _
  rw [items_mapItems_self rfl]
  have hiid : id.iid ≠ other.iid := by
    intro hiid
    obtain ⟨aid, iid⟩ := id
    obtain ⟨_, _⟩ := other
    obtain rfl := eq_of_isNumbered haid haid'
    obtain rfl := hiid
    exact hne rfl
  have hfound := bind_find?_replaceFirst (p := isNumbered "iid" id.iid) (fun c => hf c other.iid)
    (g := some)
    (fun c hc hc' => absurd (eq_of_isNumbered hc hc') hiid) (items service "characteristics")
  rw [Option.bind_fun_some, Option.bind_fun_some] at hfound
  exact hfound

theorem mapItems_mapItems {f g : List Json → List Json} (hnil : f [] = []) :
    mapItems (mapItems value name f) name g = mapItems value name (g ∘ f) := by
  have hitems : items (mapItems value name f) name = f (items value name) :=
    items_mapItems_self hnil
  unfold mapItems at hitems ⊢
  rw [hitems, Json.set_set]
  rfl

/-- To change a characteristic and then to change it again is to change it once. -/
theorem update_update (hf : KeepsNumber f) (g : Json → Json) :
    update (update document id f) id g = update document id (g ∘ f) := by
  unfold update
  rw [mapItems_mapItems rfl]
  congr 1
  funext accessories
  rw [Function.comp_apply, replaceFirst_replaceFirst fun _ => isNumbered_mapItems (by decide) _ _]
  congr 1
  funext accessory
  rw [Function.comp_apply, mapItems_mapItems rfl]
  congr 1
  funext services
  rw [Function.comp_apply, replaceFirst_replaceFirst fun service => serves_mapItems hf _ _ service]
  congr 1
  funext service
  rw [Function.comp_apply, mapItems_mapItems rfl]
  congr 1
  funext characteristics
  exact replaceFirst_replaceFirst (fun c => hf c id.iid) characteristics

end AttributeDatabase

end HomeKit
