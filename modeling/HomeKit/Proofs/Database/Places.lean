import HomeKit.Proofs.Database.Documents
import Mathlib.Data.List.Infix

/-!
# Places in a document

A place in a value is the way to it: the name of a member or the number of an item at each step
(`Json.Place`). A change at one place shows there and in what holds it, and nowhere else
(`Json.at?_changeAt?_of_apart`). An assignment to a member is a change at the place of that member,
if there is an object to have it (`Json.differAt_of_assign`).

The characteristic of a name has a place, the first in the order of the document that fits
(`AttributeDatabase.locate?`). It is the one that `find?` finds, and `update` is a change at that
place (`AttributeDatabase.located`).
-/

namespace HomeKit

namespace Json

/-! ## Places -/

/-- A step into a value. -/
inductive Step where
  | member (name : String)
  | item (index : Nat)
  deriving DecidableEq

/-- The way to a value inside another. -/
abbrev Place := List Step

def enter? (value : Json) : Step → Option Json
  | .member name => value.get? name
  | .item index => value.array?.bind (·[index]?)

/-- The value at a place, if there is such a place. -/
def at? (value : Json) : Place → Option Json
  | [] => some value
  | step :: rest => (value.enter? step).bind (·.at? rest)

/-- The value with `child` where the step leads to. -/
def putIn (value child : Json) : Step → Json
  | .member name => value.set name child
  | .item index =>
    match value with
    | .array items => .array (items.set index child)
    | _ => value

/-- Changes what is at a place. There is no result if there is no such place, or if the change has
none there. -/
def changeAt? (f : Json → Option Json) (value : Json) : Place → Option Json
  | [] => f value
  | step :: rest =>
    (value.enter? step).bind fun child => (changeAt? f child rest).map (value.putIn · step)

variable {value child old after : Json} {f : Json → Option Json} {step : Step}
  {place other rest : Place}

theorem at?_append (value : Json) (place rest : Place) :
    value.at? (place ++ rest) = (value.at? place).bind (·.at? rest) := by
  induction place generalizing value with
  | nil => rfl
  | cons step place ih =>
    simp only [List.cons_append, at?, Option.bind_assoc]
    exact congrArg _ (funext fun child => ih child)

theorem enter?_putIn_self (h : value.enter? step = some old) :
    (value.putIn child step).enter? step = some child := by
  cases step with
  | member name => exact get?_set_self (Option.isSome_of_eq_some h)
  | item index =>
    cases value with
    | array items =>
      have hindex : index < items.length := (List.getElem?_eq_some_iff.1 h).1
      simp only [putIn, enter?, array?, Option.bind_some, List.getElem?_set_self hindex]
    | _ => cases h

/-- What another step leads to is as it was. -/
theorem enter?_putIn_of_ne {next : Step} (h : value.enter? step = some old) (hne : step ≠ next) :
    (value.putIn child step).enter? next = value.enter? next := by
  cases step with
  | member name =>
    cases next with
    | member found => exact get?_set_of_ne fun heq => hne (congrArg Step.member heq)
    | item index =>
      cases value with
      | object members => rfl
      | _ => cases h
  | item index =>
    cases value with
    | array items =>
      cases next with
      | member found => rfl
      | item found =>
        have hindex : index ≠ found := fun heq => hne (congrArg Step.item heq)
        simp only [putIn, enter?, array?, Option.bind_some, List.getElem?_set_ne hindex]
    | _ => cases h

theorem changeAt?_cons_eq_some (h : value.changeAt? f (step :: rest) = some after) :
    ∃ child changed, value.enter? step = some child ∧ child.changeAt? f rest = some changed ∧
      after = value.putIn changed step := by
  obtain ⟨child, hchild, hmap⟩ := Option.bind_eq_some_iff.1 h
  obtain ⟨changed, hchanged, rfl⟩ := Option.map_eq_some_iff.1 hmap
  exact ⟨child, changed, hchild, hchanged, rfl⟩

/-- A change shows at its place. -/
theorem at?_changeAt?_self (h : value.changeAt? f place = some after) :
    ∃ old changed, value.at? place = some old ∧ f old = some changed ∧
      after.at? place = some changed := by
  induction place generalizing value after with
  | nil => exact ⟨value, after, rfl, h, rfl⟩
  | cons step rest ih =>
    obtain ⟨child, changed, hchild, hchanged, rfl⟩ := changeAt?_cons_eq_some h
    obtain ⟨old, new, hold, hnew, hafter⟩ := ih hchanged
    refine ⟨old, new, ?_, hnew, ?_⟩
    · rw [at?, hchild, Option.bind_some, hold]
    · rw [at?, enter?_putIn_self hchild, Option.bind_some, hafter]

/-- A change does not show at places that neither hold its place nor are inside of it. -/
theorem at?_changeAt?_of_apart (h : value.changeAt? f place = some after)
    (hinside : ¬ place <+: other) (hholds : ¬ other <+: place) :
    after.at? other = value.at? other := by
  induction place generalizing value after other with
  | nil => exact absurd List.nil_prefix hinside
  | cons step rest ih =>
    obtain ⟨child, changed, hchild, hchanged, rfl⟩ := changeAt?_cons_eq_some h
    cases other with
    | nil => exact absurd List.nil_prefix hholds
    | cons next way =>
      by_cases hstep : step = next
      · subst hstep
        rw [List.cons_prefix_cons] at hinside hholds
        rw [at?, at?, enter?_putIn_self hchild, hchild, Option.bind_some, Option.bind_some]
        exact ih hchanged (fun hrest => hinside ⟨rfl, hrest⟩) fun hrest => hholds ⟨rfl, hrest⟩
      · rw [at?, at?, enter?_putIn_of_ne hchild hstep]

/-! ## Assignments -/

/-- The value with a member assigned to. What is nothing becomes an object; all else that is no
object has no members to assign to. -/
def assign? (name : String) (member : Json) : Json → Option Json
  | .object members => some (.object (insert name member members))
  | .null => some (.object [(name, member)])
  | _ => none

/-- Two values are the same but for what is at one place. -/
def DifferAt (place : Place) (before after : Json) : Prop :=
  ∀ other, ¬ place <+: other → ¬ other <+: place → after.at? other = before.at? other

/-- An object has the member that was assigned to, and is the same but for it. -/
theorem differAt_of_assign {name found : String} {member : Json}
    (hobject : (value.at? place).bind (·.get? found) = some old)
    (h : value.changeAt? (assign? name member) place = some after) :
    after.at? (place ++ [.member name]) = some member ∧
      DifferAt (place ++ [.member name]) value after := by
  obtain ⟨holder, changed, hholder, hassign, hafter⟩ := at?_changeAt?_self h
  rw [hholder, Option.bind_some] at hobject
  have hset : changed = holder.putIn member (.member name) := by
    cases holder with
    | object members => exact (Option.some.inj hassign).symm
    | _ => cases hobject
  subst hset
  refine ⟨?_, fun other hinside hholds => ?_⟩
  · rw [at?_append, hafter, Option.bind_some, at?, enter?, putIn,
      get?_set_self (Option.isSome_of_eq_some hobject)]
    rfl
  · by_cases hother : place <+: other
    · obtain ⟨way, rfl⟩ := hother
      rw [at?_append, at?_append, hafter, hholder, Option.bind_some, Option.bind_some]
      cases way with
      | nil => exact absurd ⟨[.member name], by rw [List.append_nil]⟩ hholds
      | cons next way =>
        have hne : Step.member name ≠ next := by
          rintro rfl
          exact hinside ⟨way, List.append_assoc ..⟩
        have henter : (holder.putIn member (.member name)).enter? next = holder.enter? next := by
          cases next with
          | member other =>
            have hname : name ≠ other := fun heq => hne (congrArg Step.member heq)
            have hset : (holder.set name member).get? other = holder.get? other :=
              get?_set_of_ne hname
            exact hset
          | item index =>
            cases holder with
            | object members => rfl
            | _ => cases hobject
        rw [at?, at?, henter]
    · exact at?_changeAt?_of_apart h hother fun hfirst =>
        hholds (hfirst.trans (List.prefix_append ..))

end Json

namespace AttributeDatabase

open Json (Place)

/-! ## The first that fits -/

section

variable {α β : Type} {p : α → Bool}

/-- What is found first in a numbered list is the item that `find?` finds, and `replaceFirst`
replaces the item of its number. -/
theorem exists_of_findSome?_zipIdx {g : α × Nat → Option β} (hp : ∀ x i, (g (x, i)).isSome = p x)
    {l : List α} {start : Nat} {y : β} (h : (l.zipIdx start).findSome? g = some y) :
    ∃ x i, l.find? p = some x ∧ l[i]? = some x ∧ g (x, start + i) = some y ∧
      ∀ f, replaceFirst p f l = l.set i (f x) := by
  induction l generalizing start with
  | nil => cases h
  | cons first rest ih =>
    rw [List.zipIdx_cons, List.findSome?_cons] at h
    have hfirst := hp first start
    cases hg : g (first, start) with
    | some found =>
      rw [hg] at h hfirst
      cases h
      have hpfirst : p first = true := hfirst.symm
      refine ⟨first, 0, List.find?_cons_of_pos hpfirst, rfl, hg, fun f => ?_⟩
      rw [replaceFirst, if_pos hpfirst, List.set_cons_zero]
    | none =>
      rw [hg] at h hfirst
      have hpfirst : ¬ p first = true := fun heq => by
        rw [heq] at hfirst
        cases hfirst
      obtain ⟨x, i, hfind, hx, hy, hreplace⟩ := ih h
      refine ⟨x, i + 1, ?_, hx, ?_, fun f => ?_⟩
      · rw [List.find?_cons_of_neg hpfirst, hfind]
      · rw [← hy]
        congr 2
        omega
      · rw [replaceFirst, if_neg hpfirst, hreplace, List.set_cons_succ]

theorem isSome_findSome?_zipIdx {g : α × Nat → Option β} (hp : ∀ x i, (g (x, i)).isSome = p x)
    (l : List α) (start : Nat) :
    ((l.zipIdx start).findSome? g).isSome = (l.find? p).isSome := by
  induction l generalizing start with
  | nil => rfl
  | cons first rest ih =>
    have hfirst := hp first start
    rw [List.zipIdx_cons, List.findSome?_cons, List.find?_cons]
    cases hg : g (first, start) with
    | some found =>
      rw [hg, Option.isSome_some] at hfirst
      rw [← hfirst]
      rfl
    | none =>
      rw [hg, Option.isSome_none] at hfirst
      rw [← hfirst]
      exact ih (start + 1)

end

/-! ## Places of characteristics -/

variable {value document characteristic x y : Json} {name : String} {index : Nat} {place : Place}
  {id : CharacteristicId} {f : Json → Option Json}

/-- The characteristics of an accessory in the order of the document, each with its place. -/
def placed (accessory : Json) : List (Place × Json) :=
  (items accessory "services").zipIdx.flatMap fun (service, s) =>
    (items service "characteristics").zipIdx.map fun (characteristic, c) =>
      ([.member "services", .item s, .member "characteristics", .item c], characteristic)

/-- The characteristic of a name and its place: in the first accessory of the number, the first
characteristic of the number. -/
def locate? (document : Json) (id : CharacteristicId) : Option (Place × Json) := do
  let (accessory, a) ← (items document "accessories").zipIdx.find? fun (accessory, _) =>
    isNumbered "aid" id.aid accessory
  let (place, characteristic) ← (placed accessory).find? fun (_, characteristic) =>
    isNumbered "iid" id.iid characteristic
  return (.member "accessories" :: .item a :: place, characteristic)

theorem get?_of_getElem?_items (h : (items value name)[index]? = some x) :
    value.get? name = some (.array (items value name)) := by
  unfold items at h ⊢
  cases hget : value.get? name with
  | none =>
    rw [hget] at h
    cases h
  | some found =>
    rw [hget] at h
    cases found with
    | array items => rfl
    | _ => cases h

theorem at?_item (h : (items value name)[index]? = some x) (place : Place) :
    value.at? (.member name :: .item index :: place) = x.at? place := by
  simp only [Json.at?, Json.enter?, get?_of_getElem?_items h, Option.bind_some, Json.array?, h]

theorem changeAt?_item (h : (items value name)[index]? = some x)
    (hx : x.changeAt? f place = some y) :
    value.changeAt? f (.member name :: .item index :: place) =
      some (value.set name (.array ((items value name).set index y))) := by
  simp only [Json.changeAt?, Json.enter?, get?_of_getElem?_items h, Option.bind_some, Json.array?,
    h, hx, Option.map_some, Json.putIn]

/-- What is known of a characteristic that has a place: it is the one that `find?` finds, it is
there, and a change of it is a change at that place. -/
structure Located (document : Json) (id : CharacteristicId) (place : Place)
    (characteristic : Json) : Prop where
  found : find? document id = some characteristic
  there : document.at? place = some characteristic
  update : ∀ (f : Json → Option Json) (g : Json → Json),
    f characteristic = some (g characteristic) →
      document.changeAt? f place = some (update document id g)

theorem isSome_ite_some {β : Type} {p : Bool} (y : β) :
    (if p = true then some y else none).isSome = p := by
  cases p with
  | false => rfl
  | true => rfl

/-- The first characteristic of the number in a service, with its place. -/
def placedIn? (iid : UInt64) : Json × Nat → Option (Place × Json)
  | (service, s) =>
    (items service "characteristics").zipIdx.findSome? fun (characteristic, c) =>
      if isNumbered "iid" iid characteristic then
        some ([.member "services", .item s, .member "characteristics", .item c], characteristic)
      else none

theorem isSome_placedIn? (iid : UInt64) (service : Json) (s : Nat) :
    (placedIn? iid (service, s)).isSome = serves iid service := by
  unfold placedIn? serves
  rw [isSome_findSome?_zipIdx (p := isNumbered "iid" iid), List.isSome_find?]
  exact fun _ _ => isSome_ite_some _

/-- To look through the characteristics of all services comes to the same as to choose a service
first. -/
theorem find?_placed (accessory : Json) (iid : UInt64) :
    (placed accessory).find? (fun (_, characteristic) => isNumbered "iid" iid characteristic) =
      (items accessory "services").zipIdx.findSome? (placedIn? iid) := by
  unfold placed
  rw [List.find?_flatMap]
  congr 1
  funext service
  rw [List.find?_eq_findSome?_guard, List.findSome?_map]
  rfl

theorem located (h : locate? document id = some (place, characteristic)) :
    Located document id place characteristic := by
  obtain ⟨⟨accessory, a⟩, haccessory, h⟩ := Option.bind_eq_some_iff.1 h
  obtain ⟨⟨way, found⟩, hplaced, h⟩ := Option.bind_eq_some_iff.1 h
  cases h
  rw [List.find?_eq_findSome?_guard] at haccessory
  rw [find?_placed] at hplaced
  obtain ⟨_, _, hfinda, hitema, hguard, hreplacea⟩ := exists_of_findSome?_zipIdx
    (p := isNumbered "aid" id.aid) (fun _ _ => Option.isSome_guard) haccessory
  rw [Nat.zero_add, Option.guard_eq_some_iff] at hguard
  cases hguard.1
  obtain ⟨service, s, hfinds, hitems, hin, hreplaces⟩ := exists_of_findSome?_zipIdx
    (isSome_placedIn? id.iid) hplaced
  obtain ⟨_, c, hfindc, hitemc, hnumbered, hreplacec⟩ := exists_of_findSome?_zipIdx
    (p := isNumbered "iid" id.iid) (fun _ _ => isSome_ite_some _) hin
  rw [Nat.zero_add, Option.ite_none_right_eq_some] at hnumbered
  cases hnumbered.2
  refine ⟨?_, ?_, fun f g hchange => ?_⟩
  · simp only [find?, hfinda, hfinds, hfindc, Option.bind_eq_bind, Option.bind_some]
  · rw [at?_item hitema, Nat.zero_add, at?_item hitems, at?_item hitemc]
    rfl
  · have hhere : characteristic.changeAt? f [] = some (g characteristic) := hchange
    rw [Nat.zero_add, changeAt?_item hitema
      (changeAt?_item hitems (changeAt?_item hitemc hhere))]
    simp only [update, mapItems, hreplacea, hreplaces, hreplacec]

/-- What `find?` finds has a place. -/
theorem isSome_locate?_of_find? (h : find? document id = some characteristic) :
    (locate? document id).isSome = true := by
  obtain ⟨accessory, hfinda, h⟩ := Option.bind_eq_some_iff.1 h
  obtain ⟨service, hfinds, -⟩ := Option.bind_eq_some_iff.1 h
  have haccessory : ((items document "accessories").zipIdx.find? fun (accessory, _) =>
      isNumbered "aid" id.aid accessory).map Prod.fst = some accessory := by
    rw [← hfinda, ← List.zipIdx_map_fst 0 (items document "accessories"), List.find?_map,
      List.zipIdx_map_fst]
    rfl
  have hplaced := isSome_findSome?_zipIdx (isSome_placedIn? id.iid) (items accessory "services") 0
  rw [hfinds, ← find?_placed, Option.isSome_some, Option.isSome_iff_exists] at hplaced
  obtain ⟨⟨first, a⟩, hfirst, hsame⟩ := Option.map_eq_some_iff.1 haccessory
  obtain ⟨found, hfound⟩ := hplaced
  cases hsame
  simp only [locate?, hfirst, hfound, Option.bind_eq_bind, Option.bind_some]
  rfl

/-- There is a place exactly for what `find?` finds. -/
theorem locate?_eq_none_iff : locate? document id = none ↔ find? document id = none := by
  cases hlocate : locate? document id with
  | none =>
    cases hfind : find? document id with
    | none => exact iff_of_true rfl rfl
    | some characteristic =>
      have hplace := isSome_locate?_of_find? hfind
      rw [hlocate] at hplace
      cases hplace
  | some found =>
    rw [(located hlocate).found]
    exact iff_of_false nofun nofun

end AttributeDatabase

end HomeKit
