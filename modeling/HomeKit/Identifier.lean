import HomeKit.Error
import HomeKit.Text.Blank
import HomeKit.Text.Decimal

/-!
# Identifiers

Connections are numbered in the order in which they are accepted. A characteristic is named by the
number of its accessory and its own number within it, written `aid.iid`; characteristics are
ordered by the first number and then by the second. `PairingEvent` names the controller that was
paired or unpaired.
-/

namespace HomeKit

abbrev ConnectionId := UInt64

def ConnectionId.display (id : ConnectionId) : String :=
  s!"conn-{id}"

structure CharacteristicId where
  /-- The accessory's number. -/
  aid : UInt64
  /-- The characteristic's number within the accessory. -/
  iid : UInt64
  deriving DecidableEq, Repr

namespace CharacteristicId

instance : Ord CharacteristicId where
  compare := compareLex (compareOn aid) (compareOn iid)

instance : Std.TransOrd CharacteristicId :=
  inferInstanceAs (Std.TransCmp (compareLex (compareOn aid) (compareOn iid)))

instance : Std.LawfulEqOrd CharacteristicId where
  eq_of_compare {a b} h := by
    have h : compareLex (compareOn aid) (compareOn iid) a b = .eq := h
    simp only [compareLex, Ordering.then_eq_eq, compareOn, Std.LawfulEqOrd.compare_eq_iff_eq] at h
    cases a; cases b; simp_all

def display (id : CharacteristicId) : String :=
  s!"{id.aid}.{id.iid}"

/-- Reads the form `aid.iid`; blanks around either number do not count. -/
def parse (s : List Char) : Except ParseError CharacteristicId :=
  let aid := s.takeWhile (· != '.')
  match s.dropWhile (· != '.') with
  | [] => .error (.invalidValue s!"characteristic id: {String.ofList s}")
  | _ :: iid =>
    match Text.uint64? (Text.trimChars aid), Text.uint64? (Text.trimChars iid) with
    | some aid, some iid => .ok ⟨aid, iid⟩
    | none, _ => .error (.invalidValue s!"accessory id: {String.ofList aid}")
    | _, none => .error (.invalidValue s!"instance id: {String.ofList iid}")

theorem toList_display (id : CharacteristicId) :
    id.display.toList = (toString id.aid).toList ++ '.' :: (toString id.iid).toList := by
  unfold display
  simp only [String.toList_append, List.append_assoc]
  rfl

/-- A name is made of digits and one point. -/
theorem isDigit_or_eq_of_mem_display {id : CharacteristicId} {c : Char}
    (h : c ∈ id.display.toList) : c.isDigit = true ∨ c = '.' := by
  rw [toList_display, List.mem_append, List.mem_cons] at h
  rcases h with haid | hpoint | hiid
  · exact .inl (Text.isDigit_of_mem_repr haid)
  · exact .inr hpoint
  · exact .inl (Text.isDigit_of_mem_repr hiid)

theorem trimChars_toString (n : UInt64) :
    Text.trimChars (toString n).toList = (toString n).toList :=
  Text.trimChars_of_not_isBlank fun _ hc =>
    Text.not_isBlank_of_isDigit (Text.isDigit_of_mem_repr hc)

/-- A name is read as it is written. -/
@[simp] theorem parse_display (id : CharacteristicId) : parse id.display.toList = .ok id := by
  have hpoint : ∀ c ∈ (toString id.aid).toList, (c != '.') = true := by
    intro c hc
    rw [bne_iff_ne]
    rintro rfl
    exact absurd (Text.isDigit_of_mem_repr hc) (by decide)
  unfold parse
  rw [toList_display, List.takeWhile_append_of_pos hpoint, List.dropWhile_append_of_pos hpoint]
  simp only [List.takeWhile_cons, List.dropWhile_cons, bne_self_eq_false, Bool.false_eq_true,
    if_false, List.append_nil, trimChars_toString, Text.uint64?_toString]

end CharacteristicId

inductive PairingEvent where
  | paired (controller : String)
  | unpaired (controller : String)
  deriving DecidableEq, Repr

def PairingEvent.controller : PairingEvent → String
  | .paired controller | .unpaired controller => controller

end HomeKit
