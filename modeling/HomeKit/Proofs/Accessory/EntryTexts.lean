import HomeKit.Accessory.Characteristics

/-!
# The texts of answers and events

What is told of characteristics is a list of entries. `entryText` is the text of an entry, member by
member, `listText` that of a list and `eventText` that of a whole event. They are what is printed
(`print_entry`, `print_characteristicsJson`, `eventMessage_eq`), so that answers and events are
known byte by byte, but for the values themselves.
-/

namespace HomeKit

/-- The text of an entry: a characteristic, and the status and the value that are told of it. -/
def entryText (id : CharacteristicId) (status : Option HapStatus) (value : Option Json) : Bytes :=
  let members := [utf8 s!"\"aid\":{id.aid}", utf8 s!"\"iid\":{id.iid}"] ++
    (status.map fun status => utf8 s!"\"status\":{status.code}").toList ++
    (value.map fun value => utf8 "\"value\":" ++ value.print).toList
  utf8 "\x7b" ++ List.intercalate (utf8 ",") members ++ utf8 "\x7d"

/-- The text of a list of entries. -/
def listText (entries : List Bytes) : Bytes :=
  utf8 "\x7b\"characteristics\":[" ++ List.intercalate (utf8 ",") entries ++ utf8 "]\x7d"

/-- The event that tells of a value. -/
def eventText (id : CharacteristicId) (value : Json) : Bytes :=
  let body := listText [entryText id none (some value)]
  utf8 "EVENT/1.0 200 OK\r\nContent-Type: application/hap+json\r\n" ++
    utf8 s!"Content-Length: {body.length}\r\n\r\n" ++ body

namespace Json

theorem commaSeparated_eq (texts : List Bytes) :
    commaSeparated texts = List.intercalate (utf8 ",") texts := by
  fun_induction commaSeparated texts with
  | case1 => rfl
  | case2 text => simp
  | case3 text rest hrest ih =>
    rw [ih, List.intercalate_cons_of_ne_nil hrest, List.append_assoc]
    rfl

theorem printItems_eq (items : List Json) : printItems items = items.map print := by
  induction items with
  | nil => rfl
  | cons item rest ih => exact congrArg (_ :: ·) ih

theorem printMembers_append (members more : List (String × Json)) :
    printMembers (members ++ more) = printMembers members ++ printMembers more := by
  induction members with
  | nil => rfl
  | cons member rest ih => exact congrArg (_ :: ·) ih

theorem print_object (members : List (String × Json)) :
    (object members).print =
      utf8 "\x7b" ++ List.intercalate (utf8 ",") (printMembers members) ++ utf8 "\x7d" := by
  rw [print, commaSeparated_eq]
  rfl

end Json

/-- The members that tell of a value and of a status. -/
def toldMembers (status : Option HapStatus) (value : Option Json) : List (String × Json) :=
  (value.map fun value => ("value", value)).toList ++ (status.map HapStatus.member).toList

/-- An entry has its members in the order of their names. -/
theorem entry_toldMembers (id : CharacteristicId) (status : Option HapStatus)
    (value : Option Json) :
    id.entry (toldMembers status value) =
      .object ([("aid", .ofNatural id.aid), ("iid", .ofNatural id.iid)] ++
        (status.map HapStatus.member).toList ++
        (value.map fun value => ("value", value)).toList) := by
  cases status <;> cases value <;> rfl

theorem print_entry (id : CharacteristicId) (status : Option HapStatus) (value : Option Json) :
    (id.entry (toldMembers status value)).print = entryText id status value := by
  have hnames : Json.printMembers [("aid", .ofNatural id.aid), ("iid", .ofNatural id.iid)] =
      [utf8 s!"\"aid\":{id.aid}", utf8 s!"\"iid\":{id.iid}"] := by
    rw [utf8_append, utf8_append]
    rfl
  have hstatus : Json.printMembers (status.map HapStatus.member).toList =
      (status.map fun status => utf8 s!"\"status\":{status.code}").toList := by
    cases status with
    | none => rfl
    | some status => cases status <;> rfl
  have hvalue : Json.printMembers (value.map fun value => ("value", value)).toList =
      (value.map fun value => utf8 "\"value\":" ++ value.print).toList := by
    cases value <;> rfl
  rw [entry_toldMembers, Json.print_object, Json.printMembers_append, Json.printMembers_append,
    hnames, hstatus, hvalue]
  rfl

theorem print_characteristicsJson (entries : List Json) :
    (characteristicsJson entries).print = listText (entries.map Json.print) := by
  have hobject : characteristicsJson entries = .object [("characteristics", .array entries)] := rfl
  rw [hobject, Json.print_object, listText]
  simp only [Json.printMembers, Json.print, Json.commaSeparated_eq, Json.printItems_eq,
    List.intercalate_singleton, List.append_assoc, List.cons_append]
  rfl

theorem utf8_lastLines (length : Nat) :
    utf8 (Http.lastLines length) =
      utf8 "Content-Length: " ++ utf8 (toString length) ++ utf8 "\r\n\r\n" := by
  have hlines : Http.lastLines length = "Content-Length: " ++ toString length ++ "\r\n" ++ "\r\n" :=
    rfl
  rw [hlines, utf8_append, utf8_append, utf8_append, List.append_assoc]
  rfl

/-- An event is what is printed. -/
theorem eventMessage_eq (id : CharacteristicId) (value : Json) :
    eventMessage id value = eventText id value := by
  have hbody : (characteristicsJson [id.entry [("value", value)]]).print =
      listText [entryText id none (some value)] := by
    rw [print_characteristicsJson, List.map_singleton]
    exact congrArg (listText [·]) (print_entry id none (some value))
  rw [eventMessage, Http.Response.json, hbody, eventText]
  generalize listText [entryText id none (some value)] = body
  simp only [Http.Response.serializeEvent, Http.Response.serializeAs, Http.Response.withBody,
    Http.Response.ofStatus, utf8_join, utf8_append]
  congr 1
  simp only [List.map_cons, List.map_nil, List.nil_append, List.flatMap_append, List.flatMap_cons,
    List.flatMap_nil, List.append_nil, utf8_append, utf8_lastLines, List.append_assoc]
  rfl

end HomeKit
