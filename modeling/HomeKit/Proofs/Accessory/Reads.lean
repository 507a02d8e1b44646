import HomeKit.Proofs.Accessory.EntryTexts
import HomeKit.Proofs.Accessory.Writes

/-!
# Reading by names

A request to read names its characteristics in the parameter `id`, as numbers with commas between
them. Whatever the names are and whatever parameters follow, the names are found
(`Accessory.requestedIds?_of_query`), and each is answered in its place
(`Accessory.answered_id_by_id`), with the value that is read there or with what failed
(`Accessory.readText`). An entry tells that all went well only if somewhere else in the answer
something did not.
-/

namespace HomeKit

open Std (ExtTreeMap)

/-! ## The names in a target -/

/-- The names as the parameter lists them. -/
def idList (ids : List CharacteristicId) : List Char :=
  List.intercalate [','] (ids.map (·.display.toList))

/-- The target of a request to read characteristics; more parameters may follow. -/
def readTarget (ids : List CharacteristicId) (more : Option String) : String :=
  "/characteristics?id=" ++ String.intercalate "," (ids.map (·.display)) ++ more.elim "" ("&" ++ ·)

/-- The query of the target. -/
def readQuery (ids : List CharacteristicId) (more : Option String) : List Char :=
  "id=".toList ++ idList ids ++ more.elim [] ('&' :: ·.toList)

theorem toList_readTarget (ids : List CharacteristicId) (more : Option String) :
    (readTarget ids more).toList = "/characteristics".toList ++ '?' :: readQuery ids more := by
  have hids : (String.intercalate "," (ids.map (·.display))).toList = idList ids := by
    rw [String.toList_intercalate, List.map_map]
    rfl
  unfold readTarget readQuery
  rw [String.toList_append, String.toList_append, hids]
  cases more with
  | none => rfl
  | some text =>
    simp only [Option.elim_some, String.toList_append]
    rfl

theorem ofTarget_readTarget (method : Http.Method) (ids : List CharacteristicId)
    (more : Option String) :
    Http.Request.ofTarget method (readTarget ids more) =
      { method
        path := "/characteristics"
        query := some (String.ofList (readQuery ids more)) } := by
  have hcut : Text.cut? '?' (readTarget ids more).toList =
      some ("/characteristics".toList, readQuery ids more) :=
    Text.cut?_eq_some_iff.2 ⟨by decide, toList_readTarget ids more⟩
  unfold Http.Request.ofTarget
  rw [hcut]
  rfl

/-- There are only digits, points and commas between the names. -/
theorem not_mem_idList {c : Char} (hdigit : c.isDigit = false) (hpoint : c ≠ '.') (hcomma : c ≠ ',')
    (ids : List CharacteristicId) : c ∉ idList ids := by
  intro hmem
  rcases Text.mem_intercalate_singleton hmem with heq | ⟨piece, hpiece, hmem⟩
  · exact hcomma heq
  · obtain ⟨id, -, rfl⟩ := List.mem_map.1 hpiece
    rcases CharacteristicId.isDigit_or_eq_of_mem_display hmem with his | heq
    · rw [hdigit] at his
      cases his
    · exact hpoint heq

/-- The names are the first piece of the query, whatever follows them. -/
theorem pieces_readQuery (ids : List CharacteristicId) (more : Option String) :
    ∃ rest, Text.pieces '&' (readQuery ids more) = ("id".toList ++ '=' :: idList ids) :: rest := by
  have hplain : '&' ∉ "id=".toList ++ idList ids := by
    rw [List.mem_append]
    rintro (hkey | hids)
    · exact absurd hkey (by decide)
    · exact not_mem_idList (by decide) (by decide) (by decide) ids hids
  unfold readQuery
  cases more with
  | none =>
    refine ⟨[], ?_⟩
    rw [Option.elim_none, List.append_nil, Text.pieces_of_not_mem hplain]
    rfl
  | some text =>
    refine ⟨Text.pieces '&' text.toList, ?_⟩
    rw [Option.elim_some, Text.pieces_append hplain]
    rfl

theorem mapM_parse_display (ids : List CharacteristicId) :
    (ids.map (·.display.toList)).mapM CharacteristicId.parse = .ok ids := by
  induction ids with
  | nil => rfl
  | cons id rest ih =>
    rw [List.map_cons, List.mapM_cons, CharacteristicId.parse_display, ih]
    rfl

/-- A member that is named by none of these is not there. -/
theorem Json.get?_object_eq_none {members : List (String × Json)} {names : List String}
    (h : ∀ member ∈ members, member.1 ∈ names) {name : String} (hname : name ∉ names) :
    (object members).get? name = none := by
  have hnone : members.find? (·.1 == name) = none := by
    rw [List.find?_eq_none]
    intro member hmem heq
    exact hname (eq_of_beq heq ▸ h member hmem)
  rw [get?, hnone, Option.map_none]

namespace Accessory

/-- All names are found, in order. -/
theorem requestedIds?_of_query {request : Http.Request} {ids : List CharacteristicId}
    (hne : ids ≠ []) (more : Option String)
    (hquery : request.query = some (String.ofList (readQuery ids more))) :
    requestedIds? request = some ids := by
  obtain ⟨rest, hpieces⟩ := pieces_readQuery ids more
  have hcut : Text.cut? '=' ("id".toList ++ '=' :: idList ids) = some ("id".toList, idList ids) :=
    Text.cut?_eq_some_iff.2 ⟨by decide, rfl⟩
  have hparameter : request.parameter? "id" = some (String.ofList (idList ids)) := by
    unfold Http.Request.parameter?
    rw [hquery, Option.bind_some, String.toList_ofList, hpieces, List.findSome?_cons, hcut]
    rfl
  have hnames : Text.pieces ',' (idList ids) = ids.map (·.display.toList) := by
    refine Text.pieces_intercalate (List.map_eq_nil_iff.not.2 hne) fun piece hpiece hcomma => ?_
    obtain ⟨id, -, rfl⟩ := List.mem_map.1 hpiece
    rcases CharacteristicId.isDigit_or_eq_of_mem_display hcomma with his | heq
    · exact absurd his (by decide)
    · exact absurd heq (by decide)
  unfold requestedIds?
  rw [hparameter, Option.bind_some, String.toList_ofList, hnames, mapM_parse_display]
  rfl

/-! ## Entries -/

/-- What an entry tells of a characteristic: its name, and the value that was read or the status of
the failure. A success has its status only if it is asked for. -/
structure Tells (withStatus : Bool) (id : CharacteristicId) (result : Except HapStatus Json)
    (entry : Json) : Prop where
  aid : entry.get? "aid" = some (.ofNatural id.aid)
  iid : entry.get? "iid" = some (.ofNatural id.iid)
  value : entry.get? "value" = result.toOption
  status : entry.get? "status" =
    match result with
    | .ok _ => if withStatus then some (.ofInt HapStatus.success.code) else none
    | .error status => some (.ofInt status.code)
  others : ∀ name ∉ ["aid", "iid", "value", "status"], entry.get? name = none

theorem tells_readEntry (withStatus : Bool) (id : CharacteristicId)
    (result : Except HapStatus Json) :
    Tells withStatus id result (readEntry withStatus id result) := by
  cases result with
  | ok value =>
    cases withStatus with
    | true =>
      have hentry : readEntry true id (.ok value) =
          .object [("aid", .ofNatural id.aid), ("iid", .ofNatural id.iid),
            ("status", .ofInt HapStatus.success.code), ("value", value)] := rfl
      exact ⟨rfl, rfl, rfl, rfl, fun name => hentry ▸ Json.get?_object_eq_none (by simp)⟩
    | false =>
      have hentry : readEntry false id (.ok value) =
          .object [("aid", .ofNatural id.aid), ("iid", .ofNatural id.iid), ("value", value)] := rfl
      exact ⟨rfl, rfl, rfl, rfl, fun name => hentry ▸ Json.get?_object_eq_none (by simp)⟩
  | error status =>
    have hentry : readEntry withStatus id (.error status) =
        .object [("aid", .ofNatural id.aid), ("iid", .ofNatural id.iid),
          ("status", .ofInt status.code)] := rfl
    exact ⟨rfl, rfl, rfl, rfl, fun name => hentry ▸ Json.get?_object_eq_none (by simp)⟩

/-- The status is there if it is asked for, or if the read failed. -/
theorem Tells.isSome_status {withStatus : Bool} {id : CharacteristicId}
    {result : Except HapStatus Json} {entry : Json} (h : Tells withStatus id result entry) :
    (entry.get? "status").isSome = (withStatus || !result.isOk) := by
  rw [h.status]
  cases result with
  | ok value =>
    cases withStatus with
    | true => rfl
    | false => rfl
  | error status => exact (Bool.or_true withStatus).symm

/-- The text of the entry that tells of a read. -/
def readText (withStatus : Bool) (id : CharacteristicId) : Except HapStatus Json → Bytes
  | .ok value => entryText id (if withStatus then some .success else none) (some value)
  | .error status => entryText id (some status) none

theorem print_readEntry (withStatus : Bool) (id : CharacteristicId)
    (result : Except HapStatus Json) :
    (readEntry withStatus id result).print = readText withStatus id result := by
  cases result with
  | ok value =>
    cases withStatus with
    | true => exact print_entry id (some .success) (some value)
    | false => exact print_entry id none (some value)
  | error status => exact print_entry id (some status) none

theorem handle_get (suite : CipherSuite) {accessory : Accessory} {conn : ConnectionId}
    {request : Http.Request} (hmethod : request.method = .get)
    (hpath : request.path = "/characteristics")
    (hencrypted : accessory.registry.isEncrypted conn = true) :
    accessory.handle suite conn request =
      ({ response := accessory.readCharacteristics request }, accessory) := by
  unfold handle serve
  rw [hpath, hmethod, hencrypted]
  rfl

/-- A request to read, on a connection that is encrypted: it is answered with one entry for each
name that it lists, in the same order. If one of the reads failed, the answer is a multi-status and
every entry has a status, otherwise none has. The body is the text of the entries. The accessory
stays as it is. -/
theorem answered_id_by_id (suite : CipherSuite) (accessory : Accessory) (conn : ConnectionId)
    (hencrypted : accessory.registry.isEncrypted conn = true) (ids : List CharacteristicId)
    (hne : ids ≠ []) (more : Option String) (headers : ExtTreeMap String String) (body : Bytes) :
    let request := { Http.Request.ofTarget .get (readTarget ids more) with headers, body }
    let failed := ids.any fun id => !(accessory.database.read id).isOk
    let handled := accessory.handle suite conn request
    ∃ entries : List Json,
      handled = ({ response := .json (if failed then 207 else 200) (characteristicsJson entries) },
        accessory) ∧
      handled.1.response.status = (if failed then 207 else 200) ∧
      handled.1.response.headers = [("Content-Type", "application/hap+json")] ∧
      handled.1.response.body = listText (entries.map Json.print) ∧
      entries.map Json.print = ids.map (fun id => readText failed id (accessory.database.read id)) ∧
      List.Forall₂ (fun id entry => Tells failed id (accessory.database.read id) entry)
        ids entries ∧
      ∀ entry ∈ entries, (entry.get? "status").isSome = failed := by
  intro request failed handled
  have hrequest : request =
      { method := .get
        path := "/characteristics"
        query := some (String.ofList (readQuery ids more))
        headers
        body } := by
    simp only [request, ofTarget_readTarget]
  have hids : requestedIds? request = some ids :=
    requestedIds?_of_query hne more (congrArg Http.Request.query hrequest)
  let entries := ids.map fun id => readEntry failed id (accessory.database.read id)
  have hhandled : handled =
      ({ response := .json (if failed then 207 else 200) (characteristicsJson entries) },
        accessory) := by
    rw [show handled = _ from handle_get suite (congrArg Http.Request.method hrequest)
      (congrArg Http.Request.path hrequest) hencrypted, readCharacteristics, hids]
    simp only [List.any_map, List.map_map]
    rfl
  refine ⟨entries, hhandled, ?_, ?_, ?_, ?_, ?_, ?_⟩
  · rw [hhandled]
    rfl
  · rw [hhandled]
    rfl
  · rw [hhandled, ← print_characteristicsJson]
    rfl
  · rw [List.map_map]
    exact List.map_congr_left fun id _ => print_readEntry failed id _
  · rw [List.forall₂_map_right_iff]
    exact List.forall₂_same.2 fun id _ => tells_readEntry failed id _
  · intro entry hentry
    obtain ⟨id, hid, rfl⟩ := List.mem_map.1 hentry
    rw [(tells_readEntry failed id _).isSome_status]
    cases hfailed : failed with
    | true => rfl
    | false =>
      -- without any failure this read did not fail either
      exact Bool.eq_false_iff.2 (List.any_eq_false.1 hfailed id hid)

/-- The light, what is not there, and the light once more, with a parameter behind them. -/
theorem answered_id_by_id_lightbulb :
    let ids : List CharacteristicId := [⟨1, 10⟩, ⟨1, 99⟩, ⟨1, 10⟩]
    let request :=
      { Http.Request.ofTarget .get (readTarget ids (some "meta=1")) with headers := ∅, body := [] }
    let handled := lightbulbAccessory.handle .transparent 1 request
    readTarget ids (some "meta=1") = "/characteristics?id=1.10,1.99,1.10&meta=1" ∧
      lightbulbAccessory.registry.isEncrypted 1 = true ∧ ids ≠ [] ∧
      handled.1.response.status = 207 ∧
      handled.1.response.body = utf8 ("\x7b\"characteristics\":[" ++
        "\x7b\"aid\":1,\"iid\":10,\"status\":0,\"value\":false\x7d," ++
        "\x7b\"aid\":1,\"iid\":99,\"status\":-70409\x7d," ++
        "\x7b\"aid\":1,\"iid\":10,\"status\":0,\"value\":false\x7d]\x7d") := by
  intro ids request handled
  have hencrypted : lightbulbAccessory.registry.isEncrypted 1 = true := by decide +kernel
  have hne : ids ≠ [] := List.cons_ne_nil _ _
  obtain ⟨entries, -, hstatus, -, hbody, htexts, -, -⟩ :=
    answered_id_by_id .transparent lightbulbAccessory 1 hencrypted ids hne (some "meta=1") ∅ []
  have hlight : lightbulbAccessory.database.read ⟨1, 10⟩ = .ok (.bool false) := rfl
  have hmissing : lightbulbAccessory.database.read ⟨1, 99⟩ = .error .resourceDoesNotExist := rfl
  have hfailed : (ids.any fun id => !(lightbulbAccessory.database.read id).isOk) = true := rfl
  rw [hfailed] at hstatus htexts
  simp only [ids, List.map_cons, List.map_nil, hlight, hmissing] at htexts
  rw [htexts] at hbody
  refine ⟨by decide +kernel, hencrypted, hne, hstatus, ?_⟩
  rw [show handled.1.response.body = _ from hbody]
  decide +kernel

end Accessory

end HomeKit
