import HomeKit.Accessory.Basic

/-!
# Characteristic requests

Reading and writing characteristics. The entries of a request are answered one by one, in order; a
status is reported for each as soon as one of them fails.
-/

namespace HomeKit.Accessory

def malformed : Http.Response :=
  statusResponse 400 .invalidValue

/-! ## Reading -/

def requestedIds? (request : Http.Request) : Option (List CharacteristicId) :=
  (request.parameter? "id").bind fun ids =>
    ((Text.pieces ',' ids.toList).mapM CharacteristicId.parse).toOption

def readEntry (withStatus : Bool) (id : CharacteristicId) : Except HapStatus Json → Json
  | .ok value =>
    id.entry (("value", value) :: if withStatus then [HapStatus.success.member] else [])
  | .error status => id.entry [status.member]

def readCharacteristics (accessory : Accessory) (request : Http.Request) : Http.Response :=
  match requestedIds? request with
  | none => malformed
  | some ids =>
    let results := ids.map fun id => (id, accessory.database.read id)
    let failed := results.any fun result => !result.2.isOk
    .json (if failed then 207 else 200)
      (characteristicsJson (results.map fun result => readEntry failed result.1 result.2))

/-! ## Writing -/

def entryId? (entry : Json) : Option CharacteristicId := do
  let aid ← (entry.get? "aid").bind Json.natural?
  let iid ← (entry.get? "iid").bind Json.natural?
  return ⟨aid, iid⟩

/-- Subscribes a connection to a characteristic or ends the subscription, if the entry asks for
it. -/
def applySubscription (accessory : Accessory) (conn : ConnectionId) (id : CharacteristicId)
    (entry : Json) : Except HapStatus Accessory :=
  match entry.get? "ev" with
  | none => .ok accessory
  | some ev =>
    match ev.bool? with
    | none => .error .invalidValue
    | some on =>
      match if on then accessory.database.subscribe id else .ok () with
      | .error status => .error status
      | .ok _ => .ok (accessory.setRegistry (accessory.registry.setSubscription conn id on))

/-- Writes the value of an entry, if it has one, and tells the other subscribers. -/
def applyValue (accessory : Accessory) (conn : ConnectionId) (id : CharacteristicId)
    (entry : Json) : HapStatus × Accessory :=
  match entry.get? "value" with
  | none => (.success, accessory)
  | some value =>
    match accessory.database.write id value with
    | .error status => (status, accessory)
    | .ok database =>
      let shown := (database.read id).toOption.getD value
      let (_, connections) := accessory.connections.broadcast id shown (some conn)
      (.success, { accessory with database, connections })

/-- Applies an entry: first the subscription, then the value. -/
def applyEntry (accessory : Accessory) (conn : ConnectionId) (id : CharacteristicId)
    (entry : Json) : HapStatus × Accessory :=
  match accessory.applySubscription conn id entry with
  | .error status => (status, accessory)
  | .ok accessory => accessory.applyValue conn id entry

/-- Applies entries up to the first that names no characteristic. -/
def applyEntries (accessory : Accessory) (conn : ConnectionId) :
    List Json → Option (List (CharacteristicId × HapStatus)) × Accessory
  | [] => (some [], accessory)
  | entry :: rest =>
    match entryId? entry with
    | none => (none, accessory)
    | some id =>
      let (status, accessory) := accessory.applyEntry conn id entry
      let (statuses, accessory) := applyEntries accessory conn rest
      (statuses.map ((id, status) :: ·), accessory)

def writeResponse (statuses : List (CharacteristicId × HapStatus)) : Http.Response :=
  if statuses.all (·.2 == .success) then .noContent
  else .json 207 (characteristicsJson (statuses.map fun result => result.1.entry [result.2.member]))

def entries? (body : Bytes) : Option (List Json) :=
  ((Json.parse? body).bind (·.get? "characteristics")).bind Json.array?

def writeCharacteristics (accessory : Accessory) (conn : ConnectionId) (body : Bytes) :
    Http.Response × Accessory :=
  match entries? body with
  | none => (malformed, accessory)
  | some entries =>
    let (statuses, accessory) := accessory.applyEntries conn entries
    ((statuses.map writeResponse).getD malformed, accessory)

end HomeKit.Accessory
