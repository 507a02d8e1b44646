import HomeKit.Http.Response
import HomeKit.Identifier

/-!
# Notifications

The message that tells a controller of a characteristic's new value.
-/

namespace HomeKit

/-- The value of a characteristic as a JSON entry, with further members. -/
def CharacteristicId.entry (id : CharacteristicId) (members : List (String × Json)) : Json :=
  .ofMembers (("aid", .ofNatural id.aid) :: ("iid", .ofNatural id.iid) :: members)

def characteristicsJson (entries : List Json) : Json :=
  .ofMembers [("characteristics", .array entries)]

def eventMessage (id : CharacteristicId) (value : Json) : Bytes :=
  (Http.Response.json 200 (characteristicsJson [id.entry [("value", value)]])).serializeEvent

end HomeKit
