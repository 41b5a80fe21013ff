import BrokerControl.Json.Wire
import BrokerControl.Registry.State

/-!
# JSON forms of the registry's rows
-/

namespace BrokerControl.Registry

open Json

def Credential.record : Record Credential :=
  (((Record.of Credential.mk).required "username").required "password_hash").required "created_at"

instance : Wire Credential where
  encode c := .object [("username", encode c.username), ("password_hash", encode c.passwordHash),
    ("created_at", encode c.createdAt)]
  decode := Credential.record.decode

def Callback.record : Record Callback :=
  ((((((Record.of Callback.mk).required "subscription_id").required "callback_url").required
    "entities").required "start_time").required "end_time").required "frequency"

instance : Wire Callback where
  encode c := .object [("subscription_id", encode c.subscriptionId),
    ("callback_url", encode c.callbackUrl), ("entities", encode c.entities),
    ("start_time", encode c.startTime), ("end_time", encode c.endTime),
    ("frequency", encode c.frequency)]
  decode := Callback.record.decode

end BrokerControl.Registry
