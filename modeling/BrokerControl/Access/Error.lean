/-!
# Malformed names
-/

namespace BrokerControl.Access

/-- A text that does not have the form wanted of it. -/
inductive Malformed where
  | resourceId (text : String)
  | routingKey (text : String)
  | edit (text : String)
  deriving DecidableEq

def Malformed.message : Malformed → String
  | .resourceId text => s!"invalid resource id: {text}"
  | .routingKey text => s!"invalid routing key: {text}"
  | .edit text => s!"invalid permission op: {text}"

end BrokerControl.Access
