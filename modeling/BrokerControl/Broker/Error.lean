/-!
# Failures of broker calls
-/

namespace BrokerControl

/-- Why a single call to the broker failed. -/
inductive Broker.Error where
  | alreadyExists (what : String)
  | notFound (what : String)
  | unexpectedStatus (path : String) (status : UInt16)
  /-- The management URL cannot be called at all. -/
  | invalidUrl (url : String)
  /-- A message body that has no text form. -/
  | invalidPayload
  /-- No reply, or a reply that cannot be read. -/
  | transport
  deriving DecidableEq, Inhabited

namespace Broker.Error

def message : Error → String
  | .alreadyExists what => s!"{what} already exists"
  | .notFound what => s!"{what} not found"
  | .unexpectedStatus path status => s!"unexpected status {status.toNat} from {path}"
  | .invalidUrl url => s!"invalid management url: {url}"
  | .invalidPayload => "payload is not valid utf-8"
  | .transport => "no usable reply"

def isNotFound : Error → Bool
  | .notFound _ => true
  | _ => false

def isConflict : Error → Bool
  | .alreadyExists _ => true
  | _ => false

end Broker.Error

end BrokerControl
