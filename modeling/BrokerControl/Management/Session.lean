import BrokerControl.Control.Operation
import BrokerControl.Management.Client

/-!
# Sessions

Operations on a broker behind its management interface. The registry is in memory and lasts as long
as its holder keeps it; passwords and the time come from outside.
-/

namespace BrokerControl.Management

open Control

structure Session (m : Type → Type) where
  client : Client
  transport : Transport m
  drawPassword : m String
  readClock : m Timestamp

namespace Session

variable {m : Type → Type} [Monad m]

def handle (s : Session m) : (e : Effect) → StateT Registry m e.Answer
  | .broker c => s.client.ask s.transport c
  | .registry c => modifyGet (·.respond c)
  | .drawPassword => s.drawPassword
  | .readClock => s.readClock
  | .count _ => return ()

def run (s : Session m) (settings : Settings) (op : Operation) (r : Registry) :
    m (Except Failure op.Result × Registry) :=
  (op.procedure settings).run.interpret s.handle r

end Session

end BrokerControl.Management
