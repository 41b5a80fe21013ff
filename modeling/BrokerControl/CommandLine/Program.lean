import BrokerControl.CommandLine.Arguments
import BrokerControl.Config.Overlay
import BrokerControl.Config.Startup
import BrokerControl.Management.Session

/-!
# The program

One run carries out one operation. Its result, or the reply to its failure, is printed as indented
JSON. The exit code is 0 on success, 1 if the operation failed or could not be started, and 2 if the
arguments do not name one; in the last two cases nothing is printed.
-/

namespace BrokerControl.CommandLine

open Control Json Management

structure Outcome where
  exitCode : UInt32
  output : String := ""
  diagnostics : String := ""
  deriving DecidableEq

/-- What a run needs from outside. -/
structure Surroundings (m : Type → Type) where
  environment : Config.Environment
  /-- The text of a file, if it can be read. -/
  file : String → Option String
  /-- The way to the broker, given the time that a reply may take. -/
  transport : UInt64 → Transport m
  drawPassword : m String
  readClock : m Timestamp

/-- What is printed for a result; where there is none, what was deleted. -/
def report : (op : Operation) → op.Result → Json
  | .deleteAdaptor r, _ => .object [("adaptor_id", encode r.adaptorId)]
  | .deleteStreaming r, _ => .object [("subscription_id", encode r.subscriptionId)]
  | .deleteCallback r, _ => .object [("consumer", encode r.consumer), ("name", encode r.name)]
  | op, result => op.encodeResult result

def Outcome.ofResult (op : Operation) : Except Failure op.Result → Outcome
  | .ok result => { exitCode := 0, output := pretty (report op result) ++ "\n" }
  | .error f => {
      exitCode := 1
      output := pretty (encode f.reply) ++ "\n"
      diagnostics := f.message ++ "\n" }

/-- A run that does not come to its operation. -/
def Outcome.failed (exitCode : UInt32) (reasons : List String) : Outcome where
  exitCode
  diagnostics := ": ".intercalate reasons ++ "\n"

/-- The commands, each with its options. -/
def usage : String :=
  let line (c : Command) :=
    let options := (c.single ++ c.multiple).map fun name => s!" --{name} VALUE"
    "  " ++ c.name ++ "".intercalate options ++ "\n"
  "Commands:\n" ++ "".intercalate (commands.map line)

variable {m : Type → Type} [Monad m]

def carryOut (around : Surroundings m) (op : Operation) : m Outcome :=
  match Config.load around.environment around.file with
  | .error e =>
    return .failed 1 (["control plane config", e.message] ++ e.cause?.toList)
  | .ok config => match config.start with
    | .error fault => return .failed 1 fault.reasons
    | .ok (registry, client) => do
      let session : Session m := {
        client
        transport := around.transport config.management.timeoutMs
        drawPassword := around.drawPassword
        readClock := around.readClock }
      let (result, _) ← session.run config.settings op registry
      return .ofResult op result

def run (around : Surroundings m) (arguments : List String) : m Outcome :=
  match Invocation.ofArguments arguments with
  | .error e => return .failed 2 [e.message]
  | .ok .help => return { exitCode := 0, output := usage }
  | .ok (.run op) => carryOut around op

end BrokerControl.CommandLine
