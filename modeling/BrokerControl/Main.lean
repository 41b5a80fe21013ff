import BrokerControl.CommandLine.Program
import BrokerControl.Control.Password
import BrokerControl.Management.Message
import BrokerControl.Management.Message
import Std.Async.DNS
import Std.Async.TCP
import Std.Async.Timer
import Std.Time.DateTime

/-!
# The command line

What the program needs of the machine: variables, a file, random bytes, the clock and connections.
-/

open BrokerControl Management
open Std.Async Std.Net

namespace BrokerControl.CommandLine

/-! ## Connections -/

/-- The addresses of a host. -/
def addresses : Host → Async (Array IPAddr)
  | .name text => DNS.getAddrInfo text ""
  | .version4 n =>
    let byte (shift : Nat) : UInt8 := .ofNat (n >>> shift)
    return #[.v4 (.ofParts (byte 24) (byte 16) (byte 8) (byte 0))]
  | .version6 groups =>
    let group (i : Nat) : UInt16 := .ofNat (groups.getD i 0)
    return #[.v6 (.ofParts (group 0) (group 1) (group 2) (group 3) (group 4) (group 5) (group 6)
      (group 7))]

def socketAddress (port : UInt16) : IPAddr → SocketAddress
  | .v4 addr => .v4 { addr, port }
  | .v6 addr => .v6 { addr, port }

/-- All that the other side sends before it closes the connection. -/
partial def receive (socket : TCP.Socket.Client) (received : ByteArray) : Async ByteArray := do
  match ← socket.recv? 65536 with
  | some bytes => receive socket (received ++ bytes)
  | none => return received

def exchange (q : Request) (address : SocketAddress) : Async (Option Reply) := do
  let socket ← TCP.Socket.Client.mk
  socket.connect address
  socket.send q.bytes
  return Reply.ofBytes? (← receive socket .empty)

/-- The reply of the first address that can be connected to. -/
def firstReply (q : Request) : List SocketAddress → Async (Option Reply)
  | [] => return none
  | address :: rest => do
    try exchange q address catch _ => firstReply q rest

/-- Sends a request over a plain connection; there is no other kind. -/
def send (q : Request) : Async (Option Reply) :=
  match q.url.scheme, q.url.host with
  | "http", some host => do
    let port := q.url.port.getD 80
    firstReply q ((← addresses host).toList.map (socketAddress port))
  | _, _ => return none

/-- The transport of requests that wait no longer than some milliseconds for their replies. -/
def network (timeoutMs : UInt64) : Transport IO := fun q => do
  let expired : Async (Option Reply) := do
    sleep (.ofNat timeoutMs.toNat)
    return none
  try (Async.race (send q) expired).block catch _ => return none

/-! ## Surroundings -/

def randomPassword : IO String := do
  let bytes ← IO.getRandomBytes 64
  let byte (i : Nat) : Nat := (bytes.get! i).toNat
  return Control.Password.ofDraws fun i =>
    ((byte (4 * i) * 256 + byte (4 * i + 1)) * 256 + byte (4 * i + 2)) * 256 + byte (4 * i + 3)

def currentTime : IO Timestamp := do
  let utc := Std.Time.WallTime.ofTimestamp (← Std.Time.Timestamp.now) .zero
  let now := Std.Time.PlainDateTime.ofWallTime utc
  let time := do
    let date ← Date.of? now.year now.month.val.toNat now.day.val.toNat
    Timestamp.ofLocal? date (60 * now.hour.val.toNat + now.minute.val.toNat)
      now.second.val.toNat now.nanosecond.val.toNat 0
  match time with
  | some t => return t
  | none => throw (IO.userError "the clock is out of range")

/-- The variables that are set. -/
def environment : IO Config.Environment := do
  let given ← Config.variableNames.filterMapM fun name => do
    return (← IO.getEnv name).map fun text => (name, text)
  return fun name => given.lookup name

/-- The text of the configuration file, if one is named and can be read. -/
def configFile (env : Config.Environment) : IO (Option String) :=
  match env "COURIER_CP_CONFIG" with
  | some path => do
    try return some (← IO.FS.readFile path) catch _ => return none
  | none => return none

end BrokerControl.CommandLine

open BrokerControl.CommandLine in
def main (arguments : List String) : IO UInt32 := do
  let environment ← environment
  let file ← configFile environment
  let outcome ← run {
    environment
    file := fun _ => file
    transport := network
    drawPassword := randomPassword
    readClock := currentTime } arguments
  IO.print outcome.output
  IO.eprint outcome.diagnostics
  return outcome.exitCode
