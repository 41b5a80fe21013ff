import BrokerControl.Control.Operation

/-!
# Command-line arguments

A command is named by the first argument and followed by its options. An option takes one value,
either the next argument or what follows the first `=` of its own; a next argument that begins with
`-` is not a value, unless it is `-` alone. Help may be asked for at any place, and arguments after
it are not looked at. Two dashes alone end the options, and nothing may follow them.
-/

namespace BrokerControl.CommandLine

open Control

inductive UsageError where
  | noCommand
  | unknownCommand (given : String)
  | unexpectedArgument (given : String)
  | repeatedOption (name : String)
  | missingValue (name : String)
  | missingOption (command : String)
  deriving DecidableEq

def UsageError.message : UsageError → String
  | .noCommand => "a command is required"
  | .unknownCommand given => s!"unknown command {given}"
  | .unexpectedArgument given => s!"unexpected argument {given}"
  | .repeatedOption name => s!"option --{name} is given more than once"
  | .missingValue name => s!"option --{name} needs a value"
  | .missingOption command => s!"a required option of {command} is missing"

/-! ## Commands -/

/-- The options that were given, in order. -/
abbrev Values := List (String × String)

namespace Values

def one? (vs : Values) (name : String) : Option String := vs.lookup name

def all (vs : Values) (name : String) : List String :=
  vs.filterMap fun (n, v) => if n = name then some v else none

end Values

structure Command where
  name : String
  /-- The options that may be given once. -/
  single : List String := []
  /-- The options that may be given any number of times. -/
  multiple : List String := []
  /-- What is asked for, if no required option is missing. -/
  operation : Values → Option Operation

def bootstrap : Command where
  name := "bootstrap"
  operation _ := some .bootstrap

def registerAdaptor : Command where
  name := "register-adaptor"
  single := ["adaptor-id", "owner", "vhost"]
  operation vs := return .registerAdaptor {
    adaptorId := ← vs.one? "adaptor-id"
    owner := ← vs.one? "owner"
    vhost := vs.one? "vhost" }

def deleteAdaptor : Command where
  name := "delete-adaptor"
  single := ["adaptor-id", "owner", "vhost"]
  operation vs := return .deleteAdaptor {
    adaptorId := ← vs.one? "adaptor-id"
    owner := ← vs.one? "owner"
    vhost := vs.one? "vhost" }

def getAdaptor : Command where
  name := "get-adaptor"
  single := ["adaptor-id", "vhost"]
  operation vs := return .getAdaptor (← vs.one? "adaptor-id") (vs.one? "vhost")

def listAdaptorBindings : Command where
  name := "list-adaptor-bindings"
  single := ["adaptor-id", "vhost"]
  operation vs := return .listAdaptorBindings (← vs.one? "adaptor-id") (vs.one? "vhost")

def streamingRequest? (vs : Values) : Option StreamingRequest :=
  return {
    consumer := ← vs.one? "consumer"
    name := ← vs.one? "name"
    entities := vs.all "entity" }

def registerStreaming : Command where
  name := "register-streaming"
  single := ["consumer", "name"]
  multiple := ["entity"]
  operation vs := (streamingRequest? vs).map .registerStreaming

def updateStreaming : Command where
  name := "update-streaming"
  single := ["consumer", "name"]
  multiple := ["entity"]
  operation vs := (streamingRequest? vs).map .updateStreaming

def appendStreaming : Command where
  name := "append-streaming"
  single := ["subscription-id"]
  multiple := ["entity"]
  operation vs := return .appendStreaming {
    subscriptionId := ← vs.one? "subscription-id"
    entities := vs.all "entity" }

def deleteStreaming : Command where
  name := "delete-streaming"
  single := ["subscription-id", "consumer"]
  operation vs := return .deleteStreaming {
    subscriptionId := ← vs.one? "subscription-id"
    consumer := ← vs.one? "consumer" }

def listStreaming : Command where
  name := "list-streaming"
  single := ["subscription-id"]
  operation vs := (vs.one? "subscription-id").map .listStreaming

def callbackRequest? (vs : Values) : Option CallbackRequest :=
  return {
    consumer := ← vs.one? "consumer"
    name := ← vs.one? "name"
    callbackUrl := ← vs.one? "callback-url"
    entities := vs.all "entity" }

def registerCallback : Command where
  name := "register-callback"
  single := ["consumer", "name", "callback-url"]
  multiple := ["entity"]
  operation vs := (callbackRequest? vs).map .registerCallback

def updateCallback : Command where
  name := "update-callback"
  single := ["consumer", "name", "callback-url"]
  multiple := ["entity"]
  operation vs := (callbackRequest? vs).map .updateCallback

def deleteCallback : Command where
  name := "delete-callback"
  single := ["consumer", "name"]
  operation vs := return .deleteCallback {
    consumer := ← vs.one? "consumer"
    name := ← vs.one? "name" }

def listCallback : Command where
  name := "list-callback"
  single := ["consumer", "name"]
  operation vs := return .listCallback (← vs.one? "consumer") (← vs.one? "name")

def heartbeat : Command where
  name := "heartbeat"
  single := ["adaptor-id", "status", "vhost"]
  operation vs := return .heartbeat {
    adaptorId := ← vs.one? "adaptor-id"
    status := ← vs.one? "status"
    vhost := vs.one? "vhost" }

def resetPassword : Command where
  name := "reset-password"
  single := ["username"]
  operation vs := (vs.one? "username").map .resetPassword

def commands : List Command :=
  [bootstrap, registerAdaptor, deleteAdaptor, getAdaptor, listAdaptorBindings, registerStreaming,
    updateStreaming, appendStreaming, deleteStreaming, listStreaming, registerCallback,
    updateCallback, deleteCallback, listCallback, heartbeat, resetPassword]

def command? (name : String) : Option Command := commands.find? (·.name = name)

/-! ## Reading arguments -/

inductive Invocation where
  | help
  | run (operation : Operation)

/-- What options come to. -/
inductive Options where
  | help
  | values (vs : Values)

/-- Whether an argument asks for help: `--help`, or single letters of which the first is `h`. -/
def asksForHelp (argument : String) : Bool :=
  argument = "--help" || argument.startsWith "-h"

/-- The name of an option, and its value if that is in the same argument. -/
def option? (argument : String) : Option (String × Option String) :=
  match argument.toList with
  | '-' :: '-' :: rest => match Text.cut? '=' rest with
    | some (name, value) => some (String.ofList name, some (String.ofList value))
    | none => some (String.ofList rest, none)
  | _ => none

/-- Whether an argument can be the value of the option before it. -/
def isValue (argument : String) : Bool := argument = "-" || !argument.startsWith "-"

/-- Records an option, unless it may not be given again. -/
def Command.record (c : Command) (given : Values) (name value : String) :
    Except UsageError Values :=
  if c.multiple.contains name then .ok (given ++ [(name, value)])
  else if (given.one? name).isSome then .error (.repeatedOption name)
  else .ok (given ++ [(name, value)])

/-- Reads the options of a command after those that are already given. -/
def Command.options (c : Command) (given : Values) : List String → Except UsageError Options
  | [] => .ok (.values given)
  | ["--"] => .ok (.values given)
  | "--" :: argument :: _ => .error (.unexpectedArgument argument)
  | argument :: rest =>
    if asksForHelp argument then .ok .help
    else match option? argument with
      | none => .error (.unexpectedArgument argument)
      | some (name, attached) =>
        if !(c.single ++ c.multiple).contains name then .error (.unexpectedArgument argument)
        else match attached, rest with
          | some value, rest => do c.options (← c.record given name value) rest
          | none, value :: rest =>
            if isValue value then do c.options (← c.record given name value) rest
            else .error (.missingValue name)
          | none, [] => .error (.missingValue name)

/-- What is asked for help on: nothing, a command, or help itself. -/
def helpTopic : List String → Except UsageError Invocation
  | [] | ["help"] => .ok .help
  | "help" :: topic :: _ => .error (.unknownCommand topic)
  | topic :: rest => match command? topic, rest with
    | some _, [] => .ok .help
    | some _, given :: _ => .error (.unknownCommand given)
    | none, _ => .error (.unknownCommand topic)

def Invocation.ofArguments : List String → Except UsageError Invocation
  | [] => .error .noCommand
  | "help" :: topics => helpTopic topics
  | name :: arguments =>
    if asksForHelp name then .ok .help
    else match command? name with
      | none => .error (.unknownCommand name)
      | some c => do
        match ← c.options [] arguments with
        | .help => return .help
        | .values given => match c.operation given with
          | some operation => return .run operation
          | none => throw (.missingOption c.name)

end BrokerControl.CommandLine
