import BrokerControl.Control.Plan

/-!
# Metrics

The events counted so far as lines of a Prometheus exposition, in the order of the lines; what
never happened has no line. In a label value the backslash, the quote and the line feed are escaped;
a pair of backslashes counts as one that is escaped already, and so does a backslash with the quote
after it.
-/

namespace BrokerControl.Control.Metrics

/-- A label value from some place on, where `held` says that the backslash before that place is
still to be written. It waits for what follows it, past line feeds, which are written at once. -/
def escapeFrom : Bool → List Char → List Char
  | held, [] => if held then ['\\', '\\'] else []
  | held, c :: cs =>
    if c = '\n' then '\\' :: 'n' :: escapeFrom held cs
    else if c = '"' then '\\' :: '"' :: escapeFrom false cs
    else if c = '\\' then if held then '\\' :: '\\' :: escapeFrom false cs else escapeFrom true cs
    else if held then '\\' :: '\\' :: c :: escapeFrom false cs
    else c :: escapeFrom false cs

def escapeLabel (value : String) : String := String.ofList (escapeFrom false value.toList)

def label (name value : String) : String := name ++ "=\"" ++ escapeLabel value ++ "\""

/-- The counter of an event with its labels. -/
def series : Event → String
  | .completed workflow =>
    "courier_saga_total\x7b" ++ label "saga" workflow ++ "," ++ label "outcome" "completed" ++
      "\x7d"
  | .compensated workflow =>
    "courier_saga_total\x7b" ++ label "saga" workflow ++ "," ++ label "outcome" "compensated" ++
      "\x7d"
  | .compensationFailed workflow =>
    "courier_compensation_failures_total\x7b" ++ label "saga" workflow ++ "\x7d"

def line (events : List Event) (e : Event) : String :=
  series e ++ " " ++ toString (events.count e)

def lines (events : List Event) : List String :=
  (events.eraseDups.map (line events)).mergeSort

end BrokerControl.Control.Metrics
