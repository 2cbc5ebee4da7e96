import LayerMarkup.Failure
import LayerMarkup.Json.Basic
import LayerMarkup.Layer

/-!
# Events

What a run reports about itself while it works: how much a report matters, where it comes from and
what it says.
-/

namespace LayerMarkup

/-- How much a report matters. -/
inductive Level where
  | debug
  | info
  | warning
  | error
deriving DecidableEq

namespace Level

def rank : Level → Nat
  | debug => 0
  | info => 1
  | warning => 2
  | error => 3

def word : Level → String
  | debug => "DEBUG"
  | info => "INFO"
  | warning => "WARNING"
  | error => "ERROR"

def ofWord? (s : String) : Option Level := [debug, info, warning, error].find? (·.word == s)

end Level

/-- A report. -/
inductive Event where
  | indexed (nodes selected : Nat)
  | classified (kind : LayerKind) (name : String) (dataType : Option DataType) (children : Nat)
  | merging (count : Nat) (source target : String)
  | mainLookupFailed (name : String) (cause : Failure)
  | defaultsLookupFailed (component : String) (cause : Failure)
  | noMainComponent (name : String)
  | generated (roots nodes kept : Nat)
  | generationFailed
  | refused (refusal : Refusal)
  | unexpectedFailure
  | unknownMessage (type : Json)
  | wrote (path : String)

namespace Event

def level : Event → Level
  | indexed .. | classified .. | merging .. | noMainComponent .. | unknownMessage .. => .debug
  | generated .. | wrote .. => .info
  | mainLookupFailed .. | defaultsLookupFailed .. | refused .. => .warning
  | generationFailed | unexpectedFailure => .error

/-- The part of the program that reports. -/
def origin : Event → String
  | indexed .. => "hosts.snapshot"
  | classified .. | merging .. => "tree.ingestor"
  | mainLookupFailed .. | defaultsLookupFailed .. | noMainComponent .. => "algorithm.resolver"
  | generated .. | generationFailed => "generator"
  | refused .. | unexpectedFailure | unknownMessage .. => "session"
  | wrote .. => "cli"

/-- What is reported.  The time that a generation took is written as the letter T. -/
def message : Event → String
  | indexed nodes selected =>
    "Snapshot indexed " ++ toString nodes ++ " nodes (" ++ toString selected ++ " selected)"
  | classified kind name dataType children =>
    "Ingested " ++ kind.word ++ " " ++ Text.quoted name ++ " (" ++
      (dataType.map DataType.word).getD "untyped" ++ ", " ++ toString children ++ " children)"
  | merging count source target =>
    "Merging " ++ toString count ++ " properties from " ++ Text.quoted source ++ " into " ++
      Text.quoted target
  | mainLookupFailed name cause =>
    "Main component lookup failed for " ++ Text.quoted name ++ " (" ++ cause.text ++
      "); using sentinel defaults"
  | defaultsLookupFailed component cause =>
    "Defaults lookup failed for component " ++ component ++ " (" ++ cause.text ++
      "); using sentinel defaults"
  | noMainComponent name => "Instance " ++ Text.quoted name ++ " has no main component"
  | generated roots nodes kept =>
    "Generated markup for " ++ toString roots ++ " root(s): " ++ toString nodes ++
      " node(s) ingested, " ++ toString kept ++ " kept at top level in T ms"
  | generationFailed => "Markup generation failed"
  | refused refusal => "Generation refused: " ++ refusal.message
  | unexpectedFailure => "Unexpected failure while generating"
  | unknownMessage type => "Ignoring unknown message type " ++ type.displayQuoted
  | wrote path => "Wrote " ++ path

/-- A report on one line. -/
def line (e : Event) : String :=
  "[components2code." ++ e.origin ++ "] [" ++ e.level.word ++ "] " ++ e.message

/-- The reports that matter at least as much as a threshold, each on one line. -/
def linesFrom (threshold : Level) (events : List Event) : List String :=
  (events.filter fun e => threshold.rank ≤ e.level.rank).map line

end Event

end LayerMarkup
