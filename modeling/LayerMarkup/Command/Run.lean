import LayerMarkup.Command.Directory
import LayerMarkup.Command.Arguments
import LayerMarkup.Generation
import LayerMarkup.Json.Printer
import LayerMarkup.Json.Reader
import LayerMarkup.Snapshot.Document
import LayerMarkup.Text.Decoding

/-!
# Running the command

A request is served by checking its settings, reading the snapshot and generating.  The result goes
to standard output or to a file; a failure goes to standard error.  One failure is not reported but
ends the program: a document whose layers are not objects.  And one is not told to its end: a
document with half of a surrogate pair alone in a text (`Json.ReadError.loneSurrogate`), which may
go unnoticed, or be found where the result is put.

The command runs in a world (`World`), from which it takes the text of its snapshot and in which it
puts its result: the real one, or a directory with a text on standard input (`Directory.world`).
-/

namespace LayerMarkup.Command

/-- Why a request has no result. -/
inductive Problem where
  /-- An option was given without the text that it needs. -/
  | withoutText
  /-- An option was given without the number that it needs. -/
  | withoutNumber
  | config (error : ConfigError)
  | file (error : FileError)
  | encoding (error : Text.Utf8Error)
  | json (error : Json.ReadError)
  | document (error : DocumentError)
  | refused (refusal : Refusal)

namespace Problem

def message : Problem → String
  | withoutText => (Failure.textExpected "list").text
  | withoutNumber => "'<' not supported between instances of 'list' and 'int'"
  | config error => error.message
  | file error => error.message
  | encoding error => error.message
  | json error => error.message
  | document error => error.message
  | refused refusal => refusal.message

/-- The problem is handed on instead of being reported: it ends the program, or what it comes to is
not told here. -/
def isHandedOn : Problem → Bool
  | document (.noFields ..) => true
  | json (.loneSurrogate _) => true
  | _ => false

end Problem

/-- The settings of a request with a start of tags and a number of attributes. -/
def Request.settings (r : Request) (tagStart : String) (wrapAt : Option Int) : Settings where
  tagStart := tagStart
  matchStart := r.matchStart
  maxInlineAttributes := wrapAt
  keepEmptyContainers := r.keepEmptyContainers

/-- The configuration of a request.  The start of tags is looked at before the number of
attributes. -/
def Request.config (r : Request) : Except Problem Config :=
  let checked (start : String) (wrapAt : Option Int) : Except Problem Config :=
    (r.settings start wrapAt).check.mapError .config
  match r.tagStart, r.wrapAt with
  | .nothing, _ => .error .withoutText
  | .value start, none => checked start none
  | .value start, some (.value n) => checked start (some n)
  | .value start, some .nothing => (checked start none).bind fun _ => .error .withoutNumber

/-- The path of the file that the result is put into, if it is put into one. -/
def Request.outputPath? (r : Request) : Option String := r.output.filter (!·.isEmpty)

/-- The reports that a request wants to see. -/
def Request.threshold (r : Request) : Level := if r.verbose then .debug else .warning

/-- The text of a file: its bytes decoded, its line ends made uniform. -/
def fileText (bytes : List UInt8) : Except Problem String := do
  let text ← (Text.decodeUtf8 bytes).mapError .encoding
  return String.ofList (Text.unifyLineEnds text.toList)

/-- The result for a snapshot under checked settings, and the reports. -/
def resultOf (r : Request) (config : Config) (snapshot : Snapshot) :
    Except Problem String × List Event :=
  let generator : Generator := { config }
  let task : Task Unit (Except Refusal String) :=
    if r.asExport then do
      let exported ← generator.generateExport snapshot.host snapshot.selection
      return exported.map Json.indented
    else do
      let generated ← generator.generate snapshot.host snapshot.selection
      return generated.map Generated.markup
  let (outcome, _, events) := task.run ()
  (outcome.mapError .refused, snapshot.indexed :: events)

/-- The snapshot that a JSON text holds. -/
def snapshotOf (text : String) : Except Problem Snapshot := do
  let document ← (Json.read text).mapError .json
  (Snapshot.ofDocument document).mapError .document

/-- Serves a request from the text of its snapshot: the settings are checked before the text is
looked at. -/
def serve (r : Request) (source : Except Problem String) : Except Problem String × List Event :=
  match r.config with
  | .error problem => (.error problem, [])
  | .ok config =>
    match source.bind snapshotOf with
    | .error problem => (.error problem, [])
    | .ok snapshot => resultOf r config snapshot

/-- The text that a request names as its snapshot. -/
def Request.sourceIn (r : Request) (directory : Directory) (stdin : String) : Except Problem String :=
  if r.source = "-" then .ok stdin else ((directory.read r.source).mapError .file).bind fileText

/-- Puts a result where the request wants it. -/
def deliver (r : Request) (directory : Directory) (result : String) :
    Except Problem (String × Directory × List Event) :=
  match r.outputPath? with
  | none => .ok (result ++ "\n", directory, [])
  | some path =>
    match directory.write path (result ++ "\n") with
    | .error error => .error (.file error)
    | .ok directory => .ok ("", directory, [.wrote path])

/-- What the command needs of the world around it. -/
structure World (m : Type → Type) where
  /-- The text of the snapshot that a request names. -/
  source : Request → m (Except Problem String)
  /-- Puts a result where the request wants it: what goes to standard output, and the reports. -/
  deliver : Request → String → m (Except Problem (String × List Event))

/-- A directory to work in, and a text on standard input. -/
def Directory.world (stdin : String) : World (StateM Directory) where
  source r := fun directory => (r.sourceIn directory stdin, directory)
  deliver r result := fun directory =>
    match Command.deliver r directory result with
    | .ok (stdout, after, events) => (.ok (stdout, events), after)
    | .error problem => (.error problem, directory)

/-- What a run of the command says. -/
structure Ending where
  exit : Nat
  stdout : String := ""
  stderr : String := ""
  /-- The reports that were asked for, each on one line. -/
  log : List String := []

/-- What is said of a request after what came of it: what is put out, or a problem, which is handed
on if it is not reported. -/
def Request.ending (r : Request) (events : List Event) :
    Except Problem (String × List Event) → Except Problem Ending
  | .ok (stdout, more) =>
    .ok { exit := 0, stdout, log := Event.linesFrom r.threshold (events ++ more) }
  | .error problem =>
    if problem.isHandedOn then .error problem
    else
      .ok
        { exit := 1, stderr := "error: " ++ problem.message ++ "\n"
          log := Event.linesFrom r.threshold events }

/-- Runs the command in a world. -/
def runIn {m : Type → Type} [Monad m] (world : World m) (arguments : List String) :
    m (Except Problem Ending) := do
  match parse arguments with
  | .error .help => return .ok { exit := 0, stdout := help }
  | .error (.usage error) => return .ok { exit := 2, stderr := usageReport error }
  | .ok request =>
    let (result, events) := serve request (← world.source request)
    match result with
    | .ok text => return request.ending events (← world.deliver request text)
    | .error problem => return request.ending events (.error problem)

/-- What a run of the command says, and the directory that it leaves behind. -/
structure Outcome extends Ending where
  directory : Directory

/-- Runs the command in a directory with a text on standard input. -/
def run (directory : Directory) (stdin : String) (arguments : List String) : Except Problem Outcome :=
  let (ending, after) := runIn (Directory.world stdin) arguments directory
  ending.map fun ending => { ending with directory := after }

end LayerMarkup.Command
