import LayerMarkup.Text.Basic
import LayerMarkup.Text.Decoding

/-!
# Arguments of the command

How the words of a command line become a request.  Each word is first told to be an option, an
operand or the separator after which all words are operands.  A long option may be cut to any
beginning that no other long option shares, short options may be run together, and a value may
follow its option directly, after an equals sign or as the next word.  Two hyphens in the same word
as their option are taken for a separator too, and leave the option without a value.  Then the words
are taken in order, and the first fault ends the reading, as does a call for help.
-/

namespace LayerMarkup.Command

/-- What an option that takes a value is set to. -/
inductive Choice (α : Type) where
  | value (a : α)
  /-- The option was given without a value. -/
  | nothing
deriving DecidableEq

/-- The value of a choice that has one. -/
def Choice.value? {α : Type} : Choice α → Option α
  | value a => some a
  | nothing => none

/-- What is asked of the command. -/
structure Request where
  /-- The path of the snapshot, or a hyphen for standard input. -/
  source : String
  tagStart : Choice String := .value "U"
  asExport : Bool := false
  wrapAt : Option (Choice Int) := none
  keepEmptyContainers : Bool := false
  matchStart : Bool := true
  output : Option String := none
  verbose : Bool := false
deriving DecidableEq

/-- An option. -/
inductive Flag where
  | help
  | tagStart
  | json
  | wrapAt
  | keepEmptyContainers
  | anyStart
  | output
  | verbose
deriving DecidableEq

namespace Flag

/-- The spellings of all options. -/
def spellings : List (String × Flag) :=
  [("-h", help), ("--help", help), ("--prefix", tagStart), ("--json", json),
    ("--wrap-attributes", wrapAt), ("--keep-empty-containers", keepEmptyContainers),
    ("--no-match-prefix", anyStart), ("--output", output), ("-o", output), ("--verbose", verbose),
    ("-v", verbose)]

/-- The option of an exact spelling. -/
def ofSpelling? (s : String) : Option Flag := (spellings.find? (·.1 == s)).map Prod.snd

/-- The spellings of an option as messages name it. -/
def names (flag : Flag) : String :=
  Text.joinWith "/" ((spellings.filter (·.2 == flag)).map Prod.fst)

def takesValue : Flag → Bool
  | tagStart | wrapAt | output => true
  | _ => false

end Flag

/-- A fault in the words of a command line. -/
inductive UsageError where
  | missingSnapshot
  | valueExpected (flag : Flag)
  | valueIgnored (flag : Flag) (value : String)
  | invalidInteger (flag : Flag) (value : String)
  | ambiguous (word : String) (candidates : List String)
  | unrecognized (words : List String)
deriving DecidableEq

def UsageError.message : UsageError → String
  | missingSnapshot => "the following arguments are required: snapshot"
  | valueExpected flag => "argument " ++ flag.names ++ ": expected one argument"
  | valueIgnored flag value =>
    "argument " ++ flag.names ++ ": ignored explicit argument " ++ Text.quoted value
  | invalidInteger flag value =>
    "argument " ++ flag.names ++ ": invalid int value: " ++ Text.quoted value
  | ambiguous word candidates =>
    "ambiguous option: " ++ word ++ " could match " ++ Text.joinWith ", " candidates
  | unrecognized words => "unrecognized arguments: " ++ Text.joinWith " " words

/-- A word of a command line. -/
inductive Word where
  | operand (s : String)
  | separator
  /-- An option with what follows it in the word; `short` says that it was spelled with one
  hyphen. -/
  | option (flag : Flag) (short : Bool) (attached : Option (List Char))
  | unknown (s : String)

namespace Word

/-- A word that is written like a negative number; a line feed may end it. -/
def isNegativeNumber (cs : List Char) : Bool :=
  match cs with
  | '-' :: rest =>
    let body := if rest.getLast? == some '\n' then rest.dropLast else rest
    let whole := body.takeWhile Text.isDecimalDigit
    match body.drop whole.length with
    | [] => !whole.isEmpty
    | '.' :: fraction => !fraction.isEmpty && fraction.all Text.isDecimalDigit
    | _ => false
  | _ => false

/-- A word cut at its first equals sign, if it has one. -/
def cutAtEquals (cs : List Char) : List Char × Option (List Char) :=
  let before := cs.takeWhile (· != '=')
  match cs.drop before.length with
  | [] => (before, none)
  | _ :: after => (before, some after)

/-- The options that a word that is no exact spelling may stand for, with their spellings. -/
def candidates (cs : List Char) : List (String × Word) :=
  match cs with
  | '-' :: '-' :: _ =>
    let (start, attached) := cutAtEquals cs
    (Flag.spellings.filter fun (spelling, _) => start.isPrefixOf spelling.toList).map
      fun (spelling, flag) => (spelling, .option flag false attached)
  | dash :: letter :: rest =>
    (Flag.spellings.filter fun (spelling, _) => spelling.toList == [dash, letter]).map
      fun (spelling, flag) => (spelling, .option flag true (some rest))
  | _ => []

/-- What a word before the separator is. -/
def classify (s : String) : Except UsageError Word :=
  let cs := s.toList
  if cs.head? != some '-' || cs.length == 1 then .ok (.operand s)
  else
    let isShort (spelling : List Char) : Bool := spelling.drop 1 |>.head? |>.map (· != '-') |>.getD true
    match Flag.ofSpelling? s with
    | some flag => .ok (.option flag (isShort cs) none)
    | none =>
      -- An exact spelling before the equals sign stands for itself, whatever else begins with it.
      let (before, attached) := cutAtEquals cs
      match attached, Flag.ofSpelling? (String.ofList before) with
      | some value, some flag => .ok (.option flag (isShort before) (some value))
      | _, _ =>
        match candidates cs with
        | [(_, word)] => .ok word
        | [] => .ok (if isNegativeNumber cs || cs.contains ' ' then .operand s else .unknown s)
        | several => .error (.ambiguous s (several.map Prod.fst))

/-- What the words of a command line are. -/
def classifyAll : List String → Except UsageError (List Word)
  | [] => .ok []
  | "--" :: rest => .ok (.separator :: rest.map .operand)
  | s :: rest => do
    let word ← classify s
    let words ← classifyAll rest
    return word :: words

end Word

/-- The value that characters in the word of an option stand for: two hyphens stand for none. -/
def attachedValue (cs : List Char) : Choice String :=
  if cs = ['-', '-'] then .nothing else .value (String.ofList cs)

/-- The options that one word gives, in order, and an option at its end whose value must be the next
word. -/
structure Cluster where
  given : List (Flag × Choice String) := []
  pending : Option Flag := none

/-- An option at the end of its word. -/
def Cluster.ofLast (flag : Flag) : Cluster :=
  if flag.takesValue then { pending := some flag } else { given := [(flag, .nothing)] }

/-- Takes options apart that are run together in one word: `flag` was just read, with one hyphen,
and the characters follow it.  They are the value of an option that takes one, and further options
otherwise. -/
def takeApart (flag : Flag) : List Char → Except UsageError Cluster
  | [] => .ok (.ofLast flag)
  | c :: rest =>
    if flag.takesValue then .ok { given := [(flag, attachedValue (c :: rest))] }
    else
      match Flag.ofSpelling? (String.ofList ['-', c]) with
      | none => .error (.valueIgnored flag (String.ofList (c :: rest)))
      | some next => do
        let cluster ← takeApart next rest
        return { cluster with given := (flag, .nothing) :: cluster.given }

/-- The options that an option word gives.  Only after an option of one hyphen may others follow,
and an equals sign after it does not matter. -/
def clusterOf (flag : Flag) (short : Bool) (attached : Option (List Char)) :
    Except UsageError Cluster :=
  match attached with
  | none => .ok (.ofLast flag)
  | some cs =>
    if flag.takesValue then .ok { given := [(flag, attachedValue cs)] }
    else if short && !cs.isEmpty then takeApart flag cs
    else .error (.valueIgnored flag (String.ofList cs))

/-- Why the reading of the words ended without a request. -/
inductive Stop where
  | help
  | usage (error : UsageError)
deriving DecidableEq

/-- What the words so far ask for. -/
structure Draft where
  request : Request := { source := "" }
  source : Option String := none
  /-- Words without a use, newest first. -/
  leftOver : List String := []

/-- One option with what it is set to. -/
def Draft.give (draft : Draft) (flag : Flag) (choice : Choice String) : Except Stop Draft :=
  let set (request : Request) : Except Stop Draft := .ok { draft with request }
  match flag with
  | .help => .error .help
  | .tagStart => set { draft.request with tagStart := choice }
  | .json => set { draft.request with asExport := true }
  | .wrapAt =>
    match choice with
    | .nothing => set { draft.request with wrapAt := some .nothing }
    | .value word =>
      match Text.integer? word with
      | some n => set { draft.request with wrapAt := some (.value n) }
      | none => .error (.usage (.invalidInteger flag word))
  | .keepEmptyContainers => set { draft.request with keepEmptyContainers := true }
  | .anyStart => set { draft.request with matchStart := false }
  | .output => set { draft.request with output := choice.value? }
  | .verbose => set { draft.request with verbose := true }

/-- The options of one word. -/
def Draft.giveAll (draft : Draft) (given : List (Flag × Choice String)) : Except Stop Draft :=
  given.foldlM (fun d entry => d.give entry.1 entry.2) draft

/-- Takes the words in order.  The first operand is the snapshot; a separator next to it is spent on
it, any other is left over. -/
def Draft.take (draft : Draft) : List Word → Except Stop Draft
  | [] => .ok draft
  | .unknown s :: rest => { draft with leftOver := s :: draft.leftOver }.take rest
  | .separator :: .operand s :: rest =>
    match draft.source with
    | none => { draft with source := some s }.take rest
    | some _ => { draft with leftOver := s :: "--" :: draft.leftOver }.take rest
  | .separator :: rest => { draft with leftOver := "--" :: draft.leftOver }.take rest
  | .operand s :: .separator :: rest =>
    match draft.source with
    | none => { draft with source := some s }.take rest
    | some _ => { draft with leftOver := "--" :: s :: draft.leftOver }.take rest
  | .operand s :: rest =>
    match draft.source with
    | none => { draft with source := some s }.take rest
    | some _ => { draft with leftOver := s :: draft.leftOver }.take rest
  | .option flag short attached :: rest => do
    let cluster ← (clusterOf flag short attached).mapError .usage
    -- The whole word is read before any option in it counts, so a fault comes before a call for
    -- help.
    match cluster.pending with
    | none => (← draft.giveAll cluster.given).take rest
    | some flag =>
      match rest with
      | .operand value :: rest =>
        (← draft.giveAll (cluster.given ++ [(flag, .value value)])).take rest
      | _ => .error (.usage (.valueExpected flag))

/-- The request that the words of a command line make. -/
def parse (words : List String) : Except Stop Request := do
  let words ← (Word.classifyAll words).mapError .usage
  let draft ← ({} : Draft).take words
  match draft.source with
  | none => .error (.usage .missingSnapshot)
  | some source =>
    if draft.leftOver.isEmpty then return { draft.request with source }
    else .error (.usage (.unrecognized draft.leftOver.reverse))


/-- How the command is called. -/
def synopsis : String := Text.joinLines [
  "usage: components2code [-h] [--prefix PREFIX] [--json] [--wrap-attributes N]",
  "                       [--keep-empty-containers] [--no-match-prefix]",
  "                       [--output OUTPUT] [--verbose]",
  "                       snapshot",
  ""]

/-- The answer to a call for help. -/
def help : String := synopsis ++ Text.joinLines [
  "",
  "Compile exported design nodes into component markup",
  "",
  "positional arguments:",
  "  snapshot              Snapshot JSON file exported from the design tool ('-'",
  "                        for stdin)",
  "",
  "options:",
  "  -h, --help            show this help message and exit",
  "  --prefix PREFIX       Component tag prefix (default: U)",
  "  --json                Print the filtered node tree as JSON instead of markup",
  "  --wrap-attributes N   Put attributes on their own lines when a tag has more",
  "                        than N",
  "  --keep-empty-containers",
  "                        Keep container elements that have no kept children",
  "  --no-match-prefix     Keep components whose names do not start with the",
  "                        prefix",
  "  --output OUTPUT, -o OUTPUT",
  "                        Write the result to this file instead of stdout",
  "  --verbose, -v         Enable debug logging",
  ""]

/-- The answer to a fault in the arguments. -/
def usageReport (error : UsageError) : String :=
  synopsis ++ "components2code: error: " ++ error.message ++ "\n"

end LayerMarkup.Command
