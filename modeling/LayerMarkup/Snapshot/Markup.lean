import LayerMarkup.Generation
import LayerMarkup.Snapshot.Document

/-!
# Markup of snapshots

The markup of a whole document in one step, and the check that it is the markup expected.
-/

namespace LayerMarkup

/-- Why a document has no markup, or not the one expected. -/
inductive SnapshotError where
  | document (error : DocumentError)
  | config (error : ConfigError)
  | refused (refusal : Refusal)
  | mismatch (actual expected : String)

def SnapshotError.message : SnapshotError → String
  | document error => error.message
  | config error => error.message
  | refused refusal => refusal.message
  | mismatch actual expected =>
    "Rendered markup does not match:\n--- actual ---\n" ++ actual ++ "\n--- expected ---\n" ++ expected

namespace Snapshot

/-- The markup of a document's selection under another start of tags, and the reports. -/
def markupOf (config : Config) (document : Json) (start : Option String) :
    Except SnapshotError String × List Event :=
  match ofDocument document with
  | .error error => (.error (.document error), [])
  | .ok snapshot =>
    match config.withTagStart start with
    | .error error => (.error (.config error), [snapshot.indexed])
    | .ok config =>
      let (outcome, _, events) :=
        (({ config } : Generator).generate snapshot.host snapshot.selection).run ()
      ((outcome.map Generated.markup).mapError .refused, snapshot.indexed :: events)

/-- Accepts a document if its markup is the one expected. -/
def expectMarkup (config : Config) (document : Json) (start : Option String) (expected : String) :
    Except SnapshotError Unit :=
  match (markupOf config document start).1 with
  | .error error => .error error
  | .ok actual => if actual = expected then .ok () else .error (.mismatch actual expected)

end Snapshot

end LayerMarkup
