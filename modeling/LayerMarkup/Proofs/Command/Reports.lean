import LayerMarkup.Command.Run
import LayerMarkup.Proofs.Command.Files
import LayerMarkup.Proofs.Json.Surrogates
import LayerMarkup.Proofs.Snapshot.Faults
import LayerMarkup.Proofs.Snapshot.Rendering

/-!
# What a run of the command comes to

A run with a proper request ends in one of three ways (`run_reports`).  The result is put where the
request wants it; or a problem is reported on standard error and nothing else is touched; or the
program ends without a report, which it does where the first fault of the document is that something
without fields is asked for them.

* `Request.Fails` — the problems that a request can meet.  It meets one at most (`answer_of_fails`).
* `Delivers` — the result is on standard output or in a file.
* `Reports` — a problem is on standard error.

No file is changed but the one that the result goes to (`changesSince_of_run`).
-/

namespace LayerMarkup

namespace Snapshot

/-- The elements that are left of the selected layers. -/
def kept (s : Snapshot) (config : Config) : List (Tree Element) :=
  Pruning.prune config false (s.elements config)

theorem prunedForest_eq {s : Snapshot} (hselected : s.selection ≠ []) (config : Config) :
    (Generator.prunedForest { config } s.host s.selection { host := () }).1 =
      .ok (s.kept config, Tree.forestSize s.selection) := by
  have hanswers : s.host.DependsOnId := Host.dependsOnId_ofAnswers _ _
  have hclassified := Generator.classified_of_dependsOnId { config } hanswers s.selection () ()
  rw [Answers.remembered_of_pos (show (0 : Int) < 256 by decide)] at hclassified
  have hpruned := Generator.prunedForest_of_typed (g := { config }) rfl hselected s.host { host := () }
  rw [hclassified] at hpruned
  exact hpruned

end Snapshot

namespace Command

/-- The document in the text, which is read once the settings are accepted. -/
def Request.documentIn (r : Request) (directory : Directory) (stdin : String) :
    Except Problem Json := do
  let _ ← r.config
  let text ← r.sourceIn directory stdin
  (Json.read text).mapError .json

/-- In no string of the document that a request names is half of a surrogate pair alone. -/
def Request.IsPaired (r : Request) (directory : Directory) (stdin : String) : Prop :=
  ∀ text, r.sourceIn directory stdin = .ok text → Json.IsPaired text

/-- The result of a request for a snapshot: the markup of the elements that are left, or their
export. -/
def Request.result (r : Request) (config : Config) (s : Snapshot) : String :=
  if r.asExport then (exportForest (s.kept config)).indented
  else Markup.render config 0 (Markup.ofElements config (s.kept config))

/-- The problems that a request can meet. -/
inductive Request.Fails (r : Request) (directory : Directory) (stdin : String) : Problem → Prop
  /-- The settings are not accepted, or no document can be read. -/
  | unread {problem : Problem} (hdocument : r.documentIn directory stdin = .error problem) :
      Fails r directory stdin problem
  /-- The document holds something that cannot serve its use. -/
  | fault {document : Json} {error : DocumentError}
      (hdocument : r.documentIn directory stdin = .ok document)
      (hfirst : (Document.faults document).head? = some error) :
      Fails r directory stdin (.document error)
  /-- The document selects nothing. -/
  | unselected {document : Json} {s : Snapshot}
      (hdocument : r.documentIn directory stdin = .ok document)
      (hsnapshot : Snapshot.ofDocument document = .ok s) (hnone : s.selection = []) :
      Fails r directory stdin (.refused .nothingSelected)
  /-- The result has a path that leads to no place for a file. -/
  | unwritable {document : Json} {s : Snapshot} {path : String} {error : FileError}
      (hdocument : r.documentIn directory stdin = .ok document)
      (hsnapshot : Snapshot.ofDocument document = .ok s) (hselected : s.selection ≠ [])
      (hpath : r.outputPath? = some path) (hplace : directory.placeOf path = .error error) :
      Fails r directory stdin (.file error)

/-- A result is put on standard output, or into the file that the request names, with a line end
after it. -/
structure IsPut (directory : Directory) (r : Request) (result stdout : String)
    (after : Directory) : Prop where
  printed : r.outputPath? = none → stdout = result ++ "\n" ∧ after = directory
  written : ∀ path, r.outputPath? = some path →
    stdout = "" ∧ directory.Wrote path (result ++ "\n") after

/-- A result is delivered, and nothing is on standard error. -/
structure Delivers (directory : Directory) (r : Request) (result : String) (outcome : Outcome) :
    Prop where
  exit : outcome.exit = 0
  stderr : outcome.stderr = ""
  put : IsPut directory r result outcome.stdout outcome.directory

/-- A problem is on standard error, and nothing else has been touched. -/
structure Reports (directory : Directory) (problem : Problem) (outcome : Outcome) : Prop where
  exit : outcome.exit = 1
  stdout : outcome.stdout = ""
  stderr : outcome.stderr = "error: " ++ problem.message ++ "\n"
  directory : outcome.directory = directory

variable {directory : Directory} {stdin : String} {arguments : List String} {r : Request}
  {config : Config} {s : Snapshot}

theorem resultOf_of_unselected (hnone : s.selection = []) :
    (resultOf r config s).1 = .error (.refused .nothingSelected) := by
  unfold resultOf
  rw [hnone]
  cases r.asExport <;> rfl

theorem resultOf_of_selected (hselected : s.selection ≠ []) :
    (resultOf r config s).1 = .ok (r.result config s) := by
  have hpruned := Snapshot.prunedForest_eq hselected config
  unfold resultOf Request.result
  cases r.asExport with
  | true =>
    have hexport := Generator.generateExport_of_pruned hpruned
    have hrun : ((Generator.generateExport { config } s.host s.selection).run ()).1 = .ok _ := hexport
    show Except.mapError Problem.refused
      (((Generator.generateExport { config } s.host s.selection).run ()).1.map Json.indented) = _
    rw [hrun]
    rfl
  | false =>
    have hmarkup := Generator.generate_of_pruned (g := { config }) rfl hpruned
    have hrun : ((Generator.generate { config } s.host s.selection).run ()).1 = .ok _ :=
      congrArg Prod.fst hmarkup
    show Except.mapError Problem.refused
      (((Generator.generate { config } s.host s.selection).run ()).1.map Generated.markup) = _
    rw [hrun]
    rfl

/-- What a request comes to: what is put out and where, or a problem. -/
def Request.answer (r : Request) (directory : Directory) (stdin : String) :
    Except Problem (String × Directory × List Event) :=
  (serve r (r.sourceIn directory stdin)).1.bind (deliver r directory)

theorem answer_of_unread {problem : Problem}
    (hdocument : r.documentIn directory stdin = .error problem) :
    r.answer directory stdin = .error problem := by
  unfold Request.documentIn at hdocument
  unfold Request.answer serve snapshotOf
  -- The settings, the text and the document are looked at in this order, here and there.
  cases hconfig : r.config with
  | error e =>
    rw [hconfig] at hdocument
    cases hdocument
    rfl
  | ok config =>
    rw [hconfig] at hdocument
    cases hsource : r.sourceIn directory stdin with
    | error e =>
      rw [hsource] at hdocument
      cases hdocument
      rfl
    | ok text =>
      rw [hsource] at hdocument
      have hread : (Json.read text).mapError Problem.json = .error problem := hdocument
      simp only [Except.bind, hread]
      rfl

/-- After a document is read, the first fault of it is refused, and so is a selection of nothing. -/
theorem answer_of_document {document : Json} (hdocument : r.documentIn directory stdin = .ok document) :
    ∃ config, r.config = .ok config ∧
      r.answer directory stdin = (do
        let s ← (Snapshot.ofDocument document).mapError .document
        let result ← (resultOf r config s).1
        deliver r directory result) := by
  unfold Request.documentIn at hdocument
  simp only [Document.bind_eq_ok_iff] at hdocument
  obtain ⟨config, hconfig, text, hsource, hread⟩ := hdocument
  refine ⟨config, hconfig, ?_⟩
  unfold Request.answer serve snapshotOf
  simp only [hconfig, hsource, hread, bind, Except.bind]
  cases Snapshot.ofDocument document <;> rfl

section Selected

variable {document : Json} (hdocument : r.documentIn directory stdin = .ok document)
  (hsnapshot : Snapshot.ofDocument document = .ok s)

include hdocument hsnapshot

theorem answer_of_unselected (hnone : s.selection = []) :
    r.answer directory stdin = .error (.refused .nothingSelected) := by
  obtain ⟨config, -, hanswer⟩ := answer_of_document hdocument
  rw [hanswer, hsnapshot]
  show (resultOf r config s).1 >>= _ = _
  rw [resultOf_of_unselected hnone]
  rfl

theorem answer_of_selected (hselected : s.selection ≠ []) :
    ∃ config, r.config = .ok config ∧
      r.answer directory stdin = deliver r directory (r.result config s) := by
  obtain ⟨config, hconfig, hanswer⟩ := answer_of_document hdocument
  refine ⟨config, hconfig, ?_⟩
  rw [hanswer, hsnapshot]
  show (resultOf r config s).1 >>= _ = _
  rw [resultOf_of_selected hselected]
  rfl

end Selected

/-- A problem that a request can meet is what it comes to, so there is at most one. -/
theorem answer_of_fails {problem : Problem} (hfails : r.Fails directory stdin problem) :
    r.answer directory stdin = .error problem := by
  cases hfails with
  | unread hdocument => exact answer_of_unread hdocument
  | fault hdocument hfirst =>
    obtain ⟨config, -, hanswer⟩ := answer_of_document hdocument
    rw [hanswer, Document.ofDocument_eq_error_iff.mpr hfirst]
    rfl
  | unselected hdocument hsnapshot hnone => exact answer_of_unselected hdocument hsnapshot hnone
  | unwritable hdocument hsnapshot hselected hpath hplace =>
    obtain ⟨config, -, hanswer⟩ := answer_of_selected hdocument hsnapshot hselected
    rw [hanswer, deliver, hpath]
    simp only [Directory.write_of_no_place hplace]

/-- A request that meets no problem gives a result. -/
theorem answer_of_no_failure (hnone : ∀ problem, ¬ r.Fails directory stdin problem) :
    ∃ config document s stdout after more,
      r.config = .ok config ∧ r.documentIn directory stdin = .ok document ∧
        Snapshot.ofDocument document = .ok s ∧ s.selection ≠ [] ∧
        r.answer directory stdin = .ok (stdout, after, more) ∧
        IsPut directory r (r.result config s) stdout after := by
  cases hdocument : r.documentIn directory stdin with
  | error problem => exact absurd (.unread hdocument) (hnone problem)
  | ok document =>
    cases hsnapshot : Snapshot.ofDocument document with
    | error e =>
      exact absurd (.fault hdocument (Document.ofDocument_eq_error_iff.mp hsnapshot)) (hnone _)
    | ok s =>
      have hselected : s.selection ≠ [] := fun hempty =>
        hnone _ (.unselected hdocument hsnapshot hempty)
      obtain ⟨config, hconfig, hanswer⟩ := answer_of_selected hdocument hsnapshot hselected
      cases hpath : r.outputPath? with
      | none =>
        refine ⟨config, document, s, r.result config s ++ "\n", directory, [], hconfig, rfl, hsnapshot,
          hselected, ?_, fun _ => ⟨rfl, rfl⟩, fun path hsome => ?_⟩
        · rw [hanswer, deliver, hpath]
        · rw [hpath] at hsome
          cases hsome
      | some path =>
        cases hplace : directory.placeOf path with
        | error e => exact absurd (.unwritable hdocument hsnapshot hselected hpath hplace) (hnone _)
        | ok place =>
          obtain ⟨after, hafter, hwrote⟩ := Directory.write_of_place hplace (r.result config s ++ "\n")
          refine ⟨config, document, s, "", after, [.wrote path], hconfig, rfl, hsnapshot, hselected, ?_,
            fun hnil => ?_, fun other hother => ?_⟩
          · rw [hanswer, deliver, hpath]
            simp only [hafter]
          · rw [hpath] at hnil
            cases hnil
          · rw [hpath] at hother
            cases hother
            exact ⟨rfl, hwrote⟩

/-! ## Problems that are handed on -/

/-- A problem here is one that is reported. -/
def IsReportable {α : Type} (outcome : Except Problem α) : Prop :=
  ∀ problem, outcome = .error problem → problem.isHandedOn = false

section Reportable

variable {ε α β : Type}

theorem isReportable_ok (a : α) : IsReportable (.ok a) := by
  rintro problem ⟨⟩

theorem isReportable_error {problem : Problem} (hreported : problem.isHandedOn = false) :
    IsReportable (.error problem : Except Problem α) := by
  rintro _ ⟨⟩
  exact hreported

theorem isReportable_mapError {problemOf : ε → Problem} {outcome : Except ε α}
    (hreported : ∀ e, outcome = .error e → (problemOf e).isHandedOn = false) :
    IsReportable (outcome.mapError problemOf) := by
  cases outcome with
  | ok a => exact isReportable_ok a
  | error e => exact isReportable_error (hreported e rfl)

theorem IsReportable.bind {outcome : Except Problem α} {next : α → Except Problem β}
    (houtcome : IsReportable outcome) (hnext : ∀ a, outcome = .ok a → IsReportable (next a)) :
    IsReportable (outcome.bind next) := by
  cases outcome with
  | ok a => exact hnext a rfl
  | error problem => exact isReportable_error (houtcome problem rfl)

end Reportable

theorem isReportable_config (r : Request) : IsReportable r.config := by
  have hchecked : ∀ start wrapAt, IsReportable ((r.settings start wrapAt).check.mapError .config) :=
    fun _ _ => isReportable_mapError fun _ _ => rfl
  unfold Request.config
  split
  · exact isReportable_error rfl
  · exact hchecked _ _
  · exact hchecked _ _
  · exact (hchecked _ _).bind fun _ _ => isReportable_error rfl

theorem isReportable_sourceIn (r : Request) (directory : Directory) (stdin : String) :
    IsReportable (r.sourceIn directory stdin) := by
  unfold Request.sourceIn
  split
  · exact isReportable_ok stdin
  · refine (isReportable_mapError fun _ _ => rfl).bind fun bytes _ => ?_
    exact (isReportable_mapError fun _ _ => rfl).bind fun text _ => isReportable_ok _

/-- A problem is handed on only after a document is read. -/
theorem isReportable_documentIn (hpaired : r.IsPaired directory stdin) :
    IsReportable (r.documentIn directory stdin) := by
  refine (isReportable_config r).bind fun config _ => ?_
  refine (isReportable_sourceIn r directory stdin).bind fun text hsource => ?_
  refine isReportable_mapError fun e he => ?_
  cases e with
  | malformed fault line column offset => rfl
  | loneSurrogate offset => exact absurd he (Json.read_ne_loneSurrogate (hpaired text hsource) offset)

theorem noFields_of_fails {problem : Problem} (hpaired : r.IsPaired directory stdin)
    (hfails : r.Fails directory stdin problem) (hhanded : problem.isHandedOn = true) :
    ∃ kind operation, problem = .document (.noFields kind operation) := by
  cases hfails with
  | unread hdocument =>
    rw [isReportable_documentIn hpaired _ hdocument] at hhanded
    cases hhanded
  | @fault document error hdocument hfirst =>
    cases error with
    | noFields kind operation => exact ⟨kind, operation, rfl⟩
    | _ => cases hhanded
  | unselected => cases hhanded
  | unwritable => cases hhanded

section Run

variable (hparse : parse arguments = .ok r)

include hparse

/-- A run says what its request comes to, and leaves the directory as the result is put in it. -/
theorem run_of_request : run directory stdin arguments =
    (r.ending (serve r (r.sourceIn directory stdin)).2
      ((r.answer directory stdin).map fun (stdout, _, more) => (stdout, more))).map fun ending =>
        { ending with directory := match r.answer directory stdin with
            | .ok (_, after, _) => after
            | .error _ => directory } := by
  have hsource :
      (Directory.world stdin).source r directory = (r.sourceIn directory stdin, directory) := rfl
  unfold run runIn Request.answer
  rw [hparse]
  simp only [bind, StateT.bind, hsource]
  rcases serve r (r.sourceIn directory stdin) with ⟨problem | text, events⟩
  · rfl
  · simp only [Except.bind, Directory.world, StateT.bind]
    cases deliver r directory text <;> rfl

theorem run_of_answer {stdout : String} {after : Directory} {more : List Event}
    (hanswer : r.answer directory stdin = .ok (stdout, after, more)) :
    ∃ log, run directory stdin arguments = .ok { exit := 0, stdout, directory := after, log } := by
  rw [run_of_request hparse, hanswer]
  exact ⟨_, rfl⟩

theorem run_of_problem {problem : Problem} (hanswer : r.answer directory stdin = .error problem) :
    ∃ log, run directory stdin arguments =
      if problem.isHandedOn then .error problem
      else .ok { exit := 1, stderr := "error: " ++ problem.message ++ "\n", directory, log } := by
  rw [run_of_request hparse, hanswer]
  refine ⟨Event.linesFrom r.threshold (serve r (r.sourceIn directory stdin)).2, ?_⟩
  simp only [Except.map, Request.ending]
  cases problem.isHandedOn <;> rfl

end Run

/-- A run with a proper request reports the problem that the request meets, unless the problem is
that something without fields is asked for them: this ends the program.  If the request meets none,
the result for the snapshot is delivered, and the document is one that carries well-formed values.
Its texts must be whole characters. -/
theorem run_reports (hparse : parse arguments = .ok r) (hpaired : r.IsPaired directory stdin) :
    (∀ kind operation, r.Fails directory stdin (.document (.noFields kind operation)) →
      run directory stdin arguments = .error (.document (.noFields kind operation))) ∧
    (∀ problem, r.Fails directory stdin problem →
      (∀ kind operation, problem ≠ .document (.noFields kind operation)) →
        ∃ outcome, run directory stdin arguments = .ok outcome ∧ Reports directory problem outcome) ∧
    ((∀ problem, ¬ r.Fails directory stdin problem) →
      ∃ config document s outcome, r.config = .ok config ∧ r.documentIn directory stdin = .ok document ∧
        (∃ selection library, Document.Carries document selection library ∧
          Document.WellFormed (selection ++ library)) ∧
        Snapshot.ofDocument document = .ok s ∧ run directory stdin arguments = .ok outcome ∧
        Delivers directory r (r.result config s) outcome) := by
  refine ⟨fun kind operation hfails => ?_, fun problem hfails hother => ?_, fun hnone => ?_⟩
  · obtain ⟨log, hrun⟩ := run_of_problem hparse (answer_of_fails hfails)
    exact hrun
  · obtain ⟨log, hrun⟩ := run_of_problem hparse (answer_of_fails hfails)
    have hreported : problem.isHandedOn = false :=
      Bool.eq_false_iff.mpr fun hhanded =>
        let ⟨kind, operation, hsame⟩ := noFields_of_fails hpaired hfails hhanded
        hother kind operation hsame
    rw [hreported] at hrun
    exact ⟨_, hrun, rfl, rfl, rfl, rfl⟩
  · obtain ⟨config, document, s, stdout, after, more, hconfig, hdocument, hsnapshot, -, hanswer,
      hput⟩ := answer_of_no_failure hnone
    obtain ⟨log, hrun⟩ := run_of_answer hparse hanswer
    have hcarries := Document.accepted_iff.mp ⟨s, hsnapshot⟩
    exact ⟨config, document, s, _, hconfig, hdocument, hcarries, hsnapshot, hrun, rfl, rfl, hput⟩

/-- A result that is delivered has left the directory alone or is written to its path. -/
theorem write_of_deliver {result stdout : String} {after : Directory} {more : List Event}
    (hdeliver : deliver r directory result = .ok (stdout, after, more)) :
    after = directory ∨
      ∃ path, r.outputPath? = some path ∧ directory.write path (result ++ "\n") = .ok after := by
  unfold deliver at hdeliver
  cases hpath : r.outputPath? with
  | none =>
    rw [hpath] at hdeliver
    cases hdeliver
    exact .inl rfl
  | some path =>
    rw [hpath] at hdeliver
    cases hwrite : directory.write path (result ++ "\n") with
    | error e =>
      simp only [hwrite, reduceCtorEq] at hdeliver
    | ok written =>
      simp only [hwrite, Except.ok.injEq, Prod.mk.injEq] at hdeliver
      obtain ⟨-, rfl, -⟩ := hdeliver
      exact .inr ⟨path, rfl, hwrite⟩

theorem write_of_answer {stdout : String} {after : Directory} {more : List Event}
    (hanswer : r.answer directory stdin = .ok (stdout, after, more)) :
    after = directory ∨
      ∃ path text, r.outputPath? = some path ∧ directory.write path text = .ok after := by
  unfold Request.answer at hanswer
  cases hresult : (serve r (r.sourceIn directory stdin)).1 with
  | error problem =>
    rw [hresult] at hanswer
    cases hanswer
  | ok result =>
    rw [hresult] at hanswer
    refine (write_of_deliver hanswer).imp_right ?_
    rintro ⟨path, hpath, hwrite⟩
    exact ⟨path, _, hpath, hwrite⟩

/-- A run changes no file but the one that it is asked to put its result into, and that one only if
nothing went wrong. -/
theorem changesSince_of_run (hparse : parse arguments = .ok r) (hnames : directory.HasNames)
    {outcome : Outcome} (hrun : run directory stdin arguments = .ok outcome)
    {file : String × List UInt8} (hfile : file ∈ outcome.directory.changesSince directory) :
    outcome.exit = 0 ∧
      ∃ path, r.outputPath? = some path ∧ directory.placeOf path = .ok (.inside file.1) := by
  have hchanged : outcome.directory ≠ directory := by
    intro hsame
    rw [hsame, Directory.changesSince_self hnames] at hfile
    exact List.not_mem_nil hfile
  rcases hanswer : r.answer directory stdin with problem | ⟨stdout, after, more⟩
  · obtain ⟨log, hends⟩ := run_of_problem hparse hanswer
    rw [hrun] at hends
    cases hhanded : problem.isHandedOn with
    | true =>
      rw [hhanded] at hends
      cases hends
    | false =>
      rw [hhanded] at hends
      cases hends
      exact absurd rfl hchanged
  · obtain ⟨log, hends⟩ := run_of_answer hparse hanswer
    rw [hrun] at hends
    cases hends
    rcases write_of_answer hanswer with hsame | ⟨path, text, hpath, hwrite⟩
    · exact absurd hsame hchanged
    · exact ⟨rfl, path, hpath, (Directory.eq_of_mem_changesSince hnames hwrite hfile).1⟩

/-- The request that a hyphen makes: the markup of the snapshot on standard input. -/
def fromStdin : Request := { source := "-" }

theorem read_nullLayer : Json.read "[null]" = .ok (.array [.null]) := by
  have hword : Json.scanToken 1 'n' ['u', 'l', 'l', ']'] = (.scalar .null, 3) := rfl
  have hend : Json.scanToken 5 ']' [] = (.rightBracket, 0) := rfl
  have htokens : Json.tokens 0 "[null]".toList =
      [⟨0, .leftBracket⟩, ⟨1, .scalar .null⟩, ⟨5, .rightBracket⟩] := by
    simp [Json.tokens, Json.isSpace, Json.scanToken.eq_3, hword, hend]
  exact Json.read_of_tokens (by decide) (Json.isPaired_of_no_backslash (by decide)) htokens rfl

theorem read_null : Json.read "null" = .ok .null := by
  have hword : Json.scanToken 0 'n' ['u', 'l', 'l'] = (.scalar .null, 3) := rfl
  have htokens : Json.tokens 0 "null".toList = [⟨0, .scalar .null⟩] := by
    simp [Json.tokens, Json.isSpace, hword]
  exact Json.read_of_tokens (by decide) (Json.isPaired_of_no_backslash (by decide)) htokens rfl

theorem read_emptyObject : Json.read "\x7b\x7d" = .ok (.object []) := by
  have hstart : Json.scanToken 0 '\x7b' ['\x7d'] = (.leftBrace, 0) := rfl
  have hend : Json.scanToken 1 '\x7d' [] = (.rightBrace, 0) := rfl
  have htokens : Json.tokens 0 "\x7b\x7d".toList = [⟨0, .leftBrace⟩, ⟨1, .rightBrace⟩] := by
    simp [Json.tokens, Json.isSpace, hstart, hend]
  exact Json.read_of_tokens (by decide) (Json.isPaired_of_no_backslash (by decide)) htokens rfl

theorem documentIn_fromStdin {text : String} {document : Json} (hread : Json.read text = .ok document) :
    fromStdin.documentIn [] text = .ok document := by
  show (Json.read text).mapError Problem.json = _
  rw [hread]
  rfl

theorem isPaired_fromStdin {text : String} (hplain : '\\' ∉ text.toList) :
    fromStdin.IsPaired [] text := by
  rintro _ ⟨⟩
  exact Json.isPaired_of_no_backslash hplain

theorem fails_nullLayer : fromStdin.Fails [] "[null]" (.document (.noFields "NoneType" "get")) :=
  .fault (documentIn_fromStdin read_nullLayer) rfl

/-- A null in place of a layer ends the program without a report.  A null in place of the document
is reported.  An object without fields is a layer, of which nothing is left. -/
theorem run_reports_nulls :
    parse ["-"] = .ok fromStdin ∧
    run [] "[null]" ["-"] = .error (.document (.noFields "NoneType" "get")) ∧
    (∃ outcome, run [] "null" ["-"] = .ok outcome ∧ outcome.exit = 1 ∧
      outcome.stderr = "error: Unsupported snapshot document: NoneType\n") ∧
    ∃ outcome, run [] "\x7b\x7d" ["-"] = .ok outcome ∧ outcome.exit = 0 ∧ outcome.stdout = "\n" := by
  have hparse : parse ["-"] = .ok fromStdin := rfl
  refine ⟨hparse, ?_, ?_, ?_⟩
  · exact (run_reports hparse (isPaired_fromStdin (by decide))).1 _ _ fails_nullLayer
  · have hfails : fromStdin.Fails [] "null" (.document (.unsupported "NoneType")) :=
      .fault (documentIn_fromStdin read_null) rfl
    obtain ⟨outcome, hrun, hreports⟩ :=
      (run_reports hparse (isPaired_fromStdin (by decide))).2.1 _ hfails fun _ _ hsame => by cases hsame
    exact ⟨outcome, hrun, hreports.exit, hreports.stderr⟩
  · have hdocument := documentIn_fromStdin read_emptyObject
    have hcarries : Document.Carries (.object []) [.object []] [] := .bare rfl rfl rfl (.inr ⟨rfl, rfl⟩)
    have hsnapshot := Document.ofDocument_of_wellFormed hcarries (by decide)
    have hnone : ∀ problem, ¬ fromStdin.Fails [] "\x7b\x7d" problem := by
      intro problem hfails
      obtain ⟨config, -, hanswer⟩ := answer_of_selected hdocument hsnapshot (List.cons_ne_nil _ _)
      rw [answer_of_fails hfails] at hanswer
      cases hanswer
    obtain ⟨config, document, s, outcome, hconfig, hread, -, hs, hrun, hdelivers⟩ :=
      (run_reports hparse (isPaired_fromStdin (by decide))).2.2 hnone
    refine ⟨outcome, hrun, hdelivers.exit, ?_⟩
    rw [hdocument] at hread
    cases hread
    rw [hsnapshot] at hs
    cases hs
    cases hconfig
    rw [(hdelivers.put.printed rfl).1]
    decide +kernel

/-- A null in place of a layer is not reported. -/
theorem run_nullLayer :
    parse ["-"] = .ok fromStdin ∧ Json.read "[null]" = .ok (.array [.null]) ∧
      ¬ ∃ outcome, run [] "[null]" ["-"] = .ok outcome := by
  have hparse : parse ["-"] = .ok fromStdin := rfl
  refine ⟨hparse, read_nullLayer, ?_⟩
  rintro ⟨outcome, hrun⟩
  obtain ⟨log, hends⟩ := run_of_problem hparse (answer_of_fails fails_nullLayer)
  rw [hrun] at hends
  cases hends

end Command

end LayerMarkup
