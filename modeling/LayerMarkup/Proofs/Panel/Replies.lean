import LayerMarkup.Panel
import LayerMarkup.Proofs.Generation.Outcome
import Mathlib.Data.List.Forall2

/-!
# Replies of a panel

Every message is answered by its type alone (`handle_answers`).  A message that asks what is
selected gets a list of the selected layers, and one of an unknown type gets nothing.  A message
that asks for a generation gets the result or an error, and which of them depends on two questions
only: whether its start of tags may stand for the panel's own, and whether anything is selected.
The first question comes first.

* `IsAcceptable` — what a message may bring as its start of tags.
* `Overrides` — the configuration under a start of tags that a message brings.
* `AnswersGeneration`, `AnswersMessage` — what the reply to a message is.
-/

namespace LayerMarkup.Panel

variable {σ : Type} {panel : Panel σ} {config : Config} {start : Option Json}
  {message : List (String × Json)} {asExport : Bool} {p : Progress σ}

/-- What a message brings as its start of tags, if it brings one, is empty or a text of ASCII
letters and digits. -/
def IsAcceptable (start : Option Json) : Prop :=
  ∀ value ∈ start, value.isEmpty = true ∨
    ∃ s, value = .string s ∧ ∀ c ∈ s.toList, Name.isTagChar c = true

/-- The configuration under a start of tags that a message brings: the base one if the start is
absent or empty, and else the base one with this start. -/
inductive Overrides (base : Config) : Option Json → Config → Prop
  | absent : Overrides base none base
  | empty {value : Json} (hempty : value.isEmpty = true) : Overrides base (some value) base
  | text {s : String} (hsome : s ≠ "") (hchars : s.toList.all Name.isTagChar = true) :
      Overrides base (some (.string s)) { base with tagStart := s, tagStart_tagChars := hchars }

/-- What a generator returns for a selection, as a reply. -/
inductive Returns (g : Generator) (host : Host σ) (roots : List (Tree Layer)) (p : Progress σ) :
    Bool → Reply → Prop
  | markup {result : Generated} (hresult : (g.generate host roots p).1 = .ok result) :
      Returns g host roots p false (.dataResult result.markup)
  | exported {json : Json} (hresult : (g.generateExport host roots p).1 = .ok json) :
      Returns g host roots p true (.jsonResult json)

/-- A reply that brings the markup of a selection, or its export. -/
def IsResult (asExport : Bool) : Reply → Prop
  | .dataResult _ => asExport = false
  | .jsonResult _ => asExport = true
  | _ => False

/-- What the reply to a message is that asks for a generation when `p` is the state of the host. -/
structure AnswersGeneration (panel : Panel σ) (p : Progress σ) (start : Option Json) (asExport : Bool)
    (reply : Reply) : Prop where
  isResult_iff : IsResult asExport reply ↔ panel.selection ≠ [] ∧ IsAcceptable start
  returned : panel.selection ≠ [] → ∀ config, Overrides panel.config start config →
    Returns { config } panel.host panel.selection p asExport reply
  nothingSelected : panel.selection = [] → IsAcceptable start →
    reply = .error "Please select at least one node"
  /-- The start of tags is refused before the selection is looked at. -/
  refused : ¬ IsAcceptable start → ∃ detail, reply = .error ("Failed to generate markup: " ++ detail)

/-- What an entry says of a layer.  Its type is the one that the tool reports, or else the word for
its kind in capitals. -/
structure Lists (layer : Layer) (entry : SelectedLayer) : Prop where
  id : entry.id = layer.id
  name : entry.name = layer.name
  reportedType : layer.hostType ≠ "" → entry.type = layer.hostType
  kindType : layer.hostType = "" → entry.type = layer.kind.word.map Char.toUpper
  visible : entry.visible = layer.visible
  locked : entry.locked = layer.locked

/-- The type of a message that asks for a generation. -/
def requestType (asExport : Bool) : String := if asExport then "generateJson" else "generateData"

/-- What the reply to a message is, by the type of the message. -/
structure AnswersMessage (panel : Panel σ) (p : Progress σ) (message : List (String × Json))
    (reply : Option Reply) : Prop where
  listed : Json.lookup "type" message = some (.string "init") ∨
      Json.lookup "type" message = some (.string "refresh") →
    ∃ entries, reply = some (.selectionUpdate entries) ∧
      List.Forall₂ Lists (panel.selection.map Tree.value) entries
  generated : ∀ asExport, Json.lookup "type" message = some (.string (requestType asExport)) →
    ∃ result, reply = some result ∧
      AnswersGeneration panel p (Json.lookup "prefix" message) asExport result
  ignored : (∀ known ∈ ["init", "refresh", "generateData", "generateJson"],
      Json.lookup "type" message ≠ some (.string known)) → reply = none

theorem isEmpty_string_iff {s : String} : (Json.string s).isEmpty = true ↔ s = "" := by
  simp [Json.isEmpty]

/-- A start of tags that may stand for the base one overrides it. -/
theorem exists_overrides (base : Config) (hstart : IsAcceptable start) :
    ∃ config, Overrides base start config := by
  cases start with
  | none => exact ⟨_, .absent⟩
  | some value =>
    rcases hstart value rfl with hempty | ⟨s, rfl, hchars⟩
    · exact ⟨_, .empty hempty⟩
    · by_cases hsome : s = ""
      · exact ⟨_, .empty (isEmpty_string_iff.mpr hsome)⟩
      · exact ⟨_, .text hsome (List.all_eq_true.mpr hchars)⟩

/-- The configuration for a message is the one under its start of tags. -/
theorem configFor_of_overrides (hoverrides : Overrides panel.config start config) :
    panel.configFor start = .ok config := by
  cases hoverrides with
  | absent => rfl
  | empty hempty => rw [configFor, Option.bind_some, Json.nonEmpty?, if_pos hempty]
  | text hsome hchars =>
    rw [configFor, Option.bind_some, Json.nonEmpty?, if_neg (isEmpty_string_iff.not.mpr hsome)]
    simp only [Config.withTagStart, if_neg hsome, dif_pos hchars]
    rfl

theorem configFor_of_not_acceptable (hstart : ¬ IsAcceptable start) :
    ∃ cause, panel.configFor start = .error cause := by
  rw [IsAcceptable, not_forall] at hstart
  obtain ⟨value, hstart⟩ := hstart
  rw [Classical.not_imp, not_or, not_exists] at hstart
  obtain ⟨rfl, hfull, htext⟩ := hstart
  rw [configFor, Option.bind_some, Json.nonEmpty?, if_neg hfull]
  cases value with
  | string s =>
    have hsome : s ≠ "" := isEmpty_string_iff.not.mp hfull
    have hchars : ¬ s.toList.all Name.isTagChar = true :=
      fun hall => htext s ⟨rfl, List.all_eq_true.mp hall⟩
    simp only [Config.withTagStart, if_neg hsome, dif_neg hchars]
    exact ⟨_, rfl⟩
  | null | bool _ | int _ | double _ | array _ | object _ => exact ⟨_, rfl⟩

/-- What the generator of a panel comes to for the selection, as a reply or a refusal. -/
def outcome (panel : Panel σ) (config : Config) (asExport : Bool) (p : Progress σ) :
    Except Refusal Reply :=
  let generator : Generator := { config, mistyped := panel.mistyped }
  if asExport then (generator.generateExport panel.host panel.selection p).1.map .jsonResult
  else (generator.generate panel.host panel.selection p).1.map fun result => .dataResult result.markup

/-- With a start of tags that is accepted, the reply is what the generator comes to. -/
theorem generate_of_ok (hconfig : panel.configFor start = .ok config) :
    (panel.generate start asExport p).1 =
      match panel.outcome config asExport p with
      | .ok reply => reply
      | .error refusal => .error refusal.message := by
  rw [generate, hconfig]
  cases asExport with
  | false =>
    simp only [outcome, Bool.false_eq_true, if_false]
    rw [Task.bind_apply]
    cases (Generator.generate _ panel.host panel.selection p).1 <;> rfl
  | true =>
    simp only [outcome, if_true]
    rw [Task.bind_apply]
    cases (Generator.generateExport _ panel.host panel.selection p).1 <;> rfl

/-- A start of tags that is refused makes an error, whatever is selected. -/
theorem generate_of_not_acceptable (hstart : ¬ IsAcceptable start) :
    ∃ detail, (panel.generate start asExport p).1 =
      .error ("Failed to generate markup: " ++ detail) := by
  obtain ⟨cause, hcause⟩ := configFor_of_not_acceptable hstart
  rw [generate, hcause]
  exact ⟨cause.detail, rfl⟩

theorem generate_of_nothingSelected (hnone : panel.selection = []) (hstart : IsAcceptable start) :
    (panel.generate start asExport p).1 = .error "Please select at least one node" := by
  obtain ⟨config, hoverrides⟩ := exists_overrides panel.config hstart
  rw [generate_of_ok (configFor_of_overrides hoverrides), outcome, hnone]
  cases asExport <;> rfl

theorem Returns.isResult {g : Generator} {host : Host σ} {roots : List (Tree Layer)} {reply : Reply}
    (hreturns : Returns g host roots p asExport reply) : IsResult asExport reply := by
  cases hreturns <;> rfl

section Typed

variable (hsettings : panel.mistyped = none)

include hsettings

/-- With settings of the right types, a selection that is not empty gets what the generator
returns. -/
theorem returns_of_overrides (hselected : panel.selection ≠ [])
    (hoverrides : Overrides panel.config start config) :
    Returns { config } panel.host panel.selection p asExport (panel.generate start asExport p).1 := by
  rw [generate_of_ok (configFor_of_overrides hoverrides), outcome, hsettings]
  cases asExport with
  | false =>
    have hresult := Generator.generate_of_typed (g := { config }) rfl hselected panel.host p
    rw [if_neg Bool.false_ne_true, hresult]
    exact .markup hresult
  | true =>
    have hpruned := Generator.prunedForest_of_typed (g := { config }) rfl hselected panel.host p
    have hresult := Generator.generateExport_of_pruned hpruned
    rw [if_pos rfl, hresult]
    exact .exported hresult

/-- A message that asks for a generation is answered as its start of tags and the selection want
it. -/
theorem answersGeneration (start : Option Json) (asExport : Bool) (p : Progress σ) :
    AnswersGeneration panel p start asExport (panel.generate start asExport p).1 where
  isResult_iff := by
    constructor
    · intro hresult
      -- Of an empty selection nothing is told where the start of tags is refused, so this comes
      -- first.
      have hstart : IsAcceptable start := by
        by_contra hstart
        have hrefused : ∃ detail, (panel.generate start asExport p).1 = .error (_ ++ detail) :=
          generate_of_not_acceptable hstart
        obtain ⟨_, herror⟩ := hrefused
        rw [herror] at hresult
        exact hresult
      refine ⟨fun hnone => ?_, hstart⟩
      rw [generate_of_nothingSelected hnone hstart] at hresult
      exact hresult
    · rintro ⟨hselected, hstart⟩
      obtain ⟨config, hoverrides⟩ := exists_overrides panel.config hstart
      exact (returns_of_overrides hsettings hselected hoverrides).isResult
  returned hselected _ hoverrides := returns_of_overrides hsettings hselected hoverrides
  nothingSelected hnone hstart := generate_of_nothingSelected hnone hstart
  refused hstart := generate_of_not_acceptable hstart

end Typed

theorem lists_selectedLayer (layer : Layer) : Lists layer (selectedLayer layer) where
  id := rfl
  name := rfl
  reportedType htype := if_neg (by simpa using htype)
  kindType htype := if_pos (by simpa using htype)
  visible := rfl
  locked := rfl

theorem handleFields_of_listing (htype : Json.lookup "type" message = some (.string "init") ∨
    Json.lookup "type" message = some (.string "refresh")) :
    (panel.handleFields message p).1 =
      some (.selectionUpdate (panel.selection.map fun root => selectedLayer root.value)) := by
  rcases htype with htype | htype
  · rw [handleFields, htype]
    rfl
  · rw [handleFields, htype]
    rfl

theorem handleFields_of_request
    (htype : Json.lookup "type" message = some (.string (requestType asExport))) :
    (panel.handleFields message p).1 =
      some (panel.generate (Json.lookup "prefix" message) asExport p).1 := by
  rw [handleFields, htype]
  cases asExport <;> rfl

theorem handleFields_of_unknown (htype : ∀ known ∈ ["init", "refresh", "generateData", "generateJson"],
    Json.lookup "type" message ≠ some (.string known)) : (panel.handleFields message p).1 = none := by
  rw [handleFields]
  cases hfound : Json.lookup "type" message with
  | none => rfl
  | some type =>
    simp only [hfound, ne_eq, Option.some.injEq] at htype
    rw [Option.getD_some]
    split
    · exact absurd rfl (htype "init" (by simp))
    · exact absurd rfl (htype "refresh" (by simp))
    · exact absurd rfl (htype "generateData" (by simp))
    · exact absurd rfl (htype "generateJson" (by simp))
    · rfl

/-- Every message is answered by its type.  One that asks what is selected gets an entry for every
selected layer, in order, and one of an unknown type gets nothing.  One that asks for a generation
gets what the generator returns under the start of tags of the message if something is selected and
this start is empty or a text of ASCII letters and digits.  Any other gets an error, which tells of
the start of tags if that is neither, and else of the empty selection. -/
theorem handle_answers (panel : Panel σ) (hsettings : panel.mistyped = none)
    (message : List (String × Json)) (p : Progress σ) :
    ∃ reply, (panel.handle (.object message) p).1 = .ok reply ∧
      AnswersMessage panel p message reply := by
  refine ⟨(panel.handleFields message p).1, rfl, ?_, ?_, ?_⟩
  · intro htype
    refine ⟨_, handleFields_of_listing htype, ?_⟩
    rw [List.forall₂_map_left_iff, List.forall₂_map_right_iff, List.forall₂_same]
    exact fun root _ => lists_selectedLayer root.value
  · intro asExport htype
    exact ⟨_, handleFields_of_request htype, answersGeneration hsettings _ asExport p⟩
  · exact handleFields_of_unknown

/-- There is an export although the host fails at every question, and of two reasons to refuse a
message the start of tags is told. -/
theorem handle_answers_panels :
    let broken : Panel Unit := { host := Generator.brokenHost, selection := Generator.askingLayers }
    let idle : Panel Unit := { host := Generator.brokenHost, selection := [] }
    broken.mistyped = none ∧ idle.mistyped = none ∧
      (∃ json, (broken.handle
        (.object [("type", .string "generateJson"), ("prefix", .string "El")]) { host := () }).1 =
          .ok (some (.jsonResult json))) ∧
      ∃ detail, (idle.handle
        (.object [("type", .string "generateData"), ("prefix", .array [.string "U"])])
        { host := () }).1 =
          .ok (some (.error ("Failed to generate markup: " ++ detail))) := by
  intro broken idle
  refine ⟨rfl, rfl, ?_, ?_⟩
  · obtain ⟨reply, hreply, hanswers⟩ := handle_answers broken rfl
      [("type", .string "generateJson"), ("prefix", .string "El")] { host := () }
    obtain ⟨result, rfl, hresult⟩ := hanswers.generated true rfl
    have hchars : "El".toList.all Name.isTagChar = true := by decide
    have hgiven : IsResult true result := by
      refine hresult.isResult_iff.mpr ⟨List.cons_ne_nil _ _, ?_⟩
      rintro _ ⟨⟩
      exact .inr ⟨"El", rfl, List.all_eq_true.mp hchars⟩
    cases result with
    | jsonResult json => exact ⟨json, hreply⟩
    | selectionUpdate _ | dataResult _ | error _ => cases hgiven
  · obtain ⟨reply, hreply, hanswers⟩ := handle_answers idle rfl
      [("type", .string "generateData"), ("prefix", .array [.string "U"])] { host := () }
    obtain ⟨result, rfl, hresult⟩ := hanswers.generated false rfl
    have hrefused : ¬ IsAcceptable (some (.array [.string "U"])) := by
      intro hstart
      rcases hstart _ rfl with hempty | ⟨s, htext, -⟩
      · cases hempty
      · cases htext
    obtain ⟨detail, rfl⟩ := hresult.refused hrefused
    exact ⟨detail, hreply⟩

end LayerMarkup.Panel
