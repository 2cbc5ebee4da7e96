import LayerMarkup.Proofs.Classification.Turns
import LayerMarkup.Proofs.Generation.Outcome
import LayerMarkup.Proofs.Markup.Slots
import LayerMarkup.Proofs.Pruning.Origin

/-!
# Templates with a slot

An occurrence named as a template, one of whose values is the name of a slot, should come out as a
template with the mark of that slot.  It does so exactly if the name stays the value of the slot key
while the properties are resolved (`generate_template_slot`): the name may be a default or look like
one, it may be the word of a switch position, and a later value or further properties may take its
place (`SlotStays`).

What the host says is what it says when the occurrence has its turn.
-/

namespace LayerMarkup

open LayerMarkup.Tree

variable {σ : Type} {config : Config} {slot : String}

namespace Pruning

/-- A template with a slot is kept where it stands, whatever is below it. -/
theorem exists_mem_prune_of_template {below : Bool} {forest : List (Tree Element)} {e : Element}
    {cs : List (Tree Element)} (hmem : node e cs ∈ forest) (hlive : isLive config e = true)
    (htype : e.dataType = some .component) (hname : config.isTemplateName e.name = true)
    (hslot : hasSlot config e = true) :
    ∃ u ∈ prune config below forest, core u.value = core e := by
  have hrole : role config e = .keep true := by simp [role, hname, hslot]
  have hkept : (sort config below (node e cs)).all =
      [keep config true e cs (prune config true cs)] := by
    simp [sort, hlive, htype, hrole, prune, Sorted.all]
  refine ⟨keep config true e cs (prune config true cs), mem_prune.mpr ⟨node e cs, hmem, ?_⟩, rfl⟩
  rw [hkept]
  exact List.mem_cons_self

end Pruning

namespace Generator

/-- A visible occurrence is named as a template, and one of its values names a slot. -/
structure NamesSlot (config : Config) (layer : Layer) (earlier : List (String × Json))
    (rawKey slot : String) (later : List (String × Json)) : Prop where
  kind : layer.kind = .occurrence
  visible : layer.visible = true
  name : config.isTemplateName layer.name = true
  not_ignored : config.ignoresName layer.name = false
  key_used : config.skipsKey config.slotKey = false
  value : layer.properties.entries = earlier ++ (rawKey, .string slot) :: later
  key : Name.stripKeySuffix rawKey = config.slotKey
  slot_ne : slot ≠ ""

/-- The name of a slot stays the value of the slot key: further properties say so, or they say
nothing about the key, the name is touched and no switch position, and no other value is shown after
it. -/
def SlotStays (config : Config) (known : Option (Mapping Json)) (later : List (String × Json))
    (further : Mapping PropertyValue) (slot : String) : Prop :=
  further.get? config.slotKey = some (.text slot) ∨
    further.get? config.slotKey = none ∧
      Property.IsTouched config known config.slotKey (.text slot) ∧ slot ≠ "true" ∧ slot ≠ "false" ∧
        ∀ value ∈ Property.lastShown? config known later config.slotKey, value = .text slot

instance (config : Config) (known : Option (Mapping Json)) (later : List (String × Json))
    (further : Mapping PropertyValue) (slot : String) :
    Decidable (SlotStays config known later further slot) := instDecidableOr

/-- The name of a slot that stays is what the template shows under the slot key. -/
theorem NamesSlot.get?_propertiesOf_iff {layer : Layer} {earlier later : List (String × Json)}
    {rawKey : String} (hnames : NamesSlot config layer earlier rawKey slot later) (host : Host σ)
    (children : List (Tree Layer)) (p : Progress σ) :
    let known := (Property.occurrenceDefaults host layer p).1
    let further := (Classification.furtherProperties host config children
      (Property.resolve host config layer p).2).1
    (Classification.propertiesOf host config (node layer children) p).1.get? config.slotKey =
      some (.text slot) ↔ SlotStays config known later further slot := by
  intro known further
  have hsome : layer.properties.isEmpty = false := by
    unfold Mapping.isEmpty
    rw [hnames.value]
    exact List.isEmpty_eq_false_iff.mpr (by simp)
  rw [Classification.get?_propertiesOf_occurrence hnames.kind hsome, hnames.value]
  unfold SlotStays
  rw [Option.or_eq_some_iff, Property.lastShown?_eq_text_iff hnames.key hnames.key_used]

section Template

variable {layer : Layer} {earlier later : List (String × Json)} {rawKey : String}
  (hnames : NamesSlot config layer earlier rawKey slot later) {properties : Mapping PropertyValue}

include hnames

/-- The element of a template fills the slot that its properties name, with whatever text in it. -/
theorem NamesSlot.fillsSlot_tagOf_iff {e : Element}
    (hcore : Pruning.core e = Pruning.core (Classification.elementOf config properties layer)) :
    (Markup.tagOf config e).FillsSlot slot ↔ properties.get? config.slotKey = some (.text slot) := by
  rw [Classification.elementOf_occurrence hnames.kind] at hcore
  have htype : e.dataType = some .component := congrArg Element.dataType hcore
  have hname : e.name = layer.name := congrArg Element.name hcore
  have hproperties : e.properties = some properties := congrArg Element.properties hcore
  have hvariants : e.variants = none := congrArg Element.variants hcore
  exact Markup.fillsSlot_tagOf_iff htype (hname ▸ hnames.name) hproperties hvariants hnames.slot_ne

/-- A template whose properties name the slot is kept. -/
theorem NamesSlot.exists_mem_prune {forest below : List (Tree Element)}
    (hmem : node (Classification.elementOf config properties layer) below ∈ forest)
    (hproperties : properties.get? config.slotKey = some (.text slot)) :
    ∃ u ∈ Pruning.prune config false forest,
      Pruning.core u.value = Pruning.core (Classification.elementOf config properties layer) := by
  rw [Classification.elementOf_occurrence hnames.kind] at hmem ⊢
  apply Pruning.exists_mem_prune_of_template hmem
  · unfold Pruning.isLive
    rw [hnames.visible, hnames.not_ignored]
    rfl
  · rfl
  · exact hnames.name
  · unfold Pruning.hasSlot
    rw [Option.bind_some, hproperties]
    simpa [PropertyValue.isNonEmptyText] using hnames.slot_ne

end Template

/-- A selected template keeps the slot that one of its values names, if and only if the name stays.
The result has a template with the mark of the slot for it then, and else, if the ids are distinct,
it has none anywhere. -/
theorem generate_template_slot {g : Generator} (hsettings : g.mistyped = none) (host : Host σ) (s : σ)
    {layer : Layer} {earlier later : List (String × Json)} {rawKey : String}
    (hnames : NamesSlot g.config layer earlier rawKey slot later)
    (before children after : List (Tree Layer)) :
    let roots := before ++ node layer children :: after
    let asked := host.remembering g.memory
    let turn := Classification.progressAt asked g.config roots (forestSize before)
      { host := { host := s } }
    let known := (Property.occurrenceDefaults asked layer turn).1
    let further := (Classification.furtherProperties asked g.config children
      (Property.resolve asked g.config layer turn).2).1
    ∃ made, ((g.generate host roots).run s).1 = .ok made ∧
      made.markup = Markup.render g.config 0 (Markup.ofElements g.config made.forest) ∧
      (SlotStays g.config known later further slot →
        ∃ u ∈ made.forest, u.value.id = layer.id ∧
          (Markup.ofElement g.config u).value.FillsSlot slot) ∧
      ((forestKeys Layer.id roots).Nodup →
        (∃ e ∈ forestValues made.forest, e.id = layer.id ∧
          (Markup.tagOf g.config e).FillsSlot slot) →
        SlotStays g.config known later further slot) := by
  intro roots asked turn known further
  have hroots : roots ≠ [] := List.append_ne_nil_of_right_ne_nil _ (List.cons_ne_nil _ _)
  obtain ⟨below, hmem⟩ := Classification.exists_element_of_root asked g.config before after
    (node layer children) { host := { host := s } }
  let properties := (Classification.propertiesOf asked g.config (node layer children) turn).1
  have hstays : properties.get? g.config.slotKey = some (.text slot) ↔
      SlotStays g.config known later further slot :=
    hnames.get?_propertiesOf_iff asked children turn
  refine ⟨_, generate_of_typed hsettings hroots host { host := s }, rfl, fun hslot => ?_,
    fun hids hfills => ?_⟩
  · obtain ⟨u, hu, hcore⟩ := hnames.exists_mem_prune hmem (hstays.mpr hslot)
    refine ⟨u, hu, Pruning.id_eq_of_core_eq hcore, ?_⟩
    rw [Markup.value_ofElement, hnames.fillsSlot_tagOf_iff hcore]
    exact hstays.mpr hslot
  · obtain ⟨e, he, hid, hmark⟩ := hfills
    -- No other element has the id of the template, so the marked one comes from it.
    rw [← Classification.forestKeys_id_classifyForest asked g.config roots
      { host := { host := s } }] at hids
    have hcore := Pruning.core_eq_of_mem_prune hids hmem he hid
    rw [← hstays, ← hnames.fillsSlot_tagOf_iff hcore]
    exact hmark

/-- Every occurrence is made from one component, whose slot is the body. -/
def bodyHost : Host Unit :=
  .ofAnswers (fun _ => .ok (some { id := "c" })) (fun _ => .ok (.ofList [("slot", .string "body")]))

/-- A template with some values. -/
def slotTemplate (entries : List (String × Json)) : Layer :=
  { id := "1", name := "Template", kind := .occurrence, properties := .ofList entries }

theorem namesSlot_slotTemplate {entries earlier later : List (String × Json)} {rawKey : String}
    (hvalue : (Mapping.ofList entries).entries = earlier ++ (rawKey, .string slot) :: later)
    (hkey : Name.stripKeySuffix rawKey = "slot") (hslot : slot ≠ "") :
    NamesSlot {} (slotTemplate entries) earlier rawKey slot later where
  kind := rfl
  visible := rfl
  name := (by decide +kernel : ({} : Config).isTemplateName "Template" = true)
  not_ignored := (by decide +kernel : ({} : Config).ignoresName "Template" = false)
  key_used := by decide +kernel
  value := hvalue
  key := hkey
  slot_ne := hslot

/-- A template for one slot. -/
def templateFor (slot : String) : Layer := slotTemplate [("slot", .string slot)]

theorem namesSlot_templateFor (hslot : slot ≠ "") : NamesSlot {} (templateFor slot) [] "slot" slot [] :=
  namesSlot_slotTemplate rfl (by decide +kernel) hslot

/-- A template for the footer, with a size before the name of the slot and another value after
it. -/
def footerTemplate (other : String) : Layer :=
  slotTemplate [("size", .string "big"), ("slot#1:2", .string "footer"), ("slot#1:3", .string other)]

theorem namesSlot_footerTemplate (other : String) :
    NamesSlot {} (footerTemplate other) [("size", .string "big")] "slot#1:2" "footer"
      [("slot#1:3", .string other)] :=
  namesSlot_slotTemplate rfl (by decide +kernel) (by decide)

/-- The footer is no default, and the value after it is one, so the template keeps its slot.  A
template for the body is for no slot. -/
theorem generate_template_slot_footerTemplate :
    ({} : Generator).mistyped = none ∧
      NamesSlot {} (footerTemplate "body") [("size", .string "big")] "slot#1:2" "footer"
        [("slot#1:3", .string "body")] ∧
      NamesSlot {} (templateFor "body") [] "slot" "body" [] ∧
      (∃ made, ((Generator.generate {} bodyHost [.node (footerTemplate "body") []]).run ()).1 =
          .ok made ∧
        ∃ u ∈ made.forest, u.value.id = "1" ∧ (Markup.ofElement {} u).value.FillsSlot "footer") ∧
      ∃ made, ((Generator.generate {} bodyHost
          [.node (templateFor "body") []]).run ()).1 = .ok made ∧
        ¬ ∃ e ∈ forestValues made.forest, e.id = "1" ∧ (Markup.tagOf {} e).FillsSlot "body" := by
  have hfooter := namesSlot_footerTemplate "body"
  have hbody : NamesSlot {} (templateFor "body") [] "slot" "body" [] :=
    namesSlot_templateFor (by decide)
  refine ⟨rfl, hfooter, hbody, ?_, ?_⟩
  · obtain ⟨made, hmade, -, hkeeps, -⟩ :=
      generate_template_slot (g := {}) rfl bodyHost () hfooter [] [] []
    exact ⟨made, hmade, hkeeps (by decide +kernel)⟩
  · obtain ⟨made, hmade, -, -, hloses⟩ :=
      generate_template_slot (g := {}) rfl bodyHost () hbody [] [] []
    refine ⟨made, hmade, fun hfills => ?_⟩
    have hstays := hloses (by decide) hfills
    revert hstays
    decide +kernel

/-- Selected alone, the layer leaves nothing. -/
def LeavesNothing (config : Config) (host : Host Unit) (root : Tree Layer) : Prop :=
  ∃ made, ((Generator.generate { config } host [root]).run ()).1 = .ok made ∧ made.forest = []

theorem leavesNothing_of_isEmpty {config : Config} {host : Host Unit} {root : Tree Layer}
    (hempty : (Pruning.prune config false
      ((classified { config } host [root]) { host := () }).1).isEmpty = true) :
    LeavesNothing config host root :=
  ⟨_, generate_of_typed (g := { config }) rfl (List.cons_ne_nil root []) host { host := () },
    List.isEmpty_iff.mp hempty⟩

/-- The name of a slot may be lost in six ways, and the template with it: as a word for nothing
where no defaults are known, as a switch position, as the default, by a later value, by further
properties, and because the template has a private name where its conventional name is not
private. -/
theorem slot_of_template_lost :
    ({} : Config).ignoresName ({} : Config).templateName = false ∧
      (NamesSlot {} (templateFor "none") [] "slot" "none" [] ∧
        LeavesNothing {} brokenHost (.node (templateFor "none") [])) ∧
      (NamesSlot {} (templateFor "true") [] "slot" "true" [] ∧
        LeavesNothing {} bodyHost (.node (templateFor "true") [])) ∧
      (NamesSlot {} (templateFor "body") [] "slot" "body" [] ∧
        LeavesNothing {} bodyHost (.node (templateFor "body") [])) ∧
      (NamesSlot {} (footerTemplate "true") [("size", .string "big")] "slot#1:2" "footer"
          [("slot#1:3", .string "true")] ∧
        LeavesNothing {} bodyHost (.node (footerTemplate "true") [])) ∧
      (NamesSlot {} (templateFor "footer") [] "slot" "footer" [] ∧
        LeavesNothing {} bodyHost (.node (templateFor "footer")
          [.node { id := "2", name := "more_properties", kind := .occurrence,
                   properties := .ofList [("slot", .string "true")] } []])) ∧
      (({ privateMarkers := ["T"] } : Config).ignoresName "template" = false ∧
        LeavesNothing { privateMarkers := ["T"] } bodyHost
          (.node (templateFor "footer") [])) := by
  refine ⟨by decide +kernel, ⟨namesSlot_templateFor (by decide), ?_⟩,
    ⟨namesSlot_templateFor (by decide), ?_⟩, ⟨namesSlot_templateFor (by decide), ?_⟩,
    ⟨namesSlot_footerTemplate "true", ?_⟩, ⟨namesSlot_templateFor (by decide), ?_⟩,
    by decide +kernel, ?_⟩
  all_goals exact leavesNothing_of_isEmpty (by decide +kernel)

end Generator

end LayerMarkup
