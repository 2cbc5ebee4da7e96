import LayerMarkup.Proofs.Snapshot.Owners
import LayerMarkup.Proofs.Snapshot.Rendering

/-!
# Unrelated objects of a library

An object of a library matters to a snapshot only if something names it.  Objects whose ids are
neither the id of another object nor the component or the set that another object names can be added
anywhere to the library: they change no answer about any other id (`mainComponent_insert`,
`defaults_insert`), and so they do not change the markup (`markupOf_eq_of_unrelated`).
-/

namespace LayerMarkup

namespace Document

/-- An id occurs among the fields of an object: as its own, or as that of the component or of the
set that it names. -/
def Mentions (fields : Fields) (id : String) : Prop :=
  idIn fields = id ∨ mainIdIn fields = some id ∨ setIdIn fields = some id

/-- No id of the further objects occurs among the fields of the others. -/
def Unrelated (further items : List Json) : Prop :=
  ∀ added ∈ nodes further, ∀ fields ∈ nodes items, ¬ Mentions fields (idIn added)

/-- No object has the id. -/
def Unknown (items : List Json) (id : String) : Prop := ∀ fields ∈ nodes items, idIn fields ≠ id

instance (fields : Fields) (id : String) : Decidable (Mentions fields id) :=
  inferInstanceAs (Decidable (_ ∨ _ ∨ _))

instance (further items : List Json) : Decidable (Unrelated further items) :=
  inferInstanceAs (Decidable
    (∀ added ∈ nodes further, ∀ fields ∈ nodes items, ¬ Mentions fields (idIn added)))

variable {items others further : List Json} {id : String} {fields : Fields}

theorem Unrelated.unknown (hunrelated : Unrelated further items) (hmem : fields ∈ nodes items)
    (hmentions : Mentions fields id) : Unknown further id := by
  rintro added hadded rfl
  exact hunrelated added hadded fields hmem hmentions

theorem node?_append (items others : List Json) (id : String) :
    node? (items ++ others) id = (node? others id).or (node? items id) := by
  rw [node?, nodes_append, List.reverse_append, List.find?_append]
  rfl

/-- Objects with other ids do not hide an object. -/
theorem node?_insert (hunknown : Unknown further id) :
    node? (items ++ further ++ others) id = node? (items ++ others) id := by
  rw [node?_append, node?_append, node?_append, node?_eq_none_iff.mpr hunknown, Option.none_or]

theorem lastValue?_linkEntries_insert (hunknown : Unknown further id) :
    Mapping.lastValue? id (linkEntries (items ++ further ++ others)) =
      Mapping.lastValue? id (linkEntries (items ++ others)) := by
  have hnone : Mapping.lastValue? id (linkEntries further) = none := by
    rw [Mapping.lastValue?_eq_none_iff]
    intro hkey
    obtain ⟨entry, hentry, rfl⟩ := List.mem_map.mp hkey
    obtain ⟨added, hadded, hlink⟩ := List.mem_filterMap.mp hentry
    exact hunknown added hadded (link?_eq_some_iff.mp hlink).2.1
  simp only [linkEntries_append, Mapping.lastValue?_append, hnone, Option.none_or]

/-- The variants that stand directly in a component set, with the set. -/
def variantEntries (items : List Json) : List (String × String) :=
  (Tree.mapForest layerIn (outlineAll items)).flatMap Snapshot.variantsIn

theorem variantEntries_append (items others : List Json) :
    variantEntries (items ++ others) = variantEntries items ++ variantEntries others := by
  rw [variantEntries, outlineAll_append, Tree.mapForest_append, List.flatMap_append]
  rfl

/-- Both the variant and the set are objects. -/
theorem exists_of_mem_variantEntries {pair : String × String} (hpair : pair ∈ variantEntries items) :
    (∃ fields ∈ nodes items, idIn fields = pair.1) ∧ ∃ fields ∈ nodes items, idIn fields = pair.2 := by
  have hids := forestKeys_layerIn items
  obtain ⟨path, parent, t, hstands, hlast, -, -, rfl⟩ := Snapshot.mem_variantsIn_iff.mp hpair
  have hvariant : t.value.id ∈ ids items := hids ▸ hstands.key_mem
  have hset : parent.id ∈ ids items := hids ▸ hstands.key_mem_of_mem_path (List.mem_of_getLast? hlast)
  exact ⟨List.mem_map.mp hvariant, List.mem_map.mp hset⟩

theorem find?_variantEntries_insert (hunknown : Unknown further id) :
    (variantEntries (items ++ further ++ others)).find? (·.1 == id) =
      (variantEntries (items ++ others)).find? (·.1 == id) := by
  have hnone : (variantEntries further).find? (·.1 == id) = none := by
    rw [List.find?_eq_none]
    intro pair hpair hid
    obtain ⟨⟨fields, hmem, hfields⟩, -⟩ := exists_of_mem_variantEntries hpair
    exact hunknown fields hmem (hfields.trans (beq_iff_eq.mp hid))
  simp only [variantEntries_append, List.find?_append, hnone, Option.or_none]

theorem setOf?_gathered (selection library : List Json) (id : String) :
    (gathered selection library).setOf? id =
      (Mapping.lastValue? id (linkEntries (selection ++ library))).or
        (((variantEntries (selection ++ library)).find? (·.1 == id)).map Prod.snd) := by
  have hlinks : (gathered selection library).setLinks.get? id =
      Mapping.lastValue? id (linkEntries (selection ++ library)) := Mapping.get?_ofList _ id
  rw [Snapshot.setOf?, forest_gathered, hlinks]
  cases Mapping.lastValue? id (linkEntries (selection ++ library)) <;> rfl

/-- The set of a variant is named by an object. -/
theorem exists_mentions_of_setOf? {selection library : List Json} {set : String}
    (hset : (gathered selection library).setOf? id = some set) :
    ∃ fields ∈ nodes (selection ++ library), Mentions fields set := by
  rw [setOf?_gathered, Option.or_eq_some_iff] at hset
  rcases hset with hlink | ⟨-, hplace⟩
  · obtain ⟨fields, hmem, hlink⟩ := List.mem_filterMap.mp (Mapping.mem_of_lastValue? hlink)
    exact ⟨fields, hmem, .inr (.inr (link?_eq_some_iff.mp hlink).2.2)⟩
  · obtain ⟨pair, hfound, rfl⟩ := Option.map_eq_some_iff.mp hplace
    obtain ⟨-, fields, hmem, hid⟩ := exists_of_mem_variantEntries (List.mem_of_find?_eq_some hfound)
    exact ⟨fields, hmem, .inl hid⟩

/-- The main component of a layer is named by an object. -/
theorem exists_mentions_of_mainComponent {selection library : List Json} {main : ComponentRef}
    (hanswer : (gathered selection library).mainComponent id = .ok (some main)) :
    ∃ fields ∈ nodes (selection ++ library), Mentions fields main.id := by
  cases hfound : node? (selection ++ library) id with
  | none =>
    rw [mainComponent_of_unknown hfound] at hanswer
    cases hanswer
  | some fields =>
    rw [mainComponent_of_node? hfound, Except.ok.injEq, Option.map_eq_some_iff] at hanswer
    obtain ⟨_, hmain, rfl⟩ := hanswer
    exact ⟨fields, (mem_of_node? hfound).1, .inr (.inl hmain)⟩

section Inserted

variable {selection before after : List Json}
  (hunrelated : Unrelated further (selection ++ (before ++ after)))

theorem find?_insert (hunknown : Unknown further id) :
    (gathered selection (before ++ further ++ after)).find? id =
      (gathered selection (before ++ after)).find? id := by
  rw [find?_gathered, find?_gathered, ← List.append_assoc, ← List.append_assoc, ← List.append_assoc,
    node?_insert hunknown]

theorem setOf?_insert (hunknown : Unknown further id) :
    (gathered selection (before ++ further ++ after)).setOf? id =
      (gathered selection (before ++ after)).setOf? id := by
  rw [setOf?_gathered, setOf?_gathered, ← List.append_assoc, ← List.append_assoc, ← List.append_assoc,
    lastValue?_linkEntries_insert hunknown, find?_variantEntries_insert hunknown]

include hunrelated

theorem mainComponent_insert (hunknown : Unknown further id) :
    (gathered selection (before ++ further ++ after)).mainComponent id =
      (gathered selection (before ++ after)).mainComponent id := by
  rw [Snapshot.mainComponent, Snapshot.mainComponent, find?_insert hunknown, find?_gathered]
  cases hfound : node? (selection ++ (before ++ after)) id with
  | none => rfl
  | some fields =>
    show Except.ok ((mainIdIn fields).map _) = Except.ok ((mainIdIn fields).map _)
    cases hmain : mainIdIn fields with
    | none => rfl
    | some main =>
      have hmem := (mem_of_node? hfound).1
      simp only [Option.map_some, find?_insert (hunrelated.unknown hmem (.inr (.inl hmain)))]

theorem owner_insert (component : Layer) (hunknown : Unknown further id) :
    (gathered selection (before ++ further ++ after)).owner component id =
      (gathered selection (before ++ after)).owner component id := by
  rw [Snapshot.owner, Snapshot.owner, setOf?_insert hunknown]
  cases hset : (gathered selection (before ++ after)).setOf? id with
  | none => rfl
  | some set =>
    obtain ⟨fields, hmem, hmentions⟩ := exists_mentions_of_setOf? hset
    rw [Option.bind_some, Option.bind_some, find?_insert (hunrelated.unknown hmem hmentions)]

theorem defaults_insert (hunknown : Unknown further id) :
    (gathered selection (before ++ further ++ after)).defaults id =
      (gathered selection (before ++ after)).defaults id := by
  rw [Snapshot.defaults, Snapshot.defaults, find?_insert hunknown]
  cases (gathered selection (before ++ after)).find? id with
  | none => rfl
  | some component => simp only [owner_insert hunrelated component hunknown]

/-- What a snapshot knows about any other layer does not change. -/
theorem knownDefaults_insert {layer : Layer} (hunknown : Unknown further layer.id) :
    Property.knownDefaults (gathered selection (before ++ further ++ after)).answers layer =
      Property.knownDefaults (gathered selection (before ++ after)).answers layer := by
  have hmain : (gathered selection (before ++ further ++ after)).answers.mainComponent layer.id =
      (gathered selection (before ++ after)).answers.mainComponent layer.id :=
    mainComponent_insert hunrelated hunknown
  have hown : (gathered selection (before ++ further ++ after)).answers.defaults layer.id =
      (gathered selection (before ++ after)).answers.defaults layer.id :=
    defaults_insert hunrelated hunknown
  rw [Property.knownDefaults, Property.knownDefaults, hmain, hown]
  cases hanswer : (gathered selection (before ++ after)).answers.mainComponent layer.id with
  | error _ => rfl
  | ok answer =>
    cases answer with
    | none => rfl
    | some main =>
      obtain ⟨fields, hmem, hmentions⟩ := exists_mentions_of_mainComponent hanswer
      have hdefaults : (gathered selection (before ++ further ++ after)).answers.defaults main.id =
          (gathered selection (before ++ after)).answers.defaults main.id :=
        defaults_insert hunrelated (hunrelated.unknown hmem hmentions)
      simp only [hdefaults]

/-- The markup of a snapshot does not change. -/
theorem rendered_insert (config : Config) :
    (gathered selection (before ++ further ++ after)).rendered config =
      (gathered selection (before ++ after)).rendered config := by
  refine Snapshot.rendered_congr rfl fun layer hlayer => knownDefaults_insert hunrelated ?_
  -- Only selected layers are asked about, and their ids are those of objects.
  have hvalues : Tree.forestValues (gathered selection (before ++ after)).selection =
      (nodes selection).map layerIn := Tree.forestValues_mapForest _ _
  rw [hvalues, List.mem_map] at hlayer
  obtain ⟨fields, hmem, rfl⟩ := hlayer
  have hnode : fields ∈ nodes (selection ++ (before ++ after)) := by
    rw [nodes_append]
    exact List.mem_append_left _ hmem
  exact hunrelated.unknown hnode (.inl rfl)

end Inserted

theorem checkLinks_insert (hwell : WellFormed further) (items others : List Json) :
    checkLinks (items ++ further ++ others) = checkLinks (items ++ others) := by
  rw [checkLinks_append, checkLinks_append, checkLinks_append, checkLinks_of_wellFormed hwell]
  cases checkLinks items <;> rfl

variable {document wider : Json} {selection before after : List Json}

/-- Objects that can be added to a library are not refused, and nothing else is refused for them. -/
theorem ofDocument_insert (hcarries : Carries document selection (before ++ after))
    (hwider : Carries wider selection (before ++ further ++ after)) (hwell : WellFormed further) :
    ((Snapshot.ofDocument wider).map fun _ => ()) = (Snapshot.ofDocument document).map fun _ => () := by
  rw [ofDocument_of_carries_links hcarries, ofDocument_of_carries_links hwider, ← List.append_assoc,
    ← List.append_assoc, ← List.append_assoc, checkLinks_insert hwell, treesOf_append, treesOf_append,
    treesOf_append, treesOf_of_wellFormed hwell]
  cases checkLinks (selection ++ before ++ after) with
  | error _ => rfl
  | ok _ =>
    cases treesOf selection with
    | error _ => rfl
    | ok _ =>
      cases treesOf before with
      | error _ => rfl
      | ok _ => cases treesOf after <;> rfl

/-- Unrelated objects that are added anywhere to the library do not change the markup. -/
theorem markupOf_eq_of_unrelated (config : Config) (start : Option String)
    (hcarries : Carries document selection (before ++ after))
    (hwider : Carries wider selection (before ++ further ++ after)) (hwell : WellFormed further)
    (hunrelated : Unrelated further (selection ++ (before ++ after))) :
    (Snapshot.markupOf config wider start).1 = (Snapshot.markupOf config document start).1 := by
  refine Snapshot.markupOf_congr ?_ config start
  have hsame := ofDocument_insert hcarries hwider hwell
  cases hread : Snapshot.ofDocument document with
  | error cause =>
    cases hreadWider : Snapshot.ofDocument wider with
    | error other =>
      rw [hread, hreadWider] at hsame
      cases hsame
      rfl
    | ok _ =>
      rw [hread, hreadWider] at hsame
      cases hsame
  | ok s =>
    cases hreadWider : Snapshot.ofDocument wider with
    | error _ =>
      rw [hread, hreadWider] at hsame
      cases hsame
    | ok s' =>
      obtain ⟨-, rfl⟩ := (ofDocument_eq_ok_iff hcarries).mp hread
      obtain ⟨-, rfl⟩ := (ofDocument_eq_ok_iff hwider).mp hreadWider
      exact congrArg Except.ok (funext (rendered_insert hunrelated))

section Borders

/-- A component with a default. -/
def cover : Json := .object [("id", .string "6"), ("type", .string "COMPONENT"),
  ("componentPropertyDefinitions", .object [("tone", .object [("defaultValue", .string "gray")])])]

/-- An occurrence of the component in another tone. -/
def redCover : Json :=
  .object [("id", .string "1"), ("name", .string "UCover"), ("type", .string "INSTANCE"),
    ("componentId", .string "6"), ("componentProperties", .object [("tone", .string "red")])]

/-- A component set that has nothing to do with the cover, and a component that is linked to it. -/
def borders : List Json :=
  [.object [("id", .string "30"), ("type", .string "COMPONENT"), ("componentSetId", .string "31")],
    .object [("id", .string "31"), ("type", .string "COMPONENT_SET"), ("children", .array
      [.object [("id", .string "32"), ("type", .string "COMPONENT")]])]]

def coverDocument (library : List Json) : Json :=
  .object [("selection", .array [redCover]), ("library", .array library)]

theorem markupOf_eq_of_unrelated_borders :
    WellFormed borders ∧ Unrelated borders ([redCover] ++ ([] ++ [cover])) ∧
      (Snapshot.markupOf {} (coverDocument [cover]) none).1.toOption = some "<Ucover tone=\"red\" />" ∧
      (Snapshot.markupOf {} (coverDocument (borders ++ [cover])) none).1 =
        (Snapshot.markupOf {} (coverDocument [cover]) none).1 := by
  have hwell : WellFormed borders := by decide +kernel
  have hunrelated : Unrelated borders ([redCover] ++ ([] ++ [cover])) := by decide +kernel
  have hcarries : ∀ library, Carries (coverDocument library) [redCover] library :=
    fun library => .selection rfl (.inl rfl) (.inl rfl)
  have hmarkup : (Snapshot.markupOf {} (coverDocument [cover]) none).1.toOption =
      some "<Ucover tone=\"red\" />" := by
    rw [Snapshot.markupOf_fst]
    decide +kernel
  exact ⟨hwell, hunrelated, hmarkup,
    markupOf_eq_of_unrelated {} none (hcarries _) (hcarries _) hwell hunrelated⟩

end Borders

end Document

end LayerMarkup
