import LayerMarkup.Proofs.Snapshot.Carriers

/-!
# Lookups in a snapshot

A snapshot answers from the objects of its document.  The object of an id is the last one that has
it (`node?`), and the only one where ids are distinct (`node?_of_mem`).  Where they are, an object
anywhere in the selection or in the library is found by its id, and so is the component that it
names, wherever this stands (`mainComponent_of_carries`).
-/

namespace LayerMarkup

namespace Document

/-- The ids of the objects that a list of values describes, at all depths. -/
def ids (items : List Json) : List String := (nodes items).map idIn

/-- The object of an id; of several the last one. -/
def node? (items : List Json) (id : String) : Option Fields :=
  (nodes items).reverse.find? fun fields => idIn fields == id

variable {items : List Json} {id : String} {fields : Fields}

theorem mem_of_node? (hfound : node? items id = some fields) :
    fields ∈ nodes items ∧ idIn fields = id :=
  ⟨List.mem_reverse.mp (List.mem_of_find?_eq_some hfound), beq_iff_eq.mp (List.find?_some hfound :)⟩

theorem node?_eq_none_iff : node? items id = none ↔ ∀ fields ∈ nodes items, idIn fields ≠ id := by
  rw [node?, List.find?_eq_none]
  simp only [List.mem_reverse, beq_iff_eq]

theorem node?_of_mem (hids : (ids items).Nodup) (hmem : fields ∈ nodes items) :
    node? items (idIn fields) = some fields := by
  cases hfound : node? items (idIn fields) with
  | none => exact absurd rfl (node?_eq_none_iff.mp hfound fields hmem)
  | some other =>
    obtain ⟨hother, hsame⟩ := mem_of_node? hfound
    rw [List.inj_on_of_nodup_map hids hother hmem hsame]

theorem forestKeys_layerIn (items : List Json) :
    Tree.forestKeys Layer.id (Tree.mapForest layerIn (outlineAll items)) = ids items := by
  rw [Tree.forestKeys, Tree.forestValues_mapForest, List.map_map]
  rfl

variable (selection library : List Json)

/-- The layers of a snapshot stand as the objects do. -/
theorem forest_gathered :
    (gathered selection library).selection ++ (gathered selection library).library =
    Tree.mapForest layerIn (outlineAll (selection ++ library)) := by
  rw [outlineAll_append, Tree.mapForest_append]
  rfl

theorem layers_gathered :
    (gathered selection library).layers = (nodes (selection ++ library)).map layerIn := by
  rw [Snapshot.layers, forest_gathered, Tree.forestValues_mapForest]
  rfl

theorem find?_gathered (id : String) :
    (gathered selection library).find? id = (node? (selection ++ library) id).map layerIn := by
  rw [Snapshot.find?, layers_gathered, ← List.map_reverse, List.find?_map]
  rfl

theorem mainComponent_of_node? {selection library : List Json}
    (hfound : node? (selection ++ library) id = some fields) :
    (gathered selection library).mainComponent id = .ok ((mainIdIn fields).map fun main =>
      { id := main, name := ((node? (selection ++ library) main).map nameIn).getD "" }) := by
  rw [Snapshot.mainComponent, find?_gathered, hfound]
  show Except.ok ((mainIdIn fields).map _) = _
  congr 2
  funext main
  rw [find?_gathered, Option.map_map]
  rfl

theorem mainComponent_of_unknown {selection library : List Json}
    (hunknown : node? (selection ++ library) id = none) :
    (gathered selection library).mainComponent id = .error (.lookup id "Unknown node") := by
  rw [Snapshot.mainComponent, find?_gathered, hunknown]
  rfl

/-- Where all ids are distinct, all documents that carry the same two lists give the same snapshot,
with the same selection and the same answers.  It knows the main component of every object that
names one, by the id that the object names and the name of the object of this id, and fails exactly
for the ids that no object has. -/
theorem mainComponent_of_carries {selection library : List Json}
    (hwell : WellFormed (selection ++ library)) (hids : (ids (selection ++ library)).Nodup) :
    ∃ s : Snapshot,
      (∀ document, Carries document selection library → Snapshot.ofDocument document = .ok s) ∧
      s.selection = Tree.mapForest layerIn (outlineAll selection) ∧
      (∀ fields ∈ nodes (selection ++ library),
        (mainIdIn fields = none → s.mainComponent (idIn fields) = .ok none) ∧
        ∀ main, mainIdIn fields = some main →
          (∀ component ∈ nodes (selection ++ library), idIn component = main →
            s.mainComponent (idIn fields) = .ok (some { id := main, name := nameIn component })) ∧
          ((∀ component ∈ nodes (selection ++ library), idIn component ≠ main) →
            s.mainComponent (idIn fields) = .ok (some { id := main, name := "" }))) ∧
      ∀ id failure, s.mainComponent id = .error failure ↔
        (∀ fields ∈ nodes (selection ++ library), idIn fields ≠ id) ∧
          failure = .lookup id "Unknown node" := by
  refine ⟨gathered selection library,
    fun document hcarries => ofDocument_of_wellFormed hcarries hwell, rfl,
    fun fields hmem => ?_, fun id failure => ?_⟩
  · have hanswer := mainComponent_of_node? (node?_of_mem hids hmem)
    refine ⟨fun hnone => ?_, fun main hmain => ⟨fun component hcomponent hid => ?_, fun houtside => ?_⟩⟩
    · rw [hanswer, hnone]
      rfl
    · subst hid
      rw [hanswer, hmain, Option.map_some, node?_of_mem hids hcomponent]
      rfl
    · rw [hanswer, hmain, Option.map_some, node?_eq_none_iff.mpr houtside]
      rfl
  · rw [← node?_eq_none_iff]
    cases hfound : node? (selection ++ library) id with
    | none =>
      rw [mainComponent_of_unknown hfound]
      simp [eq_comm]
    | some fields =>
      rw [mainComponent_of_node? hfound]
      simp

section Card

/-- An occurrence of a component in a library, with an icon whose component is in no list. -/
def card : Json :=
  .object [("id", .string "1"), ("name", .string "UCard"), ("type", .string "INSTANCE"),
    ("componentId", .string "7"),
    ("children", .array [.object [("id", .string "2"), ("type", .string "INSTANCE"),
      ("mainComponent", .object [("id", .string "9")])]])]

def cardComponent : Json :=
  .object [("id", .string "7"), ("name", .string "Card"), ("type", .string "COMPONENT")]

/-- The ways to write down the card and its component: as fields, as the single root, and as one of
the entries of an answer. -/
def cardDocuments : List Json :=
  [.object [("selection", .array [card]), ("library", .array [cardComponent])],
    .object [("document", card), ("library", .array [cardComponent])],
    .object [("nodes", .object [("0", .null), ("1", .object [("document", card)]), ("2", .object [])]),
      ("library", .array [cardComponent])]]

theorem mainComponent_of_carries_card :
    WellFormed [card, cardComponent] ∧ (ids [card, cardComponent]).Nodup ∧
      ∃ s : Snapshot, (∀ document ∈ cardDocuments, Snapshot.ofDocument document = .ok s) ∧
        s.mainComponent "1" = .ok (some { id := "7", name := "Card" }) ∧
        s.mainComponent "2" = .ok (some { id := "9", name := "" }) ∧
        s.mainComponent "7" = .ok none ∧
        s.mainComponent "9" = .error (.lookup "9" "Unknown node") := by
  have hwell : WellFormed ([card] ++ [cardComponent]) := by decide +kernel
  have hids : (ids ([card] ++ [cardComponent])).Nodup := by decide +kernel
  obtain ⟨s, hsame, -, hanswers, hfails⟩ := mainComponent_of_carries hwell hids
  refine ⟨hwell, hids, s, ?_, ?_, ?_, ?_, ?_⟩
  · unfold cardDocuments
    rw [List.forall_mem_cons, List.forall_mem_cons, List.forall_mem_singleton]
    refine ⟨hsame _ (.selection rfl (.inl rfl) (.inl rfl)), hsame _ (.single rfl rfl (.inl rfl)),
      hsame _ (.answer rfl rfl rfl ?_ (.inl rfl))⟩
    exact .rootless (.empty rfl) (.root rfl (.rootless (.empty rfl) .nil))
  · obtain ⟨-, hnamed⟩ := hanswers _ (List.mem_of_getElem? (i := 0) rfl)
    exact (hnamed "7" rfl).1 _ (List.mem_of_getElem? (i := 2) rfl) rfl
  · obtain ⟨-, hnamed⟩ := hanswers _ (List.mem_of_getElem? (i := 1) rfl)
    exact (hnamed "9" rfl).2 (by decide +kernel)
  · exact (hanswers _ (List.mem_of_getElem? (i := 2) rfl)).1 rfl
  · exact (hfails "9" _).mpr ⟨by decide +kernel, rfl⟩

end Card

end Document

end LayerMarkup
