import LayerMarkup.Proofs.Snapshot.Lookups

/-!
# Owners of declared properties

The defaults of a variant are declared by the component set that it belongs to.  The set is told by
a link among the fields of the variant, or else it is the object that the variant stands directly
in.

* `setOf?_of_stands` — the set of a variant in a snapshot, by its link or by the place where it
  stands.
* `ownerIn` — the object that declares the defaults of a component, by its place in the document.
* `defaults_of_carries` — a snapshot answers with what the owner declares, and with a failure where
  this is nothing.

A link that leads out of the snapshot still counts as the link of the variant: the component then is
its own owner, wherever it stands (`defaults_straySwatch`).
-/

namespace LayerMarkup

namespace Snapshot

section Places

variable {forest : List (Tree Layer)} {pair : String × String}

theorem mem_variantsBelow_iff {parent : Layer} :
    pair ∈ variantsBelow parent forest ↔
      (∃ t ∈ forest, parent.kind = .componentSet ∧ t.value.kind = .component ∧
          pair = (t.value.id, parent.id)) ∨
        pair ∈ forest.flatMap variantsIn := by
  induction forest with
  | nil => simp [variantsBelow]
  | cons t ts ih =>
    rw [variantsBelow, List.mem_append, List.mem_append, ih, List.flatMap_cons, List.mem_append]
    simp only [List.mem_ite_nil_right, List.mem_cons, List.not_mem_nil, or_false, exists_eq_or_imp,
      Bool.and_eq_true, decide_eq_true_eq, and_assoc]
    exact or_or_or_comm

/-- The variants of a forest are the components that stand directly in a component set. -/
theorem mem_variantsIn_iff :
    pair ∈ forest.flatMap variantsIn ↔
      ∃ path parent t, Tree.Stands forest path t ∧ path.getLast? = some parent ∧
        parent.kind = .componentSet ∧ t.value.kind = .component ∧ pair = (t.value.id, parent.id) := by
  induction forest using Tree.forest_induction with
  | step forest ih =>
    rw [List.mem_flatMap]
    constructor
    · rintro ⟨⟨v, cs⟩, hmem, hpair⟩
      rcases mem_variantsBelow_iff.mp hpair with ⟨t, ht, hset, hvariant, hsame⟩ | hbelow
      · exact ⟨[v], v, t, .inner hmem (.root ht), rfl, hset, hvariant, hsame⟩
      · obtain ⟨path, parent, t, hstands, hlast, hrest⟩ := (ih _ hmem).mp hbelow
        refine ⟨v :: path, parent, t, .inner hmem hstands, ?_, hrest⟩
        rw [List.getLast?_cons, hlast]
        rfl
    · rintro ⟨path, parent, t, hstands, hlast, hset, hvariant, hsame⟩
      cases hstands with
      | root _ => cases hlast
      | @inner _ v cs path _ hmem hbelow =>
        refine ⟨_, hmem, mem_variantsBelow_iff.mpr ?_⟩
        cases hbelow with
        | root ht =>
          cases hlast
          exact .inl ⟨t, ht, hset, hvariant, hsame⟩
        | @inner _ w ds path _ hmem' hbelow =>
          rw [List.getLast?_cons_cons] at hlast
          exact .inr ((ih _ hmem).mpr
            ⟨w :: path, parent, t, .inner hmem' hbelow, hlast, hset, hvariant, hsame⟩)

variable {s : Snapshot} {path : List Layer} {t : Tree Layer}

/-- Where ids are distinct, the set of a variant is the one that it is linked to, or else the one
that it stands directly in. -/
theorem setOf?_of_stands (hids : (Tree.forestKeys Layer.id (s.selection ++ s.library)).Nodup)
    (hstands : Tree.Stands (s.selection ++ s.library) path t) (hvariant : t.value.kind = .component) :
    s.setOf? t.value.id = (s.setLinks.get? t.value.id).or
      ((path.getLast?.filter fun parent => parent.kind = .componentSet).map Layer.id) := by
  unfold setOf?
  cases s.setLinks.get? t.value.id with
  | some set => rfl
  | none =>
    rw [Option.none_or]
    show Option.map Prod.snd _ = _
    cases hfound : ((s.selection ++ s.library).flatMap variantsIn).find? (·.1 == t.value.id) with
    | none =>
      rw [List.find?_eq_none] at hfound
      cases hparent : path.getLast?.filter fun parent => parent.kind = .componentSet with
      | none => rfl
      | some parent =>
        obtain ⟨hlast, hset⟩ := Option.filter_eq_some_iff.mp hparent
        have hpair := mem_variantsIn_iff.mpr
          ⟨path, parent, t, hstands, hlast, of_decide_eq_true hset, hvariant, rfl⟩
        exact absurd (beq_self_eq_true _) (hfound _ hpair)
    | some pair =>
      have hid : pair.1 = t.value.id := beq_iff_eq.mp (List.find?_some hfound :)
      obtain ⟨path', parent, t', hstands', hlast, hset, -, rfl⟩ :=
        mem_variantsIn_iff.mp (List.mem_of_find?_eq_some hfound)
      obtain ⟨rfl, rfl⟩ := Tree.Stands.unique hids hstands' hstands hid
      rw [hlast, Option.filter_some, if_pos (decide_eq_true hset)]
      rfl

end Places

end Snapshot

namespace Document

variable {items : List Json} {path : List Fields} {t : Tree Fields}

/-- The object that a component and its place name for its defaults: the linked one if the document
has it, or else the component set that the component stands directly in, or else the component. -/
def namedOwner (items : List Json) (path : List Fields) (component : Fields) : Fields :=
  (((setIdIn component).bind (node? items)).or
    (path.getLast?.filter fun parent => kindIn parent = .componentSet)).getD component

/-- A component is linked to an object that the document does not have. -/
def isLinkedOut (items : List Json) (component : Fields) : Bool :=
  (setIdIn component).any fun set => (node? items set).isNone

/-- The object that declares the defaults of a component: the named one, but the component itself
where its link leads out of the document. -/
def ownerIn (items : List Json) (path : List Fields) (component : Fields) : Fields :=
  if isLinkedOut items component then component else namedOwner items path component

theorem kind_layerIn (fields : Fields) : (layerIn fields).kind = kindIn fields := by
  rw [layerIn]

theorem mem_nodes_of_stands (hstands : Tree.Stands (outlineAll items) path t) :
    t.value ∈ nodes items := by
  have hmem : id t.value ∈ Tree.forestKeys id (outlineAll items) := hstands.key_mem
  rwa [Tree.forestKeys, List.map_id] at hmem

theorem mem_nodes_of_mem_path (hstands : Tree.Stands (outlineAll items) path t) {parent : Fields}
    (hparent : parent ∈ path) : parent ∈ nodes items := by
  have hmem : id parent ∈ Tree.forestKeys id (outlineAll items) := hstands.key_mem_of_mem_path hparent
  rwa [Tree.forestKeys, List.map_id] at hmem

/-- Where ids are distinct and none is empty, the link of an object is the one that its fields
tell. -/
theorem lastValue?_linkEntries (hids : (ids items).Nodup)
    (hnamed : ∀ fields ∈ nodes items, (present "id" fields).isSome = true) {fields : Fields}
    (hmem : fields ∈ nodes items) :
    Mapping.lastValue? (idIn fields) (linkEntries items) = setIdIn fields := by
  cases hset : setIdIn fields with
  | none =>
    rw [Mapping.lastValue?_eq_none_iff]
    intro hkey
    obtain ⟨entry, hentry, hid⟩ := List.mem_map.mp hkey
    obtain ⟨other, hother, hlink⟩ := List.mem_filterMap.mp hentry
    obtain ⟨-, hother', hset'⟩ := link?_eq_some_iff.mp hlink
    rw [List.inj_on_of_nodup_map hids hother hmem (hother'.trans hid), hset] at hset'
    cases hset'
  | some set =>
    have hkeys : ((linkEntries items).map Prod.fst).Nodup := by
      rw [linkEntries, List.Nodup, List.pairwise_map, List.pairwise_filterMap]
      refine (List.pairwise_map.mp hids).imp ?_
      intro a b hdistinct entry ha other hb
      rw [← (link?_eq_some_iff.mp ha).2.1, ← (link?_eq_some_iff.mp hb).2.1]
      exact hdistinct
    rw [Mapping.lastValue?_eq_some_iff hkeys]
    exact List.mem_filterMap.mpr ⟨fields, hmem, link?_eq_some_iff.mpr ⟨hnamed fields hmem, rfl, hset⟩⟩

variable {selection library : List Json}

/-- The owner of a component in a snapshot is the layer of its owner in the document. -/
theorem owner_gathered (hids : (ids (selection ++ library)).Nodup)
    (hnamed : ∀ fields ∈ nodes (selection ++ library), (present "id" fields).isSome = true)
    (hstands : Tree.Stands (outlineAll (selection ++ library)) path t)
    (hkind : kindIn t.value = .component) :
    (gathered selection library).owner (layerIn t.value) (idIn t.value) =
      layerIn (ownerIn (selection ++ library) path t.value) := by
  have hforest := forest_gathered selection library
  have hkeys : (Tree.forestKeys Layer.id ((gathered selection library).selection ++
      (gathered selection library).library)).Nodup := by
    rwa [hforest, forestKeys_layerIn]
  have hplace := hforest ▸ hstands.map layerIn
  have hvariant : (t.map layerIn).value.kind = .component := by
    rw [Tree.value_map, kind_layerIn, hkind]
  have hset := Snapshot.setOf?_of_stands hkeys hplace hvariant
  have hlink : (gathered selection library).setLinks.get? (idIn t.value) = setIdIn t.value := by
    show (Mapping.ofList _).get? _ = _
    rw [Mapping.get?_ofList, lastValue?_linkEntries hids hnamed (mem_nodes_of_stands hstands)]
  have hid : (t.map layerIn).value.id = idIn t.value := congrArg Layer.id (Tree.value_map layerIn t)
  rw [hid, hlink] at hset
  rw [Snapshot.owner, kind_layerIn, if_pos hkind, hset, ownerIn, isLinkedOut, namedOwner]
  cases setIdIn t.value with
  | some set =>
    -- The link hides the place, and if nothing is found by it, the component is left.
    show ((gathered selection library).find? set).getD _ = _
    rw [find?_gathered]
    cases hlinked : node? (selection ++ library) set <;> simp [hlinked]
  | none =>
    rw [Option.any_none, if_neg Bool.false_ne_true, Option.bind_none, Option.none_or, Option.none_or,
      List.getLast?_map]
    cases hlast : path.getLast? with
    | none => rfl
    | some parent =>
      rw [Option.map_some, Option.filter_some, Option.filter_some, kind_layerIn]
      by_cases hparent : kindIn parent = .componentSet
      · have hmem := mem_nodes_of_mem_path hstands (List.mem_of_getLast? hlast)
        rw [if_pos (decide_eq_true hparent), if_pos (decide_eq_true hparent)]
        show ((gathered selection library).find? (idIn parent)).getD _ = _
        rw [find?_gathered, node?_of_mem hids hmem]
        rfl
      · rw [if_neg (by simp [hparent]), if_neg (by simp [hparent])]
        rfl

theorem definitions_layerIn (fields : Fields) :
    (layerIn fields).definitions =
      .ofList ((entriesIn "componentPropertyDefinitions" fields).filterMap definition?) := by
  rw [layerIn]

/-- A snapshot answers with what the owner of a layer declares. -/
theorem defaults_of_owner {id : String} {component owner : Fields}
    (hfound : node? (selection ++ library) id = some component)
    (howner : (gathered selection library).owner (layerIn component) id = layerIn owner) :
    (gathered selection library).defaults id =
      if (declaredIn owner).isEmpty then .error (.lookup id "No property definitions")
      else .ok (.ofList (declaredIn owner)) := by
  have hempty : (layerIn owner).definitions.isEmpty = (declaredIn owner).isEmpty := by
    rw [definitions_layerIn, Mapping.isEmpty_ofList, declaredIn, List.isEmpty_map]
  have hvalues : ((layerIn owner).definitions.mapValues fun definition => definition.default.toJson) =
      .ofList (declaredIn owner) := by
    rw [definitions_layerIn, Mapping.mapValues_ofList, declaredIn]
  rw [Snapshot.defaults, find?_gathered, hfound, Option.map_some]
  show (if ((gathered selection library).owner _ id).definitions.isEmpty = true then _ else _) = _
  rw [howner, hempty, hvalues]

/-- A component of a snapshot has the defaults that its owner declares.  Where the owner declares
none, asking for them fails. -/
theorem defaults_of_carries {document : Json} (hcarries : Carries document selection library)
    (hwell : WellFormed (selection ++ library)) (hids : (ids (selection ++ library)).Nodup)
    (hnamed : ∀ fields ∈ nodes (selection ++ library), (present "id" fields).isSome = true) :
    ∃ s, Snapshot.ofDocument document = .ok s ∧
      ∀ path component, Tree.Stands (outlineAll (selection ++ library)) path component →
        kindIn component.value = .component →
          let declared := declaredIn (ownerIn (selection ++ library) path component.value)
          (declared = [] → s.defaults (idIn component.value) =
            .error (.lookup (idIn component.value) "No property definitions")) ∧
          (declared ≠ [] → s.defaults (idIn component.value) = .ok (.ofList declared)) := by
  refine ⟨_, ofDocument_of_wellFormed hcarries hwell, fun path component hstands hkind => ?_⟩
  have hanswer := defaults_of_owner (node?_of_mem hids (mem_nodes_of_stands hstands))
    (owner_gathered hids hnamed hstands hkind)
  refine ⟨fun hnone => ?_, fun hsome => ?_⟩
  · rw [hanswer, hnone]
    rfl
  · rw [hanswer, if_neg (by simpa using hsome)]

section Swatches

/-- A component that stands in a component set. -/
def plainSwatch : Fields := [("id", .string "6"), ("type", .string "COMPONENT")]

/-- A component that stands in a component set and is linked to one that the document does not
have. -/
def straySwatch : Fields :=
  [("id", .string "8"), ("type", .string "COMPONENT"), ("componentSetId", .string "9")]

/-- The component set of the two. -/
def swatches : Fields := [("id", .string "5"), ("type", .string "COMPONENT_SET"),
  ("componentPropertyDefinitions", .object
    [("Color", .object [("type", .string "TEXT"), ("defaultValue", .string "gray")])]),
  ("children", .array [.object plainSwatch, .object straySwatch])]

/-- A component that stands by itself and is linked to the component set. -/
def linkedSwatch : Fields :=
  [("id", .string "7"), ("type", .string "COMPONENT"), ("componentSetId", .string "5")]

def swatchDocument : Json :=
  .object [("selection", .array [.object swatches]), ("library", .array [.object linkedSwatch])]

theorem carries_swatchDocument : Carries swatchDocument [.object swatches] [.object linkedSwatch] :=
  .selection rfl (.inl rfl) (.inl rfl)

theorem defaults_of_carries_swatches :
    WellFormed [.object swatches, .object linkedSwatch] ∧
      (ids [.object swatches, .object linkedSwatch]).Nodup ∧
      ∃ s, Snapshot.ofDocument swatchDocument = .ok s ∧
        s.defaults "6" = .ok (.ofList [("Color", .string "gray")]) ∧
        s.defaults "7" = .ok (.ofList [("Color", .string "gray")]) ∧
        s.defaults "8" = .error (.lookup "8" "No property definitions") := by
  have hwell : WellFormed ([.object swatches] ++ [.object linkedSwatch]) := by decide +kernel
  have hids : (ids ([.object swatches] ++ [.object linkedSwatch])).Nodup := by decide +kernel
  obtain ⟨s, hread, hanswers⟩ :=
    defaults_of_carries carries_swatchDocument hwell hids (by decide +kernel)
  have hplain := hanswers [swatches] (.node plainSwatch [])
    (.inner (.head _) (.root (.head _))) (by decide +kernel)
  have hlinked := hanswers [] (.node linkedSwatch []) (.root (.tail _ (.head _))) (by decide +kernel)
  have hstray := hanswers [swatches] (.node straySwatch [])
    (.inner (.head _) (.root (.tail _ (.head _)))) (by decide +kernel)
  refine ⟨hwell, hids, s, hread, ?_, ?_, ?_⟩
  · exact hplain.2 (by decide +kernel)
  · exact hlinked.2 (by decide +kernel)
  · exact hstray.1 (by decide +kernel)

/-- The component set around a variant declares a default, but the variant has none, since it is
linked to a set that the document does not have. -/
theorem defaults_straySwatch :
    declaredIn (namedOwner [.object swatches, .object linkedSwatch] [swatches] straySwatch) =
        [("Color", .string "gray")] ∧
      ∃ s, Snapshot.ofDocument swatchDocument = .ok s ∧
        s.defaults "8" = .error (.lookup "8" "No property definitions") := by
  refine ⟨by rfl, _, ofDocument_of_wellFormed carries_swatchDocument (by decide +kernel), ?_⟩
  rfl

end Swatches

end Document

end LayerMarkup
