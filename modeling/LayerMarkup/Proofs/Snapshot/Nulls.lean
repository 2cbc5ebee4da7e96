import LayerMarkup.Proofs.Snapshot.Carriers
import LayerMarkup.Proofs.Snapshot.Dependence
import Mathlib.Logic.Relation

/-!
# Null fields

Most fields of an object need not be there (`optionalFields`), and some of them count as absent
where they are null.  `DropsNull` takes a null field away from an object of a list, at any depth.

A field that is looked at only where it is not empty counts as absent when it is null, and so do the
switch that is off by default and the children.  Four fields do not: a null type, name or text is
the text of null, and a layer whose visibility is null is hidden.  What this costs is told by
`forget`, and `ofDocument_of_dropsNull` says which answers it leaves as they are.
-/

namespace LayerMarkup

namespace Document

/-- The fields that an object need not have. -/
def optionalFields : List String :=
  ["type", "name", "visible", "locked", "children", "characters", "componentProperties",
    "componentPropertyDefinitions", "variantProperties", "componentId", "mainComponent", "componentSetId"]

/-- A null field of one of the names is taken away from one of the objects in a list. -/
inductive DropsNull (names : List String) : List Json → List Json → Prop
  /-- From the first object. -/
  | here {fields : Fields} {rest : List Json} {name : String} (hname : name ∈ names)
      (hnull : Json.lookup name fields = some .null) :
      DropsNull names (.object fields :: rest) (.object (fields.filter (·.1 ≠ name)) :: rest)
  /-- From an object among its children. -/
  | inside {fields : Fields} {rest items items' : List Json}
      (hchildren : Json.lookup "children" fields = some (.array items))
      (hinside : DropsNull names items items') :
      DropsNull names (.object fields :: rest)
        (.object (Mapping.insertEntry "children" (.array items') fields) :: rest)
  /-- From an object after the first value. -/
  | later {item : Json} {rest rest' : List Json} (hlater : DropsNull names rest rest') :
      DropsNull names (item :: rest) (item :: rest')

theorem lookup_filter_ne (name other : String) (fields : Fields) :
    Json.lookup other (fields.filter (·.1 ≠ name)) =
      if other = name then none else Json.lookup other fields := by
  induction fields with
  | nil => rw [List.filter_nil, Json.lookup, ite_self]
  | cons field rest ih =>
    obtain ⟨key, value⟩ := field
    by_cases hkey : key = name
    · subst hkey
      rw [List.filter_cons_of_neg (by simp), ih, Json.lookup]
      by_cases hother : other = key
      · rw [if_pos hother, if_pos hother]
      · rw [if_neg hother, if_neg hother, if_neg (Ne.symm hother)]
    · rw [List.filter_cons_of_pos (by simpa using hkey), Json.lookup, Json.lookup, ih]
      by_cases hother : key = other
      · subst hother
        rw [if_pos rfl, if_neg hkey, if_pos rfl]
      · rw [if_neg hother, if_neg hother]

theorem lookup_insertEntry (name other : String) (value : Json) (fields : Fields) :
    Json.lookup other (Mapping.insertEntry name value fields) =
      if other = name then some value else Json.lookup other fields := by
  induction fields with
  | nil => simp [Mapping.insertEntry, Json.lookup, eq_comm]
  | cons field rest ih =>
    obtain ⟨key, v⟩ := field
    rw [Mapping.insertEntry]
    by_cases hkey : key = name
    · subst hkey
      rw [if_pos rfl, Json.lookup, Json.lookup]
      by_cases hother : other = key
      · rw [if_pos hother.symm, if_pos hother]
      · rw [if_neg (Ne.symm hother), if_neg hother, if_neg (Ne.symm hother)]
    · rw [if_neg hkey, Json.lookup, Json.lookup, ih]
      by_cases hother : key = other
      · subst hother
        rw [if_pos rfl, if_neg hkey, if_pos rfl]
      · rw [if_neg hother, if_neg hother]

/-- The value of a field is the same, or it is null and the field of one of the names is taken
away. -/
def SameOrDropped (names : List String) (fields fields' : Fields) (name : String) : Prop :=
  Json.lookup name fields' = Json.lookup name fields ∨
    name ∈ names ∧ Json.lookup name fields = some .null ∧ Json.lookup name fields' = none

variable {names : List String} {fields fields' : Fields} {name : String}

theorem sameOrDropped_filter {dropped : String} (hdropped : dropped ∈ names)
    (hnull : Json.lookup dropped fields = some .null) (name : String) :
    SameOrDropped names fields (fields.filter (·.1 ≠ dropped)) name := by
  unfold SameOrDropped
  rw [lookup_filter_ne]
  by_cases hname : name = dropped
  · subst hname
    exact .inr ⟨hdropped, hnull, if_pos rfl⟩
  · exact .inl (if_neg hname)

theorem sameOrDropped_insertEntry (value : Json) (hname : name ≠ "children") :
    SameOrDropped names fields (Mapping.insertEntry "children" value fields) name := by
  unfold SameOrDropped
  rw [lookup_insertEntry]
  exact .inl (if_neg hname)

namespace SameOrDropped

/-- A field is looked at where it is not empty: null counts as absent. -/
theorem present_eq (hsame : SameOrDropped names fields fields' name) :
    present name fields' = present name fields := by
  unfold present
  rcases hsame with hsame | ⟨-, hnull, hnone⟩
  · rw [hsame]
  · rw [hnull, hnone]
    rfl

theorem fieldsOf_eq (hsame : SameOrDropped names fields fields' name) (operation : String) :
    fieldsOf (Json.lookup name fields') operation = fieldsOf (Json.lookup name fields) operation := by
  have hpresent : (Json.lookup name fields').bind Json.nonEmpty? =
      (Json.lookup name fields).bind Json.nonEmpty? := hsame.present_eq
  rw [fieldsOf, fieldsOf, hpresent]

/-- A switch that is off by default is off where it is null. -/
theorem switchField_false (hsame : SameOrDropped names fields fields' name) :
    switchField name fields' false = switchField name fields false := by
  unfold switchField
  rcases hsame with hsame | ⟨-, hnull, hnone⟩
  · rw [hsame]
  · rw [hnull, hnone]
    rfl

theorem lookup_eq (hsame : SameOrDropped names fields fields' name) (hname : name ∉ names) :
    Json.lookup name fields' = Json.lookup name fields := by
  rcases hsame with hsame | ⟨hmem, -, -⟩
  · exact hsame
  · exact absurd hmem hname

/-- What is read of a field does not change if nothing is taken away under its name. -/
theorem read_eq {α : Type} (hsame : SameOrDropped names fields fields' name) (lost : α)
    (read : Option Json → α) :
    (if name ∈ names then lost else read (Json.lookup name fields')) =
      if name ∈ names then lost else read (Json.lookup name fields) := by
  by_cases hname : name ∈ names
  · rw [if_pos hname, if_pos hname]
  · rw [hsame.lookup_eq hname]

/-- A null type is of the same kind as no type. -/
theorem ofHostType_eq (hsame : SameOrDropped names fields fields' "type") :
    LayerKind.ofHostType (textField "type" fields') =
      LayerKind.ofHostType (textField "type" fields) := by
  unfold textField
  rcases hsame with hsame | ⟨-, hnull, hnone⟩
  · rw [hsame]
  · rw [hnull, hnone]
    -- Neither the text of null nor the empty text is the word for a kind.
    decide +kernel

end SameOrDropped

/-- The layer without what is lost where a null field of one of the names is taken away: the name,
the type as the tool writes it, the visibility and the text. -/
def forget (names : List String) (layer : Layer) : Layer :=
  { layer with
    name := if "name" ∈ names then "" else layer.name
    visible := if "visible" ∈ names then true else layer.visible
    characters := if "characters" ∈ names then none else layer.characters
    hostType := if "type" ∈ names then "" else layer.hostType }

/-- The layer of an object, with given properties and a given main component. -/
def layerWith (fields : Fields) (definitions : Mapping PropertyDefinition)
    (properties variants : Mapping Json) (main : Option String) : Layer where
  id := textField "id" fields
  name := textField "name" fields
  kind := .ofHostType (textField "type" fields)
  visible := switchField "visible" fields true
  locked := switchField "locked" fields false
  characters := (Json.lookup "characters" fields).map Json.display
  definitions := definitions
  properties := properties
  variants := variants
  mainComponentId := main
  hostType := textField "type" fields

/-- Apart from the items that stand for the children, the fields are the same, or null fields of the
names are taken away. -/
structure KeepsFields (names : List String) (fields fields' : Fields) : Prop where
  field : ∀ name, name ≠ "children" → SameOrDropped names fields fields' name
  check : checkItems (Json.lookup "children" fields') = checkItems (Json.lookup "children" fields)

/-- Where nothing but null stands for the children, there are none. -/
theorem keepsFields_filter (hname : name ∈ names) (hnull : Json.lookup name fields = some .null) :
    KeepsFields names fields (fields.filter (·.1 ≠ name)) ∧
      childItems (fields.filter (·.1 ≠ name)) = childItems fields := by
  have hsame := sameOrDropped_filter hname hnull
  unfold childItems
  rcases hsame "children" with hchildren | ⟨-, hchildren, hnone⟩
  · rw [hchildren]
    exact ⟨⟨fun other _ => hsame other, by rw [hchildren]⟩, rfl⟩
  · rw [hchildren, hnone]
    exact ⟨⟨fun other _ => hsame other, by rw [hchildren, hnone]; rfl⟩, rfl⟩

/-- Where an array stands for the children, its items can be replaced. -/
theorem keepsFields_insertEntry (names : List String) {items : List Json}
    (hchildren : Json.lookup "children" fields = some (.array items)) (items' : List Json) :
    KeepsFields names fields (Mapping.insertEntry "children" (.array items') fields) ∧
      childItems fields = items ∧
      childItems (Mapping.insertEntry "children" (.array items') fields) = items' := by
  have hchildren' : Json.lookup "children" (Mapping.insertEntry "children" (.array items') fields) =
      some (.array items') := by
    rw [lookup_insertEntry, if_pos rfl]
  unfold childItems
  rw [hchildren, hchildren']
  refine ⟨⟨fun _ => sameOrDropped_insertEntry _, ?_⟩, rfl, rfl⟩
  rw [hchildren, hchildren']
  rfl

section Kept

variable (hkeeps : KeepsFields names fields fields')

include hkeeps

theorem linkIn_of_keepsFields (links : Mapping String) :
    linkIn fields' links = linkIn fields links := by
  have hlink : link? fields' = link? fields := by
    rw [link?, link?, setIdIn, setIdIn, (hkeeps.field "componentSetId" (by decide)).present_eq,
      (hkeeps.field "id" (by decide)).present_eq]
  rw [linkIn_eq, linkIn_eq, hlink]

variable (hid : "id" ∉ names)

include hid

theorem forget_layerWith (definitions : Mapping PropertyDefinition) (properties variants : Mapping Json)
    (main : Option String) :
    forget names (layerWith fields' definitions properties variants main) =
      forget names (layerWith fields definitions properties variants main) := by
  have htext : textField "id" fields' = textField "id" fields := by
    rw [textField, textField, (hkeeps.field "id" (by decide)).lookup_eq hid]
  have hname := (hkeeps.field "name" (by decide)).read_eq "" fun value =>
    (value.map Json.display).getD ""
  have hvisible := (hkeeps.field "visible" (by decide)).read_eq true fun value =>
    (value.map fun value => !value.isEmpty).getD true
  have hcharacters := (hkeeps.field "characters" (by decide)).read_eq none fun value =>
    value.map Json.display
  have htype := (hkeeps.field "type" (by decide)).read_eq "" fun value =>
    (value.map Json.display).getD ""
  simp only [forget, layerWith]
  rw [Layer.mk.injEq]
  exact ⟨htext, hname, (hkeeps.field "type" (by decide)).ofHostType_eq, hvisible,
    (hkeeps.field "locked" (by decide)).switchField_false, hcharacters, rfl, rfl, rfl, rfl, htype⟩

/-- Apart from what is lost, the fields describe the same layer, or are refused for the same
reason. -/
theorem layerOf_forget :
    (layerOf fields').map (forget names) = (layerOf fields).map (forget names) := by
  have hcomponent : (Json.lookup "componentId" fields').bind Json.nonEmpty? =
      (Json.lookup "componentId" fields).bind Json.nonEmpty? :=
    (hkeeps.field "componentId" (by decide)).present_eq
  unfold layerOf
  rw [(hkeeps.field "componentPropertyDefinitions" (by decide)).fieldsOf_eq,
    (hkeeps.field "componentProperties" (by decide)).fieldsOf_eq,
    (hkeeps.field "variantProperties" (by decide)).fieldsOf_eq,
    (hkeeps.field "mainComponent" (by decide)).fieldsOf_eq, hcomponent]
  -- The fields are asked for one after the other, and the first that is refused decides.
  cases fieldsOf (Json.lookup "componentPropertyDefinitions" fields) "items" with
  | error _ => rfl
  | ok definitions =>
    cases fieldsOf (Json.lookup "componentProperties" fields) "items" with
    | error _ => rfl
    | ok properties =>
      cases fieldsOf (Json.lookup "variantProperties" fields) "items" with
      | error _ => rfl
      | ok variants =>
        cases (Json.lookup "componentId" fields).bind Json.nonEmpty? with
        | some id => exact congrArg Except.ok (forget_layerWith hkeeps hid _ _ _ _)
        | none =>
          cases fieldsOf (Json.lookup "mainComponent" fields) "get" with
          | error _ => rfl
          | ok main => exact congrArg Except.ok (forget_layerWith hkeeps hid _ _ _ _)

end Kept

theorem treesOf_cons_map (f : Layer → Layer) (item : Json) (rest : List Json) :
    (treesOf (item :: rest)).map (Tree.mapForest f) = (do
      let tree ← (treeOf item).map (Tree.map f)
      let trees ← (treesOf rest).map (Tree.mapForest f)
      return tree :: trees) := by
  rw [treesOf]
  cases treeOf item with
  | error _ => rfl
  | ok _ => cases treesOf rest <;> rfl

theorem treeOf_object_map (f : Layer → Layer) (fields : Fields) :
    (treeOf (.object fields)).map (Tree.map f) = (do
      let layer ← (layerOf fields).map f
      checkItems (Json.lookup "children" fields)
      let children ← (treesOf (childItems fields)).map (Tree.mapForest f)
      return .node layer children) := by
  rw [treeOf_object]
  cases layerOf fields with
  | error _ => rfl
  | ok _ =>
    cases checkItems (Json.lookup "children" fields) with
    | error _ => rfl
    | ok _ => cases treesOf (childItems fields) <;> rfl

variable {items items' : List Json}

/-- Apart from what is lost, the values describe the same layers, or are refused for the same
reason. -/
theorem treesOf_of_dropsNull (hid : "id" ∉ names) (hdrops : DropsNull names items items') :
    (treesOf items').map (Tree.mapForest (forget names)) =
      (treesOf items).map (Tree.mapForest (forget names)) := by
  -- Of the three places only the second changes what stands for the children of an object.
  induction hdrops with
  | here hname hnull =>
    obtain ⟨hkeeps, hitems⟩ := keepsFields_filter hname hnull
    rw [treesOf_cons_map, treesOf_cons_map, treeOf_object_map, treeOf_object_map,
      layerOf_forget hkeeps hid, hkeeps.check, hitems]
  | @inside fields rest items items' hchildren _ ih =>
    obtain ⟨hkeeps, hitems, hitems'⟩ := keepsFields_insertEntry names hchildren items'
    rw [treesOf_cons_map, treesOf_cons_map, treeOf_object_map, treeOf_object_map,
      layerOf_forget hkeeps hid, hkeeps.check, hitems, hitems', ih]
  | later _ ih => rw [treesOf_cons_map, treesOf_cons_map, ih]

/-- The links are the same, and so is what is refused when they are collected. -/
theorem linksOfAll_of_dropsNull (hdrops : DropsNull names items items') (links : Mapping String) :
    linksOfAll links items' = linksOfAll links items := by
  induction hdrops generalizing links with
  | here hname hnull =>
    obtain ⟨hkeeps, hitems⟩ := keepsFields_filter hname hnull
    rw [linksOfAll, linksOfAll, linksOf, linksOf, linksBelow_eq, linksBelow_eq,
      linkIn_of_keepsFields hkeeps, hkeeps.check, hitems]
  | @inside fields rest items items' hchildren _ ih =>
    obtain ⟨hkeeps, hitems, hitems'⟩ := keepsFields_insertEntry names hchildren items'
    rw [linksOfAll, linksOfAll, linksOf, linksOf, linksBelow_eq, linksBelow_eq,
      linkIn_of_keepsFields hkeeps, hkeeps.check, hitems, hitems', ih]
  | later _ ih =>
    rw [linksOfAll, linksOfAll]
    exact congrArg _ (funext ih)

/-- Null fields of the names are taken away from objects in a list, at any depth. -/
def DropsNulls (names : List String) : List Json → List Json → Prop :=
  Relation.ReflTransGen (DropsNull names)

theorem treesOf_of_dropsNulls (hid : "id" ∉ names) (hdrops : DropsNulls names items items') :
    (treesOf items').map (Tree.mapForest (forget names)) =
      (treesOf items).map (Tree.mapForest (forget names)) := by
  induction hdrops with
  | refl => rfl
  | tail _ hstep ih => rw [treesOf_of_dropsNull hid hstep, ih]

theorem linksOfAll_of_dropsNulls (hdrops : DropsNulls names items items') (links : Mapping String) :
    linksOfAll links items' = linksOfAll links items := by
  induction hdrops with
  | refl => rfl
  | tail _ hstep ih => rw [linksOfAll_of_dropsNull hstep, ih]

section Documents

variable {document document' : Json} {selection selection' library library' : List Json}

theorem ofDocument_map (f : Layer → Layer) (hcarries : Carries document selection library) :
    (Snapshot.ofDocument document).map (Snapshot.mapLayers f) = (do
      let setLinks ← linksOfAll .empty (selection ++ library)
      let roots ← (treesOf selection).map (Tree.mapForest f)
      let further ← (treesOf library).map (Tree.mapForest f)
      return { selection := roots, library := further, setLinks }) := by
  rw [ofDocument_of_carries hcarries]
  cases linksOfAll .empty (selection ++ library) with
  | error _ => rfl
  | ok _ =>
    cases treesOf selection with
    | error _ => rfl
    | ok _ => cases treesOf library <;> rfl

theorem ofDocument_forget (hid : "id" ∉ names) (hcarries : Carries document selection library)
    (hcarries' : Carries document' selection' library')
    (hselection : DropsNulls names selection selection')
    (hlibrary : DropsNulls names library library') :
    (Snapshot.ofDocument document').map (Snapshot.mapLayers (forget names)) =
      (Snapshot.ofDocument document).map (Snapshot.mapLayers (forget names)) := by
  have hlinks :
      linksOfAll .empty (selection' ++ library') = linksOfAll .empty (selection ++ library) := by
    rw [linksOfAll_append, linksOfAll_append, linksOfAll_of_dropsNulls hselection]
    exact congrArg _ (funext (linksOfAll_of_dropsNulls hlibrary))
  rw [ofDocument_map _ hcarries, ofDocument_map _ hcarries', hlinks,
    treesOf_of_dropsNulls hid hselection, treesOf_of_dropsNulls hid hlibrary]

theorem map_eq_of_forget {α : Type} {read : Snapshot → α}
    (hread : ∀ s : Snapshot, read (s.mapLayers (forget names)) = read s)
    (hforget : (Snapshot.ofDocument document').map (Snapshot.mapLayers (forget names)) =
      (Snapshot.ofDocument document).map (Snapshot.mapLayers (forget names))) :
    (Snapshot.ofDocument document').map read = (Snapshot.ofDocument document).map read := by
  have hmap : ∀ d, (Snapshot.ofDocument d).map read =
      ((Snapshot.ofDocument d).map (Snapshot.mapLayers (forget names))).map read := by
    intro d
    cases Snapshot.ofDocument d with
    | error _ => rfl
    | ok s => exact congrArg Except.ok (hread s).symm
  rw [hmap, hmap, hforget]

/-- A null type, name, visibility or text is lost where it is taken away, and nothing else is.  No
null field matters to defaults, none but a null name to main components, and none but a null name,
visibility or text to the markup. -/
theorem ofDocument_of_dropsNulls (hnames : names ⊆ optionalFields)
    (hcarries : Carries document selection library) (hcarries' : Carries document' selection' library')
    (hselection : DropsNulls names selection selection')
    (hlibrary : DropsNulls names library library') :
    (Snapshot.ofDocument document').map (Snapshot.mapLayers (forget names)) =
        (Snapshot.ofDocument document).map (Snapshot.mapLayers (forget names)) ∧
      ("type" ∉ names → "name" ∉ names → "visible" ∉ names → "characters" ∉ names →
        Snapshot.ofDocument document' = Snapshot.ofDocument document) ∧
      ("name" ∉ names → "visible" ∉ names → "characters" ∉ names → ∀ config start,
        (Snapshot.markupOf config document' start).1 = (Snapshot.markupOf config document start).1) ∧
      ("name" ∉ names → (Snapshot.ofDocument document').map Snapshot.mainComponent =
        (Snapshot.ofDocument document).map Snapshot.mainComponent) ∧
      (Snapshot.ofDocument document').map Snapshot.defaults =
        (Snapshot.ofDocument document).map Snapshot.defaults := by
  have hid : "id" ∉ names := fun hmem => absurd (hnames hmem) (by decide)
  have hforget := ofDocument_forget hid hcarries hcarries' hselection hlibrary
  have hdefaults : KeepsDefaults (forget names) := ⟨fun _ => rfl, fun _ => rfl, fun _ => rfl⟩
  have hmains : "name" ∉ names → KeepsMains (forget names) := fun hname =>
    ⟨fun _ => rfl, fun _ => if_neg hname, fun _ => rfl⟩
  refine ⟨hforget, fun htype hname hvisible hcharacters => ?_, fun hname hvisible hcharacters => ?_,
    fun hname => ?_, ?_⟩
  · have hlayer : ∀ layer, forget names layer = layer := fun layer => by
      rw [forget, if_neg htype, if_neg hname, if_neg hvisible, if_neg hcharacters]
    have hread : ∀ s : Snapshot, id (s.mapLayers (forget names)) = id s :=
      Snapshot.mapLayers_of_fixed hlayer
    have hsame := map_eq_of_forget hread hforget
    rwa [Except.map_id] at hsame
  · have helements : KeepsElements (forget names) :=
      ⟨fun _ => rfl, fun _ => if_neg hname, fun _ => rfl, fun _ => if_neg hvisible,
        fun _ => if_neg hcharacters, fun _ => rfl, fun _ => rfl⟩
    exact Snapshot.markupOf_congr
      (map_eq_of_forget (Snapshot.rendered_mapLayers hdefaults (hmains hname) helements) hforget)
  · exact map_eq_of_forget (Snapshot.mainComponent_mapLayers (hmains hname)) hforget
  · exact map_eq_of_forget (Snapshot.defaults_mapLayers hdefaults) hforget

end Documents

section Covers

/-- An occurrence that is neither locked nor unlocked, with a layer of no type in it. -/
def nullCover : Fields :=
  [("id", .string "1"), ("name", .string "UCover"), ("type", .string "INSTANCE"),
    ("locked", .null), ("componentProperties", .object [("tone", .string "red")]),
    ("children", .array [.object [("id", .string "2"), ("name", .string "Note"), ("type", .null)]])]

/-- The occurrence without its null fields. -/
def plainCover : Fields :=
  [("id", .string "1"), ("name", .string "UCover"), ("type", .string "INSTANCE"),
    ("componentProperties", .object [("tone", .string "red")]),
    ("children", .array [.object [("id", .string "2"), ("name", .string "Note")]])]

theorem dropsNulls_cover : DropsNulls ["locked", "type"] [.object nullCover] [.object plainCover] := by
  have hlocked : DropsNull ["locked", "type"] [.object nullCover]
      [.object (nullCover.filter (·.1 ≠ "locked"))] := .here (by decide) rfl
  have htype : DropsNull ["locked", "type"] [.object (nullCover.filter (·.1 ≠ "locked"))]
      [.object plainCover] := .inside rfl (.here (.tail _ (.head _)) rfl)
  exact .tail (.single hlocked) htype

theorem ofDocument_of_dropsNulls_cover :
    ["locked", "type"] ⊆ optionalFields ∧ Carries (.object nullCover) [.object nullCover] [] ∧
      Carries (.object plainCover) [.object plainCover] [] ∧
      DropsNulls ["locked", "type"] [.object nullCover] [.object plainCover] ∧
      DropsNulls ["locked", "type"] [] [] ∧
      (Snapshot.markupOf {} (.object nullCover) none).1.toOption = some "<Ucover tone=\"red\" />" ∧
      (Snapshot.markupOf {} (.object plainCover) none).1 =
        (Snapshot.markupOf {} (.object nullCover) none).1 := by
  have hnames : ["locked", "type"] ⊆ optionalFields := by decide
  have hcarries : Carries (.object nullCover) [.object nullCover] [] :=
    .bare rfl rfl rfl (.inr ⟨rfl, rfl⟩)
  have hcarries' : Carries (.object plainCover) [.object plainCover] [] :=
    .bare rfl rfl rfl (.inr ⟨rfl, rfl⟩)
  have hmarkup : (Snapshot.markupOf {} (.object nullCover) none).1.toOption =
      some "<Ucover tone=\"red\" />" := by
    rw [Snapshot.markupOf_fst]
    decide +kernel
  obtain ⟨-, -, hsame, -⟩ := ofDocument_of_dropsNulls hnames hcarries hcarries' dropsNulls_cover .refl
  exact ⟨hnames, hcarries, hcarries', dropsNulls_cover, .refl, hmarkup,
    hsame (by decide) (by decide) (by decide) {} none⟩

/-- What a document says about the first of its selected layers. -/
def firstLayer (document : Json) : Option (String × Bool × Option String × String) :=
  (Snapshot.ofDocument document).toOption.bind fun s => s.selection.head?.map fun t =>
    (t.value.name, t.value.visible, t.value.characters, t.value.hostType)

/-- A layer with a null field. -/
def nullLayer (name : String) : Fields := [("id", .string "1"), (name, .null)]

/-- A null type, name, visibility or text is not the same as none, and a layer of null visibility is
missing in the markup. -/
theorem null_ne_absent :
    (∀ name ∈ ["type", "name", "visible", "characters"],
      DropsNulls optionalFields [.object (nullLayer name)]
        [.object ((nullLayer name).filter (·.1 ≠ name))] ∧
        firstLayer (.object (nullLayer name)) ≠
          firstLayer (.object ((nullLayer name).filter (·.1 ≠ name)))) ∧
      (Snapshot.markupOf {} (.object [("name", .string "UCover"), ("type", .string "COMPONENT"),
        ("visible", .null)]) none).1.toOption = some "" ∧
      (Snapshot.markupOf {} (.object [("name", .string "UCover"), ("type", .string "COMPONENT")])
        none).1.toOption = some "<Ucover />" := by
  refine ⟨fun name hname => ⟨.single ?_, ?_⟩, ?_, ?_⟩
  · have hoptional : name ∈ optionalFields ∧ name ≠ "id" := by
      revert name
      decide
    refine .here hoptional.1 ?_
    rw [nullLayer, Json.lookup, if_neg hoptional.2.symm, Json.lookup, if_pos rfl]
  · simp only [List.mem_cons, List.not_mem_nil, or_false] at hname
    rcases hname with rfl | rfl | rfl | rfl <;> decide +kernel
  · rw [Snapshot.markupOf_fst]
    decide +kernel
  · rw [Snapshot.markupOf_fst]
    decide +kernel

end Covers

end Document

end LayerMarkup
