import LayerMarkup.Proofs.Mapping
import LayerMarkup.Proofs.Snapshot.Outline
import LayerMarkup.Proofs.Tree.Keys

/-!
# Layers and links of a document

What becomes of the objects that a list of values describes, when they are taken for layers and when
the links from variants to sets are collected from them.

* `treesOf_eq_ok_iff` — a list of values gives layers if and only if it is well formed, and then a
  forest of the same shape, with every layer read from its own fields.
* `linksOfAll_eq` — the links are collected in the order of the objects, whatever the earlier ones
  were, and so is what is refused on the way.
-/

namespace LayerMarkup

namespace Document

section Except

variable {ε α β : Type}

theorem bind_eq_ok_iff {x : Except ε α} {f : α → Except ε β} {b : β} :
    x >>= f = .ok b ↔ ∃ a, x = .ok a ∧ f a = .ok b := by
  cases x with
  | error e => simp [bind, Except.bind]
  | ok a => simp [bind, Except.bind]

end Except

variable {name operation : String} {fields : Fields}

/-- Fields are refused if and only if something else than fields stands in their place. -/
theorem fieldsOf_eq_ok_iff {entries : Fields} :
    fieldsOf (Json.lookup name fields) operation = .ok entries ↔
      holdsFields name fields = true ∧ entriesIn name fields = entries := by
  unfold fieldsOf holdsFields entriesIn present
  cases (Json.lookup name fields).bind Json.nonEmpty? with
  | none => simp
  | some value => cases value <;> simp

/-- The layer that the fields of an object describe, whatever has the wrong form being left out. -/
def layerIn (fields : Fields) : Layer where
  id := idIn fields
  name := nameIn fields
  kind := kindIn fields
  visible := switchField "visible" fields true
  locked := switchField "locked" fields false
  characters := (Json.lookup "characters" fields).map Json.display
  definitions := .ofList ((entriesIn "componentPropertyDefinitions" fields).filterMap definition?)
  properties := .ofList ((entriesIn "componentProperties" fields).map fun entry =>
    (entry.1, (plain (currentValue entry.2)).toJson))
  variants := .ofList ((entriesIn "variantProperties" fields).map fun entry =>
    (entry.1, .string entry.2.display))
  mainComponentId := mainIdIn fields
  hostType := textField "type" fields

theorem layerOf_eq_ok_iff {layer : Layer} :
    layerOf fields = .ok layer ↔ HasLayer fields ∧ layerIn fields = layer := by
  unfold layerOf
  simp only [bind_eq_ok_iff, fieldsOf_eq_ok_iff]
  cases hid : present "componentId" fields with
  | none =>
    have hnone : (Json.lookup "componentId" fields).bind Json.nonEmpty? = none := hid
    have hmain : mainIdIn fields =
        ((Json.lookup "id" (entriesIn "mainComponent" fields)).bind Json.nonEmpty?).map
          Json.display := by
      rw [mainIdIn, hid, Option.none_or, present]
    simp only [hnone, bind_eq_ok_iff, fieldsOf_eq_ok_iff]
    constructor
    · rintro ⟨_, ⟨hdefinitions, rfl⟩, _, ⟨hproperties, rfl⟩, _, ⟨hvariants, rfl⟩, _, ⟨hfields, rfl⟩, _,
        hread, hlayer⟩
      cases hread
      cases hlayer
      exact ⟨⟨hdefinitions, hproperties, hvariants, fun _ => hfields⟩, by rw [layerIn, hmain]; rfl⟩
    · rintro ⟨⟨hdefinitions, hproperties, hvariants, hfields⟩, rfl⟩
      refine ⟨_, ⟨hdefinitions, rfl⟩, _, ⟨hproperties, rfl⟩, _, ⟨hvariants, rfl⟩, _, ⟨hfields hid, rfl⟩,
        _, rfl, ?_⟩
      rw [layerIn, hmain]
      rfl
  | some id =>
    have hsome : (Json.lookup "componentId" fields).bind Json.nonEmpty? = some id := hid
    have hmain : mainIdIn fields = some id.display := by rw [mainIdIn, hid]; rfl
    simp only [hsome]
    constructor
    · rintro ⟨_, ⟨hdefinitions, rfl⟩, _, ⟨hproperties, rfl⟩, _, ⟨hvariants, rfl⟩, hlayer⟩
      cases hlayer
      exact ⟨⟨hdefinitions, hproperties, hvariants, fun hnone => nomatch hid.symm.trans hnone⟩,
        by rw [layerIn, hmain]; rfl⟩
    · rintro ⟨⟨hdefinitions, hproperties, hvariants, -⟩, rfl⟩
      refine ⟨_, ⟨hdefinitions, rfl⟩, _, ⟨hproperties, rfl⟩, _, ⟨hvariants, rfl⟩, ?_⟩
      rw [layerIn, hmain]
      rfl

/-- What is refused about a value that stands for the children of an object. -/
def checkItems : Option Json → Except DocumentError Unit
  | none | some (.array _) => .ok ()
  | some other => childrenError other

theorem checkItems_eq_ok_iff :
    checkItems (Json.lookup "children" fields) = .ok () ↔ holdsItems fields = true := by
  unfold holdsItems present
  cases Json.lookup "children" fields with
  | none => simp [checkItems]
  | some value =>
    have hempty : (some value).bind Json.nonEmpty? = if value.isEmpty then none else some value := rfl
    rw [hempty]
    by_cases hvalue : value.isEmpty = true
    · cases value <;> simp [checkItems, childrenError, hvalue]
    · cases value <;> simp [checkItems, childrenError, hvalue]

theorem childrenIn_eq (fields : Fields) :
    childrenIn fields =
      checkItems (Json.lookup "children" fields) >>= fun _ => treesOf (childItems fields) := by
  refine eq_of_lookup (fun value => checkItems value >>= fun _ => treesOf (itemsOf value)) rfl
    (fun value rest => ?_) (fun key value rest hkey => ?_) fields
  · cases value <;> exact if_pos rfl
  · cases value <;> exact if_neg hkey

theorem linksBelow_eq (links : Mapping String) (fields : Fields) :
    linksBelow links fields =
      checkItems (Json.lookup "children" fields) >>= fun _ => linksOfAll links (childItems fields) := by
  refine eq_of_lookup (fun value => checkItems value >>= fun _ => linksOfAll links (itemsOf value)) rfl
    (fun value rest => ?_) (fun key value rest hkey => ?_) fields
  · cases value <;> exact if_pos rfl
  · cases value <;> exact if_neg hkey

theorem treeOf_object (fields : Fields) :
    treeOf (.object fields) = (do
      let layer ← layerOf fields
      checkItems (Json.lookup "children" fields)
      let children ← treesOf (childItems fields)
      return .node layer children) := by
  rw [treeOf, childrenIn_eq]
  cases layerOf fields with
  | error e => rfl
  | ok layer => cases checkItems (Json.lookup "children" fields) <;> rfl

theorem treeOf_object_eq_ok_iff {tree : Tree Layer} :
    treeOf (.object fields) = .ok tree ↔
      HasLayer fields ∧ holdsItems fields = true ∧
        ∃ children, treesOf (childItems fields) = .ok children ∧
          .node (layerIn fields) children = tree := by
  rw [treeOf_object]
  simp only [bind_eq_ok_iff, layerOf_eq_ok_iff]
  constructor
  · rintro ⟨_, ⟨hlayer, rfl⟩, ⟨⟩, hitems, children, hchildren, htree⟩
    cases htree
    exact ⟨hlayer, checkItems_eq_ok_iff.mp hitems, children, hchildren, rfl⟩
  · rintro ⟨hlayer, hitems, children, hchildren, rfl⟩
    exact ⟨_, ⟨hlayer, rfl⟩, (), checkItems_eq_ok_iff.mpr hitems, children, hchildren, rfl⟩

theorem treesOf_cons_eq_ok_iff {item : Json} {rest : List Json} {trees : List (Tree Layer)} :
    treesOf (item :: rest) = .ok trees ↔
      ∃ tree more, treeOf item = .ok tree ∧ treesOf rest = .ok more ∧ tree :: more = trees := by
  rw [treesOf]
  simp only [bind_eq_ok_iff]
  constructor
  · rintro ⟨tree, htree, more, hmore, hall⟩
    cases hall
    exact ⟨tree, more, htree, hmore, rfl⟩
  · rintro ⟨tree, more, htree, hmore, rfl⟩
    exact ⟨tree, htree, more, hmore, rfl⟩

theorem treesOf_append (items others : List Json) :
    treesOf (items ++ others) = (do
      let trees ← treesOf items
      let more ← treesOf others
      return trees ++ more) := by
  induction items with
  | nil => cases hothers : treesOf others <;> simp [treesOf, hothers]
  | cons item rest ih =>
    rw [List.cons_append, treesOf, treesOf, ih]
    cases treeOf item with
    | error e => rfl
    | ok tree =>
      cases treesOf rest with
      | error e => rfl
      | ok trees => cases treesOf others <;> rfl

/-- A list of values is taken for layers if and only if it is well formed.  The layers stand as the
objects do, and each is read from the fields of its own object. -/
theorem treesOf_eq_ok_iff {items : List Json} {trees : List (Tree Layer)} :
    treesOf items = .ok trees ↔
      WellFormed items ∧ Tree.mapForest layerIn (outlineAll items) = trees := by
  induction items using items_induction generalizing trees with
  | step items ih =>
    induction items generalizing trees with
    | nil => simp [treesOf, outlineAll, Tree.mapForest, wellFormed_nil, pure, Except.pure]
    | cons item rest ihrest =>
      have hrest : ∀ {trees}, treesOf rest = .ok trees ↔ _ :=
        ihrest fun fields hmem => ih fields (List.mem_cons_of_mem _ hmem)
      rw [treesOf_cons_eq_ok_iff]
      cases item with
      | object fields =>
        have hbelow : ∀ {trees}, treesOf (childItems fields) = .ok trees ↔ _ :=
          ih fields List.mem_cons_self
        rw [wellFormed_object_cons_iff, outlineAll, outline_object]
        constructor
        · rintro ⟨_, _, htree, hmore, rfl⟩
          obtain ⟨hlayer, hitems, children, hchildren, rfl⟩ := treeOf_object_eq_ok_iff.mp htree
          obtain ⟨hwell, rfl⟩ := hbelow.mp hchildren
          obtain ⟨hwellRest, rfl⟩ := hrest.mp hmore
          exact ⟨⟨⟨hlayer, hitems, hwell.roots⟩, hwell, hwellRest⟩, rfl⟩
        · rintro ⟨⟨hnode, hwell, hwellRest⟩, rfl⟩
          have hchildren := hbelow.mpr ⟨hwell, rfl⟩
          have htree := treeOf_object_eq_ok_iff.mpr
            ⟨hnode.toHasLayer, hnode.children, _, hchildren, rfl⟩
          exact ⟨_, _, htree, hrest.mpr ⟨hwellRest, rfl⟩, rfl⟩
      | null | bool _ | int _ | double _ | string _ | array _ =>
        constructor
        · rintro ⟨_, _, htree, -, -⟩
          cases htree
        · rintro ⟨hwell, -⟩
          cases hwell.roots _ List.mem_cons_self

theorem treesOf_of_wellFormed {items : List Json} (hwell : WellFormed items) :
    treesOf items = .ok (Tree.mapForest layerIn (outlineAll items)) :=
  treesOf_eq_ok_iff.mpr ⟨hwell, rfl⟩

/-- The link from a variant to its set that the fields of an object tell. -/
def link? (fields : Fields) : Option (String × String) :=
  match setIdIn fields, present "id" fields with
  | some set, some id => some (id.display, set)
  | _, _ => none

/-- An object has a link if it names a set and its id is not empty. -/
theorem link?_eq_some_iff {entry : String × String} :
    link? fields = some entry ↔
      (present "id" fields).isSome = true ∧ idIn fields = entry.1 ∧ setIdIn fields = some entry.2 := by
  unfold link?
  cases hid : present "id" fields with
  | none => cases setIdIn fields <;> simp
  | some value =>
    have htext : idIn fields = value.display := by
      rw [idIn, textField, (present_eq_some_iff.mp hid).1]
      rfl
    rw [htext]
    cases setIdIn fields <;> simp [Prod.ext_iff]

/-- The links that a list of values tells, in the order of the objects. -/
def linkEntries (items : List Json) : List (String × String) := (nodes items).filterMap link?

/-- What is refused about a list of values when links are collected from it. -/
def checkLinks (items : List Json) : Except DocumentError Unit :=
  (linksOfAll .empty items).map fun _ => ()

theorem linkIn_eq (fields : Fields) (links : Mapping String) :
    linkIn fields links =
      (link? fields).toList.foldl (fun m entry => m.insert entry.1 entry.2) links := by
  unfold linkIn link? setIdIn present
  cases (Json.lookup "componentSetId" fields).bind Json.nonEmpty? with
  | none => rfl
  | some set => cases (Json.lookup "id" fields).bind Json.nonEmpty? <;> rfl

theorem linkEntries_append (items others : List Json) :
    linkEntries (items ++ others) = linkEntries items ++ linkEntries others := by
  rw [linkEntries, nodes_append, List.filterMap_append]
  rfl

/-- The links of a list of values that begins with an object: its own, those of its children, and
those of the other values. -/
theorem linkEntries_object_cons (fields : Fields) (rest : List Json) :
    linkEntries (.object fields :: rest) =
      (link? fields).toList ++ linkEntries (childItems fields) ++ linkEntries rest := by
  rw [linkEntries, nodes_object_cons, ← List.singleton_append, List.filterMap_append,
    List.filterMap_append, List.append_assoc, List.filterMap_cons]
  cases link? fields <;> rfl

/-- The links are laid over the earlier ones in the order of the objects.  Whether something is
refused on the way does not depend on the earlier links. -/
theorem linksOfAll_eq (links : Mapping String) (items : List Json) :
    linksOfAll links items = (checkLinks items).map fun _ =>
      (linkEntries items).foldl (fun m entry => m.insert entry.1 entry.2) links := by
  induction items using items_induction generalizing links with
  | step items ih =>
    induction items generalizing links with
    | nil => rfl
    | cons item rest ihrest =>
      have hrest := ihrest fun fields hmem => ih fields (List.mem_cons_of_mem _ hmem)
      cases item with
      | object fields =>
        have hbelow := ih fields List.mem_cons_self
        have hparts : ∀ links, linksOfAll links (.object fields :: rest) = (do
            checkItems (Json.lookup "children" fields)
            checkLinks (childItems fields)
            checkLinks rest
            return (linkEntries (.object fields :: rest)).foldl
              (fun m entry => m.insert entry.1 entry.2)
              links) := by
          intro links
          rw [linksOfAll, linksOf, linksBelow_eq, linkEntries_object_cons, List.foldl_append,
            List.foldl_append, ← linkIn_eq]
          cases checkItems (Json.lookup "children" fields) with
          | error e => rfl
          | ok _ =>
            show linksOfAll (linkIn fields links) (childItems fields) >>= (linksOfAll · rest) = _
            rw [hbelow]
            cases checkLinks (childItems fields) with
            | error e => rfl
            | ok _ =>
              show linksOfAll _ rest = _
              rw [hrest]
              cases checkLinks rest <;> rfl
        rw [checkLinks, hparts, hparts]
        cases checkItems (Json.lookup "children" fields) with
        | error e => rfl
        | ok _ =>
          cases checkLinks (childItems fields) with
          | error e => rfl
          | ok _ => cases checkLinks rest <;> rfl
      | null | bool _ | int _ | double _ | string _ | array _ => rfl

theorem checkLinks_object_cons (fields : Fields) (rest : List Json) :
    checkLinks (.object fields :: rest) = (do
      checkItems (Json.lookup "children" fields)
      checkLinks (childItems fields)
      checkLinks rest) := by
  rw [checkLinks, linksOfAll, linksOf, linksBelow_eq]
  cases checkItems (Json.lookup "children" fields) with
  | error e => rfl
  | ok _ =>
    show Except.map _ (linksOfAll _ (childItems fields) >>= (linksOfAll · rest)) = _
    rw [linksOfAll_eq]
    cases checkLinks (childItems fields) with
    | error e => rfl
    | ok _ =>
      show Except.map _ (linksOfAll _ rest) = checkLinks rest
      rw [linksOfAll_eq]
      cases checkLinks rest <;> rfl

theorem linksOfAll_append (links : Mapping String) (items others : List Json) :
    linksOfAll links (items ++ others) = linksOfAll links items >>= (linksOfAll · others) := by
  induction items generalizing links with
  | nil => rfl
  | cons item rest ih =>
    rw [List.cons_append, linksOfAll, linksOfAll, bind_assoc]
    exact congrArg _ (funext ih)

theorem checkLinks_append (items others : List Json) :
    checkLinks (items ++ others) = checkLinks items >>= fun _ => checkLinks others := by
  rw [checkLinks, linksOfAll_append, linksOfAll_eq]
  cases checkLinks items with
  | error e => rfl
  | ok _ =>
    show Except.map _ (linksOfAll _ others) = checkLinks others
    rw [linksOfAll_eq]
    cases checkLinks others <;> rfl

/-- Nothing is refused about well-formed values when links are collected from them. -/
theorem checkLinks_of_wellFormed {items : List Json} (hwell : WellFormed items) :
    checkLinks items = .ok () := by
  induction items using items_induction with
  | step items ih =>
    induction items with
    | nil => rfl
    | cons item rest ihrest =>
      cases item with
      | object fields =>
        obtain ⟨hnode, hbelow, hrest⟩ := wellFormed_object_cons_iff.mp hwell
        rw [checkLinks_object_cons, checkItems_eq_ok_iff.mpr hnode.children,
          ih fields List.mem_cons_self hbelow,
          ihrest (fun fields hmem => ih fields (List.mem_cons_of_mem _ hmem)) hrest]
        rfl
      | null | bool _ | int _ | double _ | string _ | array _ =>
        cases hwell.roots _ List.mem_cons_self

end Document

end LayerMarkup
