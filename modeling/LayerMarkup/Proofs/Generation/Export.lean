import LayerMarkup.Proofs.Classification.Shape
import LayerMarkup.Proofs.Tree.Keys

/-!
# Exports of generations

An export and the markup of one request come from the same elements, and the export tells all of
them: forests whose exports are the same are the same, at every node and in every part of it
(`Generator.generateExport_lossless`).  Values may also be taken to be the same when only the order
of their fields differs; then exports are the same exactly if the forests are the same but for the
order of properties.

* `Json.Same` — two values are the same, the order of fields aside.
* `Element.IsExport` — what the fields of an exported element are, by name.
* `Element.IsComparison` — what a way to compare values must do for the comparison of exports to
  tell forests apart.
* `IsComparison.matches_of_exportForest` — the forests behind two exports that compare as equal.
* `Alike.sameFields` — the fields of elements that differ in the order of properties alone.
-/

namespace LayerMarkup

namespace Json

/-- Two values are the same, the order of the fields of objects aside. -/
inductive Same : Json → Json → Prop
  | null : Same .null .null
  | bool (b : Bool) : Same (.bool b) (.bool b)
  | int (n : Int) : Same (.int n) (.int n)
  | double (bits : UInt64) : Same (.double bits) (.double bits)
  | string (s : String) : Same (.string s) (.string s)
  | array {items others : List Json} (hitems : List.Forall₂ Same items others) :
      Same (.array items) (.array others)
  | object {fields others : List (String × Json)}
      (hfields : ∀ name, Option.Rel Same (lookup name fields) (lookup name others)) :
      Same (.object fields) (.object others)

theorem lookup_append (name : String) (fields others : List (String × Json)) :
    lookup name (fields ++ others) = (lookup name fields).or (lookup name others) := by
  induction fields with
  | nil => rfl
  | cons field rest ih =>
    obtain ⟨key, value⟩ := field
    rw [List.cons_append, lookup, lookup]
    split
    · rfl
    · exact ih

/-- A value that holds no other values. -/
def isLeaf : Json → Bool
  | .array _ | .object _ => false
  | _ => true

theorem Same.of_leaf {a : Json} (hleaf : a.isLeaf = true) : Same a a := by
  cases a with
  | null => exact .null
  | bool b => exact .bool b
  | int n => exact .int n
  | double bits => exact .double bits
  | string s => exact .string s
  | array | object => cases hleaf

theorem Same.eq_of_leaf {a b : Json} (hsame : Same a b) (hleaf : a.isLeaf = true) : a = b := by
  cases hsame with
  | array | object => cases hleaf
  | null | bool | int | double | string => rfl

/-- Two fields have the same name and the same value. -/
def SameField (field other : String × Json) : Prop := field.1 = other.1 ∧ Same field.2 other.2

/-- Objects whose fields are the same one by one are the same. -/
theorem same_object {fields others : List (String × Json)}
    (hfields : List.Forall₂ SameField fields others) : Same (.object fields) (.object others) := by
  refine .object fun name => ?_
  induction hfields with
  | nil => exact .none
  | @cons field other _ _ hfirst _ ih =>
    obtain ⟨key, value⟩ := field
    obtain ⟨key', value'⟩ := other
    obtain ⟨rfl, hvalue⟩ := hfirst
    rw [lookup, lookup]
    split
    · exact .some hvalue
    · exact ih

end Json

/-- Two mappings hold the same, the order of their keys aside. -/
def Mapping.SameEntries {α : Type} (m n : Mapping α) : Prop := ∀ key, m.get? key = n.get? key

/-- The word for a kind tells the kind. -/
theorem LayerKind.word_injective {k l : LayerKind} (hword : k.word = l.word) : k = l := by
  have hread : ∀ kind : LayerKind, ofWord? kind.word = some kind := by
    intro kind
    cases kind <;> decide
  exact Option.some.inj ((hread k).symm.trans ((congrArg ofWord? hword).trans (hread l)))

/-- The word for a part tells the part. -/
theorem DataType.word_injective {c d : DataType} (hword : c.word = d.word) : c = d := by
  have hread : ∀ part : DataType, ofWord? part.word = some part := by
    intro part
    cases part <;> decide
  exact Option.some.inj ((hread c).symm.trans ((congrArg ofWord? hword).trans (hread d)))

theorem PropertyValue.toJson_injective {v w : PropertyValue} (hsame : v.toJson = w.toJson) : v = w := by
  cases v <;> cases w <;> cases hsame <;> rfl

namespace Element

variable {e e' : Element} {items items' : List Json} {fields fields' : List (String × Json)}
  {R : Json → Json → Prop} {M : Mapping PropertyValue → Mapping PropertyValue → Prop}

theorem lookup_optionalField (name key : String) (value : Option Json) :
    Json.lookup name (optionalField key value) = if key = name then value else none := by
  cases value with
  | none => rw [optionalField, Json.lookup, ite_self]
  | some value => rfl

/-- What the fields of an exported element are, by name. -/
structure IsExport (e : Element) (children : List Json) (fields : List (String × Json)) : Prop where
  id : Json.lookup "id" fields = some (.string e.id)
  name : Json.lookup "name" fields = some (.string e.name)
  kind : Json.lookup "type" fields = some (.string e.kind.word)
  dataType : Json.lookup "dataType" fields = some ((e.dataType.map fun d => .string d.word).getD .null)
  visible : Json.lookup "visible" fields = some (.bool e.visible)
  text : Json.lookup "text" fields = e.text.map .string
  properties : Json.lookup "properties" fields = e.properties.map exportMapping
  variants : Json.lookup "variantProperties" fields = e.variants.map exportMapping
  children : Json.lookup "children" fields = some (.array children)

theorem isExport (e : Element) (children : List Json) :
    IsExport e children (e.exportFields ++ [("children", .array children)]) := by
  constructor <;> simp [exportFields, Json.lookup_append, lookup_optionalField, Json.lookup]

/-- Two elements are the same, their mappings being compared in a way of their own. -/
structure Alike (M : Mapping PropertyValue → Mapping PropertyValue → Prop) (e e' : Element) : Prop where
  id : e.id = e'.id
  name : e.name = e'.name
  kind : e.kind = e'.kind
  dataType : e.dataType = e'.dataType
  visible : e.visible = e'.visible
  text : e.text = e'.text
  properties : Option.Rel M e.properties e'.properties
  variants : Option.Rel M e.variants e'.variants

/-- A way to compare values that compares arrays item by item, objects name by name, and all other
values as they are.  Exported mappings are compared by it as `M` does. -/
structure IsComparison (R : Json → Json → Prop)
    (M : Mapping PropertyValue → Mapping PropertyValue → Prop) : Prop where
  leaf {a b : Json} : R a b → a.isLeaf = true → a = b
  array {items : List Json} {b : Json} : R (.array items) b →
    ∃ others, b = .array others ∧ List.Forall₂ R items others
  object {fields : List (String × Json)} {b : Json} : R (.object fields) b →
    ∃ others, b = .object others ∧
      ∀ name, Option.Rel R (Json.lookup name fields) (Json.lookup name others)
  mapping {m n : Mapping PropertyValue} : R (exportMapping m) (exportMapping n) → M m n

theorem eq_of_exported_dataType {x y : Option DataType}
    (hsame : (x.map fun d => Json.string d.word).getD .null =
      (y.map fun d => .string d.word).getD .null) :
    x = y := by
  cases x with
  | none =>
    cases y with
    | none => rfl
    | some d => cases hsame
  | some c =>
    cases y with
    | none => cases hsame
    | some d => rw [DataType.word_injective (Json.string.inj hsame)]

theorem rel_of_rel_map {α : Type} {S : α → α → Prop} {f : α → Json} {x y : Option α}
    (hread : ∀ a b, R (f a) (f b) → S a b) (hrel : Option.Rel R (x.map f) (y.map f)) :
    Option.Rel S x y := by
  cases x with
  | none =>
    cases y with
    | none => exact .none
    | some b => cases hrel
  | some a =>
    cases y with
    | none => cases hrel
    | some b =>
      cases hrel with
      | some hvalue => exact .some (hread a b hvalue)

theorem eq_of_rel_eq {α : Type} {x y : Option α} (hrel : Option.Rel Eq x y) : x = y := by
  cases hrel with
  | none => rfl
  | some hsame => rw [hsame]

/-- A forest of one tree is exported as the tree alone, and any other as an array. -/
theorem exportForest_cases (forest : List (Tree Element)) :
    (∃ t, forest = [t] ∧ exportForest forest = t.toJson) ∨
      exportForest forest = .array (forest.map Tree.toJson) := by
  match forest with
  | [t] => exact .inl ⟨t, rfl, rfl⟩
  | [] => exact .inr rfl
  | t :: u :: rest =>
    refine .inr ?_
    rw [← Tree.forestToJson_eq_map]
    rfl

section Comparison

variable (hR : IsComparison R M)

include hR

theorem IsComparison.eq_of_leaf {a b : Json} (hrel : Option.Rel R (some a) (some b))
    (hleaf : a.isLeaf = true) : a = b := by
  cases hrel with
  | some hsame => exact hR.leaf hsame hleaf

/-- Exported elements that compare as equal are alike, and their children compare as equal. -/
theorem IsComparison.alike (hexport : IsExport e items fields) (hexport' : IsExport e' items' fields')
    (hfields : ∀ name, Option.Rel R (Json.lookup name fields) (Json.lookup name fields')) :
    Alike M e e' ∧ List.Forall₂ R items items' := by
  have hid := hfields "id"
  have hname := hfields "name"
  have hkind := hfields "type"
  have hdataType := hfields "dataType"
  have hvisible := hfields "visible"
  have htext := hfields "text"
  have hproperties := hfields "properties"
  have hvariants := hfields "variantProperties"
  have hchildren := hfields "children"
  rw [hexport.id, hexport'.id] at hid
  rw [hexport.name, hexport'.name] at hname
  rw [hexport.kind, hexport'.kind] at hkind
  rw [hexport.dataType, hexport'.dataType] at hdataType
  rw [hexport.visible, hexport'.visible] at hvisible
  rw [hexport.text, hexport'.text] at htext
  rw [hexport.properties, hexport'.properties] at hproperties
  rw [hexport.variants, hexport'.variants] at hvariants
  rw [hexport.children, hexport'.children] at hchildren
  refine ⟨⟨?_, ?_, ?_, ?_, ?_, ?_, ?_, ?_⟩, ?_⟩
  · exact Json.string.inj (hR.eq_of_leaf hid rfl)
  · exact Json.string.inj (hR.eq_of_leaf hname rfl)
  · exact LayerKind.word_injective (Json.string.inj (hR.eq_of_leaf hkind rfl))
  · refine eq_of_exported_dataType (hR.eq_of_leaf hdataType ?_)
    cases e.dataType <;> rfl
  · exact Json.bool.inj (hR.eq_of_leaf hvisible rfl)
  · exact eq_of_rel_eq (rel_of_rel_map (fun _ _ hsame => Json.string.inj (hR.leaf hsame rfl)) htext)
  · exact rel_of_rel_map (fun _ _ => hR.mapping) hproperties
  · exact rel_of_rel_map (fun _ _ => hR.mapping) hvariants
  · cases hchildren with
    | some hsame =>
      obtain ⟨others, hothers, hitems⟩ := hR.array hsame
      cases hothers
      exact hitems

/-- Trees whose exports compare as equal have the same shape and elements that are alike. -/
theorem IsComparison.matches_of_toJson (t : Tree Element) : ∀ u : Tree Element, R t.toJson u.toJson →
    Tree.Matches (Alike M) t u := by
  induction t using Tree.induction with
  | step e cs ih =>
    rintro ⟨e', ds⟩ hsame
    obtain ⟨others, hothers, hfields⟩ := hR.object hsame
    cases hothers
    obtain ⟨halike, hitems⟩ := hR.alike (isExport e _) (isExport e' _) hfields
    refine .node halike ?_
    rw [Tree.forestToJson_eq_map, Tree.forestToJson_eq_map, List.forall₂_map_left_iff,
      List.forall₂_map_right_iff] at hitems
    -- What is known of the fields speaks of all children; the induction takes them one by one.
    clear hsame hfields
    induction hitems with
    | nil => exact .nil
    | cons hfirst _ ihrest =>
      exact .cons (ih _ List.mem_cons_self _ hfirst)
        (ihrest fun c hc => ih c (List.mem_cons_of_mem _ hc))

/-- Forests whose exports compare as equal have the same shape and elements that are alike. -/
theorem IsComparison.matches_of_exportForest {forest other : List (Tree Element)}
    (hsame : R (exportForest forest) (exportForest other)) :
    List.Forall₂ (Tree.Matches (Alike M)) forest other := by
  -- A single tree is exported as an object, and no object compares as equal to an array.
  rcases exportForest_cases forest with ⟨t, rfl, ht⟩ | hforest
  · rcases exportForest_cases other with ⟨u, rfl, hu⟩ | hother
    · rw [ht, hu] at hsame
      exact .cons (hR.matches_of_toJson t u hsame) .nil
    · obtain ⟨e, cs⟩ := t
      rw [ht, hother] at hsame
      obtain ⟨_, hobject, -⟩ := hR.object hsame
      cases hobject
  · rw [hforest] at hsame
    obtain ⟨_, harray, hitems⟩ := hR.array hsame
    rcases exportForest_cases other with ⟨⟨e', ds⟩, rfl, hu⟩ | hother
    · rw [hu] at harray
      cases harray
    · rw [hother] at harray
      cases harray
      rw [List.forall₂_map_left_iff, List.forall₂_map_right_iff] at hitems
      exact hitems.imp fun t u => hR.matches_of_toJson t u

end Comparison

theorem exportMapping_injective {m n : Mapping PropertyValue}
    (hsame : exportMapping m = exportMapping n) : m = n := by
  refine Mapping.ext_entries (List.map_injective_iff.mpr ?_ (Json.object.inj hsame))
  intro entry other hentry
  have hpair : (entry.1, entry.2.toJson) = (other.1, other.2.toJson) := hentry
  obtain ⟨hkey, hvalue⟩ := Prod.mk.inj hpair
  exact Prod.ext hkey (PropertyValue.toJson_injective hvalue)

theorem lookup_exportMapping (m : Mapping PropertyValue) (key : String) :
    Json.lookup key (m.entries.map fun entry => (entry.1, entry.2.toJson)) =
      (m.get? key).map PropertyValue.toJson := by
  rw [Mapping.get?]
  induction m.entries with
  | nil => rfl
  | cons entry rest ih =>
    obtain ⟨k, v⟩ := entry
    rw [List.map_cons, Json.lookup, Mapping.findEntry]
    split
    · rfl
    · exact ih

/-- Equality is a way to compare values. -/
theorem isComparison_eq : IsComparison Eq Eq where
  leaf hsame _ := hsame
  array hsame := ⟨_, hsame.symm, List.forall₂_eq_eq_eq ▸ rfl⟩
  object hsame := ⟨_, hsame.symm, fun name => by cases Json.lookup name _ <;> constructor; rfl⟩
  mapping := exportMapping_injective

/-- Values may be compared without regard to the order of fields, and mappings to that of keys. -/
theorem isComparison_same : IsComparison Json.Same Mapping.SameEntries where
  leaf := Json.Same.eq_of_leaf
  array hsame := by
    cases hsame with
    | array hitems => exact ⟨_, rfl, hitems⟩
  object hsame := by
    cases hsame with
    | object hfields => exact ⟨_, rfl, hfields⟩
  mapping hsame := by
    intro key
    cases hsame with
    | object hfields =>
      have hkey := hfields key
      rw [lookup_exportMapping, lookup_exportMapping] at hkey
      refine eq_of_rel_eq (rel_of_rel_map (fun v w hvalue => ?_) hkey)
      refine PropertyValue.toJson_injective (hvalue.eq_of_leaf ?_)
      cases v <;> rfl

theorem same_exportMapping {m n : Mapping PropertyValue} (hentries : m.SameEntries n) :
    (exportMapping m).Same (exportMapping n) := by
  refine .object fun key => ?_
  rw [lookup_exportMapping, lookup_exportMapping, hentries key]
  cases n.get? key with
  | none => exact .none
  | some v =>
    refine .some (.of_leaf ?_)
    cases v <;> rfl

theorem sameField_optionalField {α : Type} {S : α → α → Prop} {f : α → Json} (name : String)
    {x y : Option α} (hsame : ∀ a b, S a b → (f a).Same (f b)) (hrel : Option.Rel S x y) :
    List.Forall₂ Json.SameField (optionalField name (x.map f)) (optionalField name (y.map f)) := by
  cases hrel with
  | none => exact .nil
  | some hvalue => exact .cons ⟨rfl, hsame _ _ hvalue⟩ .nil

/-- Elements that are the same but for the order of their properties have the same fields before
their children. -/
theorem Alike.sameFields (halike : Alike Mapping.SameEntries e e') :
    List.Forall₂ Json.SameField e.exportFields e'.exportFields := by
  have hleaf : ∀ (name : String) {value : Json}, value.isLeaf = true →
      Json.SameField (name, value) (name, value) := fun _ _ hvalue => ⟨rfl, .of_leaf hvalue⟩
  rw [exportFields, exportFields, halike.id, halike.name, halike.kind, halike.dataType, halike.visible,
    halike.text]
  refine List.rel_append (List.rel_append (List.rel_append ?_ ?_) ?_) ?_
  · have hdataType : ((e'.dataType.map fun d => Json.string d.word).getD .null).isLeaf = true := by
      cases e'.dataType <;> rfl
    exact .cons (hleaf _ rfl) (.cons (hleaf _ rfl) (.cons (hleaf _ rfl) (.cons (hleaf _ hdataType)
      (.cons (hleaf _ rfl) .nil))))
  · cases e'.text with
    | none => exact .nil
    | some text => exact .cons (hleaf _ rfl) .nil
  · exact sameField_optionalField _ (fun _ _ => same_exportMapping) halike.properties
  · exact sameField_optionalField _ (fun _ _ => same_exportMapping) halike.variants

/-- Trees that are the same but for the order of properties have the same exports. -/
theorem same_toJson_of_matches (t : Tree Element) : ∀ u : Tree Element,
    Tree.Matches (Alike Mapping.SameEntries) t u → t.toJson.Same u.toJson := by
  induction t using Tree.induction with
  | step e cs ih =>
    rintro _ (⟨halike, hchildren⟩)
    refine Json.same_object (List.rel_append halike.sameFields (.cons ⟨rfl, .array ?_⟩ .nil))
    rw [Tree.forestToJson_eq_map, Tree.forestToJson_eq_map, List.forall₂_map_left_iff,
      List.forall₂_map_right_iff]
    induction hchildren with
    | nil => exact .nil
    | cons hfirst _ ihrest =>
      exact .cons (ih _ List.mem_cons_self _ hfirst)
        (ihrest fun c hc => ih c (List.mem_cons_of_mem _ hc))

/-- Exports are the same exactly if the forests are the same but for the order of properties. -/
theorem same_exportForest_iff {forest other : List (Tree Element)} :
    (exportForest forest).Same (exportForest other) ↔
      List.Forall₂ (Tree.Matches (Alike Mapping.SameEntries)) forest other := by
  refine ⟨isComparison_same.matches_of_exportForest, fun hmatches => ?_⟩
  have hitems := hmatches.imp same_toJson_of_matches
  match forest, other, hitems with
  | [], [], _ => exact .array .nil
  | [_], [_], .cons hfirst _ => exact hfirst
  | _ :: _ :: _, _ :: _ :: _, hitems =>
    rw [← List.forall₂_map_right_iff, ← List.forall₂_map_left_iff] at hitems
    refine .array ?_
    rw [Tree.forestToJson_eq_map, Tree.forestToJson_eq_map]
    exact hitems

theorem Alike.eq (halike : Alike Eq e e') : e = e' := by
  have hproperties := eq_of_rel_eq halike.properties
  have hvariants := eq_of_rel_eq halike.variants
  cases e
  cases e'
  rw [mk.injEq]
  exact ⟨halike.id, halike.name, halike.kind, halike.dataType, halike.visible, halike.text, hproperties,
    hvariants⟩

end Element

/-- Forests of one shape with the same values are the same. -/
theorem Tree.eq_of_forall₂ {α : Type} {R : α → α → Prop} (hread : ∀ v w, R v w → v = w)
    {forest other : List (Tree α)} (hmatches : List.Forall₂ (Matches R) forest other) :
    forest = other := by
  have hmapped :=
    mapForest_eq_of_forall₂ (g := id) (h := id) (fun v w hvw => (hread v w hvw).symm) hmatches
  have hself : ∀ forest : List (Tree α), mapForest id forest = forest := by
    intro forest
    have hid : map (id : α → α) = id := funext (map_of_fixed fun _ => rfl)
    rw [mapForest_eq_map, hid, List.map_id]
  rw [hself, hself] at hmapped
  exact hmapped.symm

namespace Generator

variable {σ : Type}

/-- With settings of the right types, a selection that is not empty is exported, and the export is
that of the elements whose markup is generated for the same request.  The export tells these
elements: forests with the same export are the same, whether one tree stands in it alone or several
in an array.  If the order of fields is disregarded, exports are the same exactly if the forests are
the same but for the order of properties. -/
theorem generateExport_lossless (g : Generator) (hsettings : g.mistyped = none) :
    (∀ (host : Host σ) (roots : List (Tree Layer)) (p : Progress σ), roots ≠ [] →
      ∃ result, (g.generate host roots p).1 = .ok result ∧
        (g.generateExport host roots p).1 = .ok (exportForest result.forest)) ∧
      (∀ forest other, exportForest forest = exportForest other → forest = other) ∧
      ∀ forest other, (exportForest forest).Same (exportForest other) ↔
        List.Forall₂ (Tree.Matches (Element.Alike Mapping.SameEntries)) forest other := by
  refine ⟨fun host roots p hroots => ?_, fun forest other hsame => ?_, fun forest other => ?_⟩
  · have hpruned := prunedForest_of_typed hsettings hroots host p
    exact ⟨_, generate_of_typed hsettings hroots host p, generateExport_of_pruned hpruned⟩
  · exact Tree.eq_of_forall₂ (fun _ _ => Element.Alike.eq)
      (Element.isComparison_eq.matches_of_exportForest hsame)
  · exact Element.same_exportForest_iff

/-- A card that shows the given properties. -/
def cardWith (properties : List (String × PropertyValue)) : Tree Element :=
  .node { id := "1", name := "UCard", kind := .occurrence, dataType := some .component,
          properties := some (.ofList properties) } []

/-- Every lookup fails, and the export is that of the elements of the markup.  Two orders of two
properties make two exports, which are the same if the order of fields is disregarded. -/
theorem generateExport_lossless_askingLayers :
    (∃ result, (Generator.generate {} brokenHost askingLayers ⟨(), []⟩).1 = .ok result ∧
      (Generator.generateExport {} brokenHost askingLayers ⟨(), []⟩).1 =
        .ok (exportForest result.forest)) ∧
    exportForest [cardWith [("size", .text "big"), ("wide", .flag true)]] ≠
      exportForest [cardWith [("wide", .flag true), ("size", .text "big")]] ∧
    (exportForest [cardWith [("size", .text "big"), ("wide", .flag true)]]).Same
      (exportForest [cardWith [("wide", .flag true), ("size", .text "big")]]) := by
  obtain ⟨hagree, hread, hsame⟩ := generateExport_lossless (σ := Unit) {} rfl
  refine ⟨hagree brokenHost askingLayers ⟨(), []⟩ (List.cons_ne_nil _ _), fun hexports => ?_, ?_⟩
  · have hentries := congrArg (fun forest => forest.map fun t =>
      t.value.properties.map Mapping.entries) (hread _ _ hexports)
    exact absurd hentries (by decide)
  · refine (hsame _ _).mpr
      (.cons (.node ⟨rfl, rfl, rfl, rfl, rfl, rfl, .some fun key => ?_, .none⟩ .nil) .nil)
    change Mapping.findEntry key [("size", PropertyValue.text "big"), ("wide", .flag true)] =
      Mapping.findEntry key [("wide", .flag true), ("size", .text "big")]
    by_cases hsize : "size" = key
    · subst hsize
      rfl
    · simp only [Mapping.findEntry, if_neg hsize]

end Generator

end LayerMarkup
