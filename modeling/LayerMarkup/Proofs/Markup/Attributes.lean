import LayerMarkup.Proofs.Classification.Containment
import LayerMarkup.Proofs.Classification.Shape
import LayerMarkup.Proofs.Markup.Places
import LayerMarkup.Proofs.Markup.Slots
import LayerMarkup.Proofs.Property.Clean
import LayerMarkup.Proofs.Pruning.Origin

/-!
# The attributes of components

Values reach the tag of a component from three sides: its own, those of a layer that holds further
ones, and its variants.  However the raw keys of the three meet, the tag has one attribute for each
key, first those of the properties and behind them those that only the variants have, and every key
may be shown (`attributes_of_pruned`).

* `Element.IsClean` — all keys of an element may be shown; so it is after classification, and
  pruning changes none of them.
* `Markup.ShowsValues` — what the attributes of a component are.
-/

namespace LayerMarkup

open LayerMarkup.Tree

variable {σ : Type} {config : Config} {e : Element}

namespace Element

/-- The properties of an element, and its variants; an element without any has none to show. -/
def ownValues (e : Element) : Mapping PropertyValue := e.properties.getD .empty

def variantValues (e : Element) : Mapping PropertyValue := e.variants.getD .empty

/-- All keys of the properties and of the variants of an element may be shown. -/
structure IsClean (config : Config) (e : Element) : Prop where
  own : e.ownValues.IsClean config
  variants : e.variantValues.IsClean config

end Element

namespace Classification

theorem isClean_propertiesOf (host : Host σ) (config : Config) (t : Tree Layer) (p : Progress σ) :
    (propertiesOf host config t p).1.IsClean config := by
  rw [propertiesOf_fst, Property.resolve_fst]
  refine (Property.isClean_difference _ _ _).overlay ?_
  cases holder? config t with
  | none => exact Mapping.isClean_empty
  | some holder =>
    rw [Option.elim_some, Property.resolve_fst]
    exact Property.isClean_difference _ _ _

theorem isClean_elementOf {properties : Mapping PropertyValue} (hclean : properties.IsClean config)
    (layer : Layer) : (elementOf config properties layer).IsClean config where
  own := by
    simp only [Element.ownValues, elementOf]
    split
    · exact hclean
    · exact Mapping.isClean_empty
  variants := by
    simp only [Element.variantValues, elementOf]
    split
    · exact (Property.isClean_cleanVariants config layer.variants).mapValues _
    · exact Mapping.isClean_empty

theorem isClean_of_mem_classifyForest {host : Host σ} {roots : List (Tree Layer)} {p : Progress σ}
    (he : e ∈ forestValues (classifyForest host config roots p).1) : e.IsClean config := by
  let R (_ : Layer) (f : Element) : Prop := f.IsClean config
  have hplaces : List.Forall₂ (Matches R) roots (classifyForest host config roots p).1 := by
    rw [classifyForest_eq_mapIndexedForest]
    refine forall₂_mapIndexedForest (fun t _ => matches_mapIndexed t 0) fun s hs => ?_
    show Element.IsClean config _
    rw [foundElement, lookup_resolveForest hs p, Option.getD_some]
    exact isClean_elementOf (isClean_propertiesOf host config _ _) _
  exact forall_mem_of_forall₂ (P := Element.IsClean config) (fun _ _ hclean => hclean) hplaces e he

end Classification

namespace Pruning

theorem isClean_of_core_eq {f : Element} (hclean : e.IsClean config) (hcore : core e = core f) :
    f.IsClean config := by
  rw [← core_eq_core_iff.mp hcore] at hclean
  exact ⟨hclean.own, hclean.variants⟩

end Pruning

namespace Markup

/-- The attribute shows the value: a switch is bound and written as its word, a text is written as
it is. -/
def Shows (a : Attribute) : PropertyValue → Prop
  | .flag b => a.isBoolean = true ∧ a.value = if b then "true" else "false"
  | .text s => a.isBoolean = false ∧ a.value = s

/-- What the attributes of a component are: one for each key, in the order in which properties and
variants have the keys. -/
structure ShowsValues (e : Element) (as : List Attribute) : Prop where
  /-- No key is shown twice. -/
  distinct : (as.map Attribute.key).Nodup
  /-- The keys of the properties keep their places, and those that only the variants have come
  behind. -/
  keys : as.map Attribute.key =
    e.ownValues.keys ++ e.variantValues.keys.filter (· ∉ e.ownValues.keys)
  /-- Where properties and variants share a key, the variants have the value. -/
  values : ∀ a ∈ as, ∃ value ∈ (e.variantValues.get? a.key).or (e.ownValues.get? a.key), Shows a value

theorem shows_propertyAttribute (config : Config) (tag key : String) (value : PropertyValue) :
    Shows (propertyAttribute config tag key value) value := by
  cases value with
  | flag b => exact ⟨rfl, rfl⟩
  | text s => exact ⟨rfl, rfl⟩

@[simp] theorem key_propertyAttribute (config : Config) (tag key : String) (value : PropertyValue) :
    (propertyAttribute config tag key value).key = key := by
  cases value <;> rfl

theorem map_key_attributes (config : Config) (e : Element) (tag : String) :
    (attributes config e tag).map Attribute.key = (attributeValues e).keys := by
  simp [attributes, Mapping.keys, Function.comp_def]

theorem get?_attributeValues (e : Element) (key : String) :
    (attributeValues e).get? key = (e.variantValues.get? key).or (e.ownValues.get? key) :=
  Mapping.get?_overlay _ _ key

/-- The attributes of an element show its values, whatever its keys are. -/
theorem showsValues_attributes (config : Config) (e : Element) (tag : String) :
    ShowsValues e (attributes config e tag) where
  distinct := by
    rw [map_key_attributes]
    exact (attributeValues e).nodup_keys
  keys := by
    rw [map_key_attributes, attributeValues, Mapping.keys_overlay]
    rfl
  values a ha := by
    obtain ⟨⟨key, value⟩, hentry, rfl⟩ := List.mem_map.mp ha
    refine ⟨value, ?_, shows_propertyAttribute config tag key value⟩
    rw [key_propertyAttribute, ← get?_attributeValues]
    exact Mapping.get?_eq_some_iff.mpr hentry

theorem isCleanKey_of_mem_attributes (hclean : e.IsClean config) {tag : String} {a : Attribute}
    (ha : a ∈ attributes config e tag) : IsCleanKey config a.key := by
  have hkey : a.key ∈ (attributeValues e).keys :=
    map_key_attributes config e tag ▸ List.mem_map_of_mem ha
  exact hclean.own.overlay hclean.variants a.key hkey

/-- Whatever layers are selected and whatever the host answers, every component of the pruned forest
has its tag in its place, and the attributes of the tag are the values of the component: no key
twice, those of the properties first, the variants' value where a key is in both, and no key that
must not be shown. -/
theorem attributes_of_pruned (host : Host σ) (config : Config) (roots : List (Tree Layer))
    (below : Bool) (s : σ) :
    let pruned := Pruning.prune config below ((Classification.classifyForest host config roots).run s).1
    List.Forall₂
      (Matches fun e tag => e.dataType = some .component →
        ShowsValues e tag.attributes ∧ ∀ a ∈ tag.attributes, IsCleanKey config a.key)
      pruned (ofElements config pruned) := by
  intro pruned
  refine forall₂_ofElements_of_no_text (fun e => Pruning.dataType_ne_text_of_mem_prune)
    fun e he htype => ?_
  obtain ⟨e', he', hcore⟩ := Pruning.exists_core_of_mem_prune he
  have hclean : e.IsClean config :=
    Pruning.isClean_of_core_eq (Classification.isClean_of_mem_classifyForest he') hcore
  rw [attributes_tagOf htype]
  exact ⟨showsValues_attributes config e _, fun a => isCleanKey_of_mem_attributes hclean⟩

/-- A set whose variants share a key with its properties. -/
def sizedCard : Element :=
  { id := "1", name := "UCard", kind := .componentSet, dataType := some .component
    properties := some (.ofList [("size", .text "big"), ("open", .flag true)])
    variants := some (.ofList [("tone", .text "warm"), ("size", .text "small")]) }

example : (attributes {} sizedCard "Ucard").map Attribute.render =
    ["size=\"small\"", ":open=\"true\"", "tone=\"warm\""] := by
  decide +kernel

end Markup

end LayerMarkup
