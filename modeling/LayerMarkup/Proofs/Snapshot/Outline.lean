import LayerMarkup.Proofs.Tree.Keys
import LayerMarkup.Snapshot.Document

/-!
# Node objects of a document

A document tells of its layers by objects, each of which holds those below it as its children.  How
the objects stand in each other, and what each of them says, can be read before any of them is taken
for a layer, whether or not it can be taken for one.

* `outline` — the objects that a list of values describes, as a forest of their fields.
* `nodes` — the same objects at all depths, every object before those that it holds.
* `WellFormed` — every value is an object whose fields have the form that a layer needs, at all
  depths.
* `items_induction` — a property of lists of values that passes from the children of the objects in
  a list to the list holds of every list.
-/

namespace LayerMarkup.Document

/-- The fields of an object. -/
abbrev Fields := List (String × Json)

/-- The value of a field, if it is not empty. -/
def present (name : String) (fields : Fields) : Option Json :=
  (Json.lookup name fields).bind Json.nonEmpty?

/-- The fields of the object under a name, of anything else none. -/
def entriesIn (name : String) (fields : Fields) : Fields :=
  match present name fields with
  | some (.object entries) => entries
  | _ => []

/-- The items of an array, of anything else none. -/
def itemsOf : Option Json → List Json
  | some (.array items) => items
  | _ => []

/-- The values that stand as children among the fields of an object. -/
def childItems (fields : Fields) : List Json := itemsOf (Json.lookup "children" fields)

section Readings

variable (fields : Fields)

def idIn : String := textField "id" fields

def nameIn : String := textField "name" fields

def kindIn : LayerKind := .ofHostType (textField "type" fields)

/-- The component that an occurrence says it was made from: by its id, or else by the component
itself. -/
def mainIdIn : Option String :=
  ((present "componentId" fields).or (present "id" (entriesIn "mainComponent" fields))).map Json.display

/-- The component set that a variant says it belongs to. -/
def setIdIn : Option String := (present "componentSetId" fields).map Json.display

/-- The defaults that a component or a component set declares.  An entry that is no object declares
nothing. -/
def declaredIn : List (String × Json) :=
  ((entriesIn "componentPropertyDefinitions" fields).filterMap definition?).map fun entry =>
    (entry.1, entry.2.default.toJson)

end Readings

mutual

/-- The objects that a value describes. -/
def outline : Json → List (Tree Fields)
  | .object fields => [.node fields (outlineBelow fields)]
  | _ => []

def outlineBelow : Fields → List (Tree Fields)
  | [] => []
  | (key, value) :: rest =>
    if key = "children" then
      match value with
      | .array items => outlineAll items
      | _ => []
    else outlineBelow rest

/-- The objects that a list of values describes. -/
def outlineAll : List Json → List (Tree Fields)
  | [] => []
  | item :: rest => outline item ++ outlineAll rest

end

/-- The fields of all objects that a list of values describes, at all depths. -/
def nodes (items : List Json) : List Fields := Tree.forestValues (outlineAll items)

theorem present_eq_some_iff {name : String} {fields : Fields} {value : Json} :
    present name fields = some value ↔
      Json.lookup name fields = some value ∧ value.isEmpty = false := by
  unfold present
  rw [Option.bind_eq_some_iff]
  constructor
  · rintro ⟨found, hfound, hfull⟩
    rw [Json.nonEmpty?, Option.ite_none_left_eq_some, Bool.not_eq_true] at hfull
    obtain ⟨hempty, hsame⟩ := hfull
    cases hsame
    exact ⟨hfound, hempty⟩
  · rintro ⟨hfound, hempty⟩
    refine ⟨value, hfound, ?_⟩
    rw [Json.nonEmpty?, hempty]
    rfl

theorem mem_of_lookup {name : String} {value : Json} {fields : Fields}
    (hfound : Json.lookup name fields = some value) : (name, value) ∈ fields := by
  induction fields with
  | nil => cases hfound
  | cons field rest ih =>
    obtain ⟨key, v⟩ := field
    rw [Json.lookup] at hfound
    by_cases hkey : key = name
    · rw [if_pos hkey, Option.some.injEq] at hfound
      rw [hkey, hfound]
      exact List.mem_cons_self
    · rw [if_neg hkey] at hfound
      exact List.mem_cons_of_mem _ (ih hfound)

/-- What looks through fields for one name and goes by the first field that has it depends on no
other. -/
theorem eq_of_lookup {β : Type} {name : String} {search : Fields → β} (result : Option Json → β)
    (hnil : search [] = result none)
    (hfield : ∀ value rest, search ((name, value) :: rest) = result (some value))
    (hother : ∀ key value rest, key ≠ name → search ((key, value) :: rest) = search rest)
    (fields : Fields) : search fields = result (Json.lookup name fields) := by
  induction fields with
  | nil => exact hnil
  | cons field rest ih =>
    obtain ⟨key, value⟩ := field
    by_cases hkey : key = name
    · subst hkey
      rw [hfield, Json.lookup, if_pos rfl]
    · rw [hother key value rest hkey, Json.lookup, if_neg hkey, ih]

theorem sizeOf_childItems_lt (fields : Fields) :
    sizeOf (childItems fields) < sizeOf (Json.object fields) := by
  unfold childItems itemsOf
  split
  · rename_i items hfound
    have hfield := List.sizeOf_lt_of_mem (mem_of_lookup hfound)
    simp only [Prod.mk.sizeOf_spec, Json.array.sizeOf_spec] at hfield
    simp only [Json.object.sizeOf_spec]
    omega
  · cases fields <;> simp +arith

/-- Induction over the values of a document: what passes from the children of the objects in a list
to the list holds of every list. -/
theorem items_induction {P : List Json → Prop}
    (step : ∀ items, (∀ fields, .object fields ∈ items → P (childItems fields)) → P items)
    (items : List Json) : P items :=
  step items fun fields hmem =>
    have _hsmaller : sizeOf (childItems fields) < sizeOf items :=
      Nat.lt_trans (sizeOf_childItems_lt fields) (List.sizeOf_lt_of_mem hmem)
    items_induction step (childItems fields)
termination_by sizeOf items
decreasing_by exact _hsmaller

theorem outlineBelow_eq (fields : Fields) : outlineBelow fields = outlineAll (childItems fields) := by
  refine eq_of_lookup (fun value => outlineAll (itemsOf value)) rfl (fun value rest => ?_)
    (fun key value rest hkey => ?_) fields
  · cases value <;> exact if_pos rfl
  · cases value <;> exact if_neg hkey

theorem outline_object (fields : Fields) :
    outline (.object fields) = [.node fields (outlineAll (childItems fields))] := by
  rw [outline, outlineBelow_eq]

theorem outlineAll_append (items others : List Json) :
    outlineAll (items ++ others) = outlineAll items ++ outlineAll others := by
  induction items with
  | nil => rfl
  | cons item rest ih => rw [List.cons_append, outlineAll, outlineAll, ih, List.append_assoc]

@[simp] theorem nodes_nil : nodes [] = [] := rfl

theorem nodes_append (items others : List Json) :
    nodes (items ++ others) = nodes items ++ nodes others := by
  simp only [nodes, outlineAll_append, Tree.forestValues_eq_flatMap, List.flatMap_append]

theorem nodes_object_cons (fields : Fields) (rest : List Json) :
    nodes (.object fields :: rest) = fields :: (nodes (childItems fields) ++ nodes rest) := by
  simp only [nodes, outlineAll, outline_object, List.cons_append, List.nil_append, Tree.forestValues,
    Tree.values]

def isObject : Json → Bool
  | .object _ => true
  | _ => false

/-- What stands under a name has fields, or is empty. -/
def holdsFields (name : String) (fields : Fields) : Bool :=
  match present name fields with
  | none | some (.object _) => true
  | _ => false

/-- What stands as the children of an object is an array, or is empty. -/
def holdsItems (fields : Fields) : Bool :=
  match present "children" fields with
  | none | some (.array _) => true
  | _ => false

/-- The fields of an object have the form that a layer needs, those of its children aside.  A field
that is absent or empty always has. -/
structure HasLayer (fields : Fields) : Prop where
  definitions : holdsFields "componentPropertyDefinitions" fields = true
  properties : holdsFields "componentProperties" fields = true
  variants : holdsFields "variantProperties" fields = true
  /-- The component itself is not looked at where its id is told. -/
  mainComponent : present "componentId" fields = none → holdsFields "mainComponent" fields = true

/-- The fields of an object have the form that a layer needs, and its children are objects. -/
structure IsNode (fields : Fields) : Prop extends HasLayer fields where
  children : holdsItems fields = true
  items : ∀ item ∈ childItems fields, isObject item = true

instance (fields : Fields) : Decidable (HasLayer fields) :=
  decidable_of_iff
    (holdsFields "componentPropertyDefinitions" fields = true ∧
      holdsFields "componentProperties" fields = true ∧
      holdsFields "variantProperties" fields = true ∧
      (present "componentId" fields = none → holdsFields "mainComponent" fields = true))
    ⟨fun ⟨hdefinitions, hproperties, hvariants, hmain⟩ => ⟨hdefinitions, hproperties, hvariants, hmain⟩,
      fun h => ⟨h.definitions, h.properties, h.variants, h.mainComponent⟩⟩

instance (fields : Fields) : Decidable (IsNode fields) :=
  decidable_of_iff
    (HasLayer fields ∧ holdsItems fields = true ∧ ∀ item ∈ childItems fields, isObject item = true)
    ⟨fun ⟨hlayer, hchildren, hitems⟩ => ⟨hlayer, hchildren, hitems⟩,
      fun h => ⟨h.toHasLayer, h.children, h.items⟩⟩

/-- Every value is an object, and so is every child in it, and all of them have the form that a
layer needs. -/
structure WellFormed (items : List Json) : Prop where
  roots : ∀ item ∈ items, isObject item = true
  nodes : ∀ fields ∈ nodes items, IsNode fields

instance (items : List Json) : Decidable (WellFormed items) :=
  decidable_of_iff
    ((∀ item ∈ items, isObject item = true) ∧ ∀ fields ∈ nodes items, IsNode fields)
    ⟨fun h => ⟨h.1, h.2⟩, fun h => ⟨h.roots, h.nodes⟩⟩

theorem wellFormed_nil : WellFormed [] := ⟨by simp, by simp⟩

theorem wellFormed_append_iff {items others : List Json} :
    WellFormed (items ++ others) ↔ WellFormed items ∧ WellFormed others := by
  constructor
  · rintro ⟨hroots, hnodes⟩
    rw [nodes_append, List.forall_mem_append] at hnodes
    rw [List.forall_mem_append] at hroots
    exact ⟨⟨hroots.1, hnodes.1⟩, hroots.2, hnodes.2⟩
  · rintro ⟨hitems, hothers⟩
    refine ⟨List.forall_mem_append.mpr ⟨hitems.roots, hothers.roots⟩, ?_⟩
    rw [nodes_append]
    exact List.forall_mem_append.mpr ⟨hitems.nodes, hothers.nodes⟩

/-- A list of values is well formed if its first value is an object that is, and its children and
the other values are. -/
theorem wellFormed_object_cons_iff {fields : Fields} {rest : List Json} :
    WellFormed (.object fields :: rest) ↔
      IsNode fields ∧ WellFormed (childItems fields) ∧ WellFormed rest := by
  constructor
  · rintro ⟨hroots, hnodes⟩
    rw [nodes_object_cons, List.forall_mem_cons, List.forall_mem_append] at hnodes
    obtain ⟨hnode, hbelow, hrest⟩ := hnodes
    exact ⟨hnode, ⟨hnode.items, hbelow⟩, (List.forall_mem_cons.mp hroots).2, hrest⟩
  · rintro ⟨hnode, hbelow, hrest⟩
    refine ⟨List.forall_mem_cons.mpr ⟨rfl, hrest.roots⟩, ?_⟩
    rw [nodes_object_cons, List.forall_mem_cons, List.forall_mem_append]
    exact ⟨hnode, hbelow.nodes, hrest.nodes⟩

end LayerMarkup.Document
