import LayerMarkup.Proofs.Snapshot.Carriers

/-!
# Faults of a document

A document is read until something in it cannot serve its use.  First the parts of the document are
looked for, then every value that stands for a layer is asked for its children, and then every
object is asked for what a layer needs.  `faults` lists what cannot serve, in this order, and the
first of the list is what is refused (`ofDocument_eq_error_iff`).

* `reachedAll` — the values that stand for layers, at all depths, objects or not.
* `linkFaults` — what is refused when links are collected.
* `layerFaults` — what is refused when the objects are taken for layers.
* `refuseFirst` — of several faults the first one is refused.
-/

namespace LayerMarkup

namespace Document

section Refusing

variable {ε α : Type}

/-- Of several faults the first one is refused. -/
def refuseFirst : List ε → Except ε Unit
  | [] => .ok ()
  | e :: _ => .error e

theorem refuseFirst_append (faults more : List ε) :
    refuseFirst (faults ++ more) = refuseFirst faults >>= fun _ => refuseFirst more := by
  cases faults <;> rfl

theorem map_refuseFirst_eq_error_iff {faults : List ε} {a : α} {e : ε} :
    (refuseFirst faults).map (fun _ => a) = .error e ↔ faults.head? = some e := by
  cases faults <;> simp [refuseFirst, Except.map]

end Refusing

mutual

/-- A value with the values that stand for layers below it, every value before its children. -/
def reached : Json → List Json
  | .object fields => .object fields :: reachedBelow fields
  | other => [other]

def reachedBelow : Fields → List Json
  | [] => []
  | (key, value) :: rest =>
    if key = "children" then
      match value with
      | .array items => reachedAll items
      | _ => []
    else reachedBelow rest

/-- The values that stand for layers in a list and below its values. -/
def reachedAll : List Json → List Json
  | [] => []
  | item :: rest => reached item ++ reachedAll rest

end

/-- What is refused of the children of an object: they are no array.  A text has characters and an
object has keys, but none of these is a layer. -/
def itemFaults (fields : Fields) : List DocumentError :=
  match present "children" fields with
  | none | some (.array _) => []
  | some (.string _) | some (.object _) => [.noFields "str" "get"]
  | some other => [.notIterable other.typeName]

/-- What is refused of a value that stands for a layer: it is no object, or its children are no
array. -/
def linkFaults : Json → List DocumentError
  | .object fields => itemFaults fields
  | other => [.noFields other.typeName "get"]

/-- What is refused of the value under a name that is asked for its fields: it is neither empty nor
an object. -/
def fieldFaults (name operation : String) (fields : Fields) : List DocumentError :=
  match present name fields with
  | none | some (.object _) => []
  | some other => [.noFields other.typeName operation]

/-- What is refused of an object that is taken for a layer, its children aside.  The component that
it was made from is not looked at where its id is told. -/
def layerFaults (fields : Fields) : List DocumentError :=
  fieldFaults "componentPropertyDefinitions" "items" fields ++
    fieldFaults "componentProperties" "items" fields ++
    fieldFaults "variantProperties" "items" fields ++
    if (present "componentId" fields).isSome then [] else fieldFaults "mainComponent" "get" fields

/-- The faults of a list of values that stand for layers. -/
def listFaults (items : List Json) : List DocumentError :=
  (reachedAll items).flatMap linkFaults ++ (nodes items).flatMap layerFaults

/-- The faults of a document, in the order in which they are found. -/
def faults (document : Json) : List DocumentError :=
  match parts document with
  | .error e => [e]
  | .ok (selection, library) => listFaults (selection ++ library)

variable {fields : Fields}

theorem reachedBelow_eq (fields : Fields) : reachedBelow fields = reachedAll (childItems fields) := by
  refine eq_of_lookup (fun value => reachedAll (itemsOf value)) rfl (fun value rest => ?_)
    (fun key value rest hkey => ?_) fields
  · cases value <;> exact if_pos rfl
  · cases value <;> exact if_neg hkey

theorem reachedAll_object_cons (fields : Fields) (rest : List Json) :
    reachedAll (.object fields :: rest) =
      .object fields :: (reachedAll (childItems fields) ++ reachedAll rest) := by
  rw [reachedAll, reached, reachedBelow_eq, List.cons_append]

theorem reachedAll_append (items others : List Json) :
    reachedAll (items ++ others) = reachedAll items ++ reachedAll others := by
  induction items with
  | nil => rfl
  | cons item rest ih => rw [List.cons_append, reachedAll, reachedAll, ih, List.append_assoc]

theorem checkItems_eq (fields : Fields) :
    checkItems (Json.lookup "children" fields) = refuseFirst (itemFaults fields) := by
  unfold itemFaults present
  cases Json.lookup "children" fields with
  | none => rfl
  | some value =>
    have hempty : (some value).bind Json.nonEmpty? = if value.isEmpty then none else some value := rfl
    rw [hempty]
    by_cases hvalue : value.isEmpty = true
    · cases value <;> simp [checkItems, childrenError, refuseFirst, hvalue]
    · cases value <;> simp [checkItems, childrenError, refuseFirst, hvalue]

/-- Links are collected until a value is met that is no object or whose children cannot be gone
through. -/
theorem checkLinks_eq (items : List Json) :
    checkLinks items = refuseFirst ((reachedAll items).flatMap linkFaults) := by
  induction items using items_induction with
  | step items ih =>
    induction items with
    | nil => rfl
    | cons item rest ihrest =>
      have hrest := ihrest fun fields hmem => ih fields (List.mem_cons_of_mem _ hmem)
      cases item with
      | object fields =>
        rw [checkLinks_object_cons, reachedAll_object_cons, List.flatMap_cons, List.flatMap_append,
          refuseFirst_append, refuseFirst_append, ← ih fields List.mem_cons_self, ← hrest, linkFaults,
          checkItems_eq]
      | null | bool _ | int _ | double _ | string _ | array _ => rfl

theorem fieldsOf_eq (name operation : String) (fields : Fields) :
    fieldsOf (Json.lookup name fields) operation =
      (refuseFirst (fieldFaults name operation fields)).map fun _ => entriesIn name fields := by
  unfold fieldsOf fieldFaults entriesIn present
  cases (Json.lookup name fields).bind Json.nonEmpty? with
  | none => rfl
  | some value => cases value <;> rfl

theorem layerOf_eq (fields : Fields) :
    layerOf fields = (refuseFirst (layerFaults fields)).map fun _ => layerIn fields := by
  unfold layerOf layerFaults
  simp only [fieldsOf_eq, refuseFirst_append]
  cases refuseFirst (fieldFaults "componentPropertyDefinitions" "items" fields) with
  | error e => rfl
  | ok _ =>
    cases refuseFirst (fieldFaults "componentProperties" "items" fields) with
    | error e => rfl
    | ok _ =>
      cases refuseFirst (fieldFaults "variantProperties" "items" fields) with
      | error e => rfl
      | ok _ =>
        cases hid : present "componentId" fields with
        | some id =>
          have hfound : (Json.lookup "componentId" fields).bind Json.nonEmpty? = some id := hid
          have hmain : mainIdIn fields = some id.display := by rw [mainIdIn, hid]; rfl
          rw [hfound, layerIn, hmain]
          rfl
        | none =>
          have hfound : (Json.lookup "componentId" fields).bind Json.nonEmpty? = none := hid
          have hmain : mainIdIn fields =
              (present "id" (entriesIn "mainComponent" fields)).map Json.display := by
            rw [mainIdIn, hid, Option.none_or]
          rw [hfound, layerIn, hmain, Option.isSome_none, if_neg Bool.false_ne_true]
          cases refuseFirst (fieldFaults "mainComponent" "get" fields) <;> rfl

/-- If the links could be collected, only fields that a layer needs are refused. -/
theorem treesOf_eq {items : List Json} (hlinks : (reachedAll items).flatMap linkFaults = []) :
    treesOf items = (refuseFirst ((nodes items).flatMap layerFaults)).map fun _ =>
      Tree.mapForest layerIn (outlineAll items) := by
  induction items using items_induction with
  | step items ih =>
    induction items with
    | nil => rfl
    | cons item rest ihrest =>
      cases item with
      | object fields =>
        rw [reachedAll_object_cons, List.flatMap_cons, List.flatMap_append, List.append_eq_nil_iff,
          List.append_eq_nil_iff, linkFaults] at hlinks
        obtain ⟨hitems, hbelow, hlater⟩ := hlinks
        -- An object, its children and the values after it are taken for layers in the order of
        -- `nodes`.
        rw [treesOf, treeOf_object, layerOf_eq, checkItems_eq, hitems,
          ih fields List.mem_cons_self hbelow,
          ihrest (fun fields hmem => ih fields (List.mem_cons_of_mem _ hmem)) hlater, nodes_object_cons,
          List.flatMap_cons, List.flatMap_append, refuseFirst_append, refuseFirst_append, outlineAll,
          outline_object]
        cases refuseFirst (layerFaults fields) with
        | error e => rfl
        | ok _ =>
          cases refuseFirst ((nodes (childItems fields)).flatMap layerFaults) with
          | error e => rfl
          | ok _ => cases refuseFirst ((nodes rest).flatMap layerFaults) <;> rfl
      | null | bool _ | int _ | double _ | string _ | array _ => cases hlinks

variable {document : Json} {selection library : List Json}

/-- The values that stand for layers give a snapshot, or the first of their faults is refused. -/
theorem ofDocument_of_parts (hparts : parts document = .ok (selection, library)) :
    Snapshot.ofDocument document =
      (refuseFirst (listFaults (selection ++ library))).map fun _ => gathered selection library := by
  have hread : Snapshot.ofDocument document = (do
      let setLinks ← linksOfAll .empty (selection ++ library)
      let roots ← treesOf selection
      let further ← treesOf library
      return { selection := roots, library := further, setLinks }) := by
    rw [Snapshot.ofDocument, hparts]
    rfl
  rw [hread, linksOfAll_eq, checkLinks_eq, listFaults, refuseFirst_append]
  -- No object is taken for a layer before the links of all values are collected.
  cases hlinks : (reachedAll (selection ++ library)).flatMap linkFaults with
  | cons e more => rfl
  | nil =>
    rw [reachedAll_append, List.flatMap_append, List.append_eq_nil_iff] at hlinks
    rw [treesOf_eq hlinks.1, treesOf_eq hlinks.2, nodes_append, List.flatMap_append, refuseFirst_append]
    cases refuseFirst ((nodes selection).flatMap layerFaults) with
    | error e => rfl
    | ok _ => cases refuseFirst ((nodes library).flatMap layerFaults) <;> rfl

theorem ofDocument_of_refused {e : DocumentError} (hparts : parts document = .error e) :
    Snapshot.ofDocument document = .error e := by
  rw [Snapshot.ofDocument, hparts]
  rfl

/-- The first fault of a document is what is refused. -/
theorem ofDocument_eq_error_iff {e : DocumentError} :
    Snapshot.ofDocument document = .error e ↔ (faults document).head? = some e := by
  unfold faults
  cases hparts : parts document with
  | error other => simp [ofDocument_of_refused hparts]
  | ok found =>
    obtain ⟨selection, library⟩ := found
    rw [ofDocument_of_parts hparts]
    exact map_refuseFirst_eq_error_iff

end Document

end LayerMarkup
