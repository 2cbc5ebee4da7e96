import LayerMarkup.Proofs.Mapping
import LayerMarkup.Property.Difference
import Mathlib.Data.List.Nodup

/-!
# Entry by entry

The difference from the defaults treats every entry by itself: it is shown, under its stripped key,
or left out (`difference_eq_ofList`).  What it is compared with is the last default of its stripped
key (`get?_schema`).
-/

namespace LayerMarkup.Property

/-- What an entry shows: its stripped key, and its value as a property. -/
def stripped (entry : String × Json) : String × PropertyValue :=
  (Name.stripKeySuffix entry.1, PropertyValue.coerce entry.2)

/-- The entry is shown: its key is not skipped, and its value is not untouched. -/
def isShown (config : Config) (known : Option (Mapping PropertyValue)) (entry : String × Json) :
    Bool :=
  !(config.skipsKey (stripped entry).1 ||
    isUntouched config known (stripped entry).1 (stripped entry).2)

/-- The default that counts for a stripped key: that of the last entry whose key strips to it. -/
def lastDefault? (defaults : Mapping Json) (key : String) : Option PropertyValue :=
  (defaults.entries.reverse.find? fun entry => Name.stripKeySuffix entry.1 = key).map
    fun entry => PropertyValue.coerce entry.2

theorem get?_schema (defaults : Mapping Json) (key : String) :
    (schema defaults).get? key = lastDefault? defaults key := by
  rw [schema, Mapping.get?_ofList, Mapping.lastValue?, lastDefault?, ← List.map_reverse,
    List.find?_map, Option.map_map]
  rfl

/-- Every entry that is shown is written under its stripped key, in the order of the entries. -/
theorem difference_eq_ofList (config : Config) (current : Mapping Json)
    (defaults : Option (Mapping Json)) :
    difference config current defaults =
      .ofList ((current.entries.filter (isShown config (defaults.map schema))).map stripped) :=
  Mapping.foldl_insert_unless
    (fun entry => config.skipsKey (stripped entry).1 ||
      isUntouched config (defaults.map schema) (stripped entry).1 (stripped entry).2)
    stripped current.entries

theorem isShown_iff {config : Config} {defaults : Mapping Json} {entry : String × Json} :
    isShown config (some (schema defaults)) entry = true ↔
      config.skipsKey (Name.stripKeySuffix entry.1) = false ∧
        lastDefault? defaults (Name.stripKeySuffix entry.1) ≠
          some (PropertyValue.coerce entry.2) := by
  simp [isShown, stripped, isUntouched, get?_schema]

theorem mem_keys_difference {config : Config} {current : Mapping Json}
    {defaults : Option (Mapping Json)} {key : String} :
    key ∈ (difference config current defaults).keys ↔
      ∃ entry ∈ current.entries, isShown config (defaults.map schema) entry = true ∧
        Name.stripKeySuffix entry.1 = key := by
  have hkeys : key ∈ (difference config current defaults).keys ↔
      Mapping.lastValue? key
        ((current.entries.filter (isShown config (defaults.map schema))).map stripped) ≠ none := by
    rw [Mapping.mem_keys_iff, difference_eq_ofList, ← Option.isSome_iff_exists,
      Option.isSome_iff_ne_none, Mapping.get?_ofList]
  rw [hkeys, Ne, Mapping.lastValue?_eq_none_iff, not_not]
  simp [stripped, and_assoc]

/-- Where stripped keys are distinct, an entry decides alone what its stripped key gives. -/
theorem get?_difference {config : Config} {current : Mapping Json}
    {defaults : Option (Mapping Json)}
    (hkeys : (current.entries.map fun entry => Name.stripKeySuffix entry.1).Nodup)
    {entry : String × Json} (hentry : entry ∈ current.entries) :
    (difference config current defaults).get? (Name.stripKeySuffix entry.1) =
      if isShown config (defaults.map schema) entry = true then
        some (PropertyValue.coerce entry.2) else none := by
  rw [difference_eq_ofList, Mapping.get?_ofList]
  split
  · rename_i hshown
    have hnodup : (((current.entries.filter (isShown config (defaults.map schema))).map
        stripped).map Prod.fst).Nodup := by
      rw [List.map_map]
      exact hkeys.sublist (List.filter_sublist.map _)
    rw [Mapping.lastValue?_eq_some_iff hnodup]
    exact List.mem_map_of_mem (f := stripped) (List.mem_filter.mpr ⟨hentry, hshown⟩)
  · rename_i hhidden
    rw [Mapping.lastValue?_eq_none_iff]
    intro hmem
    rw [List.map_map, List.mem_map] at hmem
    obtain ⟨other, hother, hsame⟩ := hmem
    obtain ⟨hin, hshown⟩ := List.mem_filter.mp hother
    have heq : other = entry := List.inj_on_of_nodup_map hkeys hin hentry hsame
    exact hhidden (heq ▸ hshown)

end LayerMarkup.Property
