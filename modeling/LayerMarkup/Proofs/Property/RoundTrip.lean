import LayerMarkup.Proofs.Property.Difference

/-!
# The difference restores the values

Laid over the defaults, the difference from the defaults gives the current values back, and none of
its entries could be spared.
-/

namespace LayerMarkup.Property

open Name (stripKeySuffix)

/-- Current values whose stripped keys are distinct are restored from the defaults and the
difference.  The difference has no other keys than theirs, skipped ones left out, and without any
one of its entries a current value would be lost. -/
theorem overlay_difference_roundTrip (config : Config) (current defaults : Mapping Json)
    (hkeys : (current.entries.map fun entry => stripKeySuffix entry.1).Nodup) :
    (∀ key, (schema defaults).get? key = lastDefault? defaults key) ∧
    (∀ entry ∈ current.entries, config.skipsKey (stripKeySuffix entry.1) = false →
      ((schema defaults).overlay (difference config current (some defaults))).get?
        (stripKeySuffix entry.1) = some (PropertyValue.coerce entry.2)) ∧
    (∀ key ∈ (difference config current (some defaults)).keys,
      config.skipsKey key = false ∧ ∃ entry ∈ current.entries, stripKeySuffix entry.1 = key) ∧
    (∀ key ∈ (difference config current (some defaults)).keys, ∃ entry ∈ current.entries,
      config.skipsKey (stripKeySuffix entry.1) = false ∧
        ((schema defaults).overlay ((difference config current (some defaults)).erase key)).get?
          (stripKeySuffix entry.1) ≠ some (PropertyValue.coerce entry.2)) := by
  refine ⟨get?_schema defaults, fun entry hentry hkey => ?_, fun key hkey => ?_, fun key hkey => ?_⟩
  · rw [Mapping.get?_overlay, get?_difference hkeys hentry]
    split
    · rfl
    · rename_i hhidden
      -- An entry that is left out although its key is not skipped agrees with the defaults.
      have hdefault : lastDefault? defaults (stripKeySuffix entry.1) =
          some (PropertyValue.coerce entry.2) := by
        by_contra hdiffers
        exact hhidden (isShown_iff.mpr ⟨hkey, hdiffers⟩)
      rw [Option.none_or, get?_schema, hdefault]
  · obtain ⟨entry, hentry, hshown, rfl⟩ := mem_keys_difference.mp hkey
    exact ⟨(isShown_iff.mp hshown).1, entry, hentry, rfl⟩
  · obtain ⟨entry, hentry, hshown, rfl⟩ := mem_keys_difference.mp hkey
    obtain ⟨hskips, hdiffers⟩ := isShown_iff.mp hshown
    refine ⟨entry, hentry, hskips, ?_⟩
    rw [Mapping.get?_overlay, Mapping.get?_erase_self, Option.none_or, get?_schema]
    exact hdiffers

/-- Values of a button: a label that was changed, a size that was not, and a private key. -/
def buttonValues : Mapping Json where
  entries := [("Label#1:2", .string "Save"), ("Size", .string "medium"), ("_state", .bool true)]
  nodup_keys := by decide

/-- Its defaults, which have a second size under the same stripped key. -/
def buttonDefaults : Mapping Json where
  entries := [("Label#1:2", .string "Button"), ("Size#1:3", .int 1), ("Size#1:4", .string "medium")]
  nodup_keys := by decide

theorem overlay_difference_buttonValues :
    (buttonValues.entries.map fun entry => stripKeySuffix entry.1).Nodup ∧
      ((schema buttonDefaults).overlay (difference {} buttonValues (some buttonDefaults))).get?
        "Size" = some (.text "medium") := by
  have hkeys : (buttonValues.entries.map fun entry => stripKeySuffix entry.1).Nodup := by
    decide +kernel
  have hsize : ("Size", Json.string "medium") ∈ buttonValues.entries := by simp [buttonValues]
  refine ⟨hkeys, ?_⟩
  exact (overlay_difference_roundTrip {} buttonValues buttonDefaults hkeys).2.1 _ hsize
    (by decide +kernel)

end LayerMarkup.Property
