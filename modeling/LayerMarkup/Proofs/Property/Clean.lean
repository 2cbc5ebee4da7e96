import LayerMarkup.Proofs.Property.Variants
import Mathlib.Data.List.TakeWhile

/-!
# Clean keys

Whatever raw keys the values of a layer have, the keys that are shown bear no marks, begin with no
private marker and hold no mark of inner occurrences (`IsCleanKey`).  This is so for values that are
compared with their defaults and for variants, and stays so when clean mappings are laid over each
other.
-/

namespace LayerMarkup

/-- A key that may be shown. -/
structure IsCleanKey (config : Config) (key : String) : Prop where
  /-- The mark that tells it from others of the same name was taken off. -/
  unmarked : '#' ∉ key.toList
  /-- It begins with no private marker; the empty marker marks nothing. -/
  not_private : ∀ marker ∈ config.privateMarkers, marker ≠ "" → ¬ marker.toList <+: key.toList
  /-- It is no key of an inner occurrence. -/
  not_inner : ¬ config.instanceMarker.toList <:+: key.toList

/-- All keys of a mapping may be shown. -/
def Mapping.IsClean {α : Type} (config : Config) (m : Mapping α) : Prop :=
  ∀ key ∈ m.keys, IsCleanKey config key

open Name (stripKeySuffix)

variable {config : Config}

theorem Name.number_sign_notMem_stripKeySuffix (key : String) : '#' ∉ (stripKeySuffix key).toList := by
  rw [stripKeySuffix, String.toList_ofList]
  intro hmem
  simpa using List.mem_takeWhile_imp hmem

/-- A key that is not skipped may be shown when its mark was taken off. -/
theorem isCleanKey_stripKeySuffix {key : String}
    (hskips : config.skipsKey (stripKeySuffix key) = false) :
    IsCleanKey config (stripKeySuffix key) := by
  rw [Config.skipsKey, Bool.or_eq_false_iff] at hskips
  obtain ⟨hprivate, hinner⟩ := hskips
  refine ⟨Name.number_sign_notMem_stripKeySuffix key, fun marker hmarker hne hbegins => ?_,
    fun hholds => ?_⟩
  · have hstarts : Text.startsWith (stripKeySuffix key) marker = true := Text.startsWith_iff.mpr hbegins
    have hmarked : Name.isPrivate (stripKeySuffix key) config.privateMarkers = true :=
      List.any_eq_true.mpr ⟨marker, hmarker, by simp [hstarts, hne]⟩
    rw [hprivate] at hmarked
    cases hmarked
  · rw [Text.contains_iff.mpr hholds] at hinner
    cases hinner

namespace Mapping

variable {α β : Type} {m n : Mapping α}

theorem isClean_empty : (empty : Mapping α).IsClean config := by
  intro key hkey
  cases hkey

theorem IsClean.overlay (hm : m.IsClean config) (hn : n.IsClean config) :
    (m.overlay n).IsClean config := by
  intro key hkey
  rw [keys_overlay, List.mem_append] at hkey
  rcases hkey with hkey | hkey
  · exact hm key hkey
  · exact hn key (List.mem_filter.mp hkey).1

theorem IsClean.mapValues (hm : m.IsClean config) (f : α → β) : (m.mapValues f).IsClean config := by
  rwa [IsClean, keys_mapValues]

end Mapping

namespace Property

theorem isClean_difference (config : Config) (current : Mapping Json)
    (defaults : Option (Mapping Json)) : (difference config current defaults).IsClean config := by
  intro key hkey
  obtain ⟨entry, -, hshown, rfl⟩ := mem_keys_difference.mp hkey
  refine isCleanKey_stripKeySuffix ?_
  rw [isShown, Bool.not_eq_true', Bool.or_eq_false_iff] at hshown
  exact hshown.1

theorem isClean_cleanVariants (config : Config) (variants : Mapping Json) :
    (cleanVariants config variants).IsClean config := by
  intro key hkey
  rw [cleanVariants_eq_ofList, Mapping.keys_ofList, List.mem_eraseDups, List.map_map, List.mem_map]
    at hkey
  obtain ⟨entry, hentry, rfl⟩ := hkey
  refine isCleanKey_stripKeySuffix ?_
  have hshown := (List.mem_filter.mp hentry).2
  rw [isShown, Bool.not_eq_true', Bool.or_eq_false_iff] at hshown
  exact hshown.1

end Property

end LayerMarkup
