import LayerMarkup.Proofs.Property.Difference

/-!
# Untouched values

Values are compared with the defaults by their stripped keys.  Of values that all equal their
defaults nothing is shown, provided that raw keys with one stripped key have one value: otherwise
the last of them is the default for all, and the others count as touched.
-/

namespace LayerMarkup.Property

open Name (stripKeySuffix)

variable {config : Config} {current defaults : Mapping Json}

/-- The default of a stripped key is that of one of the entries whose keys strip to it. -/
theorem exists_lastDefault? {entry : String × Json} (hentry : entry ∈ defaults.entries) :
    ∃ other ∈ defaults.entries, stripKeySuffix other.1 = stripKeySuffix entry.1 ∧
      lastDefault? defaults (stripKeySuffix entry.1) = some (PropertyValue.coerce other.2) := by
  unfold lastDefault?
  cases hfound : defaults.entries.reverse.find?
      fun other => stripKeySuffix other.1 = stripKeySuffix entry.1 with
  | none =>
    rw [List.find?_eq_none] at hfound
    exact absurd (decide_eq_true rfl) (hfound entry (List.mem_reverse.mpr hentry))
  | some other =>
    have hkey : stripKeySuffix other.1 = stripKeySuffix entry.1 := by
      simpa using List.find?_some hfound
    exact ⟨other, List.mem_reverse.mp (List.mem_of_find?_eq_some hfound), hkey, rfl⟩

theorem difference_eq_empty_iff : difference config current (some defaults) = .empty ↔
    ∀ entry ∈ current.entries, isShown config (some (schema defaults)) entry = false := by
  rw [Mapping.eq_empty_iff]
  constructor
  · intro hempty entry hentry
    rw [← Bool.not_eq_true]
    intro hshown
    exact hempty _ (mem_keys_difference.mpr ⟨entry, hentry, hshown, rfl⟩)
  · intro hhidden key hkey
    obtain ⟨entry, hentry, hshown, -⟩ := mem_keys_difference.mp hkey
    rw [Option.map_some, hhidden entry hentry] at hshown
    cases hshown

/-- An entry that is not shown can be taken out. -/
theorem difference_erase_of_hidden {rawKey : String} {value : Json}
    (hentry : (rawKey, value) ∈ current.entries)
    (hhidden : isShown config (some (schema defaults)) (rawKey, value) = false) :
    difference config (current.erase rawKey) (some defaults) =
      difference config current (some defaults) := by
  rw [difference_eq_ofList, difference_eq_ofList, Mapping.erase, List.filter_filter]
  congr 2
  refine List.filter_congr fun entry hmem => ?_
  by_cases hkey : entry.1 = rawKey
  · have hsame : entry = (rawKey, value) :=
      List.inj_on_of_nodup_map current.nodup_keys hmem hentry hkey
    rw [hsame, Option.map_some, hhidden, Bool.false_and]
  · simp [hkey]

/-- Values compared with themselves show nothing exactly when raw keys with one stripped key,
skipped ones aside, have one value.  More generally, an entry that equals the default of its raw key
can be taken out without a change if its stripped key is skipped or the last default of this
stripped key is the same; otherwise its stripped key is shown. -/
theorem difference_untouched (config : Config) :
    (∀ values : Mapping Json, difference config values (some values) = .empty ↔
      ∀ a ∈ values.entries, ∀ b ∈ values.entries, stripKeySuffix a.1 = stripKeySuffix b.1 →
        config.skipsKey (stripKeySuffix a.1) = false →
          PropertyValue.coerce a.2 = PropertyValue.coerce b.2) ∧
    (∀ (current defaults : Mapping Json) (rawKey : String) (value default : Json),
      (rawKey, value) ∈ current.entries → (rawKey, default) ∈ defaults.entries →
      PropertyValue.coerce value = PropertyValue.coerce default →
        (config.skipsKey (stripKeySuffix rawKey) = true ∨
            lastDefault? defaults (stripKeySuffix rawKey) = some (PropertyValue.coerce value) →
          difference config (current.erase rawKey) (some defaults) =
            difference config current (some defaults)) ∧
        (config.skipsKey (stripKeySuffix rawKey) = false →
          lastDefault? defaults (stripKeySuffix rawKey) ≠ some (PropertyValue.coerce value) →
            stripKeySuffix rawKey ∈ (difference config current (some defaults)).keys)) := by
  refine ⟨fun values => ?_, fun current defaults rawKey value default hcurrent _ _ => ⟨?_, ?_⟩⟩
  · rw [difference_eq_empty_iff]
    constructor
    · intro hhidden a ha b hb hkey hskips
      have hdefault : ∀ entry ∈ values.entries, stripKeySuffix entry.1 = stripKeySuffix a.1 →
          lastDefault? values (stripKeySuffix a.1) = some (PropertyValue.coerce entry.2) := by
        -- Any other default would have the entry shown.
        intro entry hentry hsame
        by_contra hdiffers
        rw [← hsame] at hskips hdiffers
        have hshown := isShown_iff.mpr ⟨hskips, hdiffers⟩
        rw [hhidden entry hentry] at hshown
        cases hshown
      exact Option.some.inj ((hdefault a ha rfl).symm.trans (hdefault b hb hkey.symm))
    · intro hvalues entry hentry
      rw [← Bool.not_eq_true, isShown_iff]
      rintro ⟨hskips, hdiffers⟩
      -- The default that counts may be that of another raw key, but then the two agree.
      obtain ⟨other, hother, hkey, hdefault⟩ := exists_lastDefault? hentry
      have hsame := hvalues other hother entry hentry hkey (hkey.symm ▸ hskips)
      exact hdiffers (hdefault.trans (congrArg some hsame))
  · intro huntouched
    refine difference_erase_of_hidden hcurrent ?_
    rw [← Bool.not_eq_true, isShown_iff]
    rintro ⟨hskips, hdiffers⟩
    rcases huntouched with hskipped | hdefault
    · rw [hskips] at hskipped
      cases hskipped
    · exact hdiffers hdefault
  · intro hskips hdiffers
    have hshown : isShown config (some (schema defaults)) (rawKey, value) = true :=
      isShown_iff.mpr ⟨hskips, hdiffers⟩
    exact mem_keys_difference.mpr ⟨(rawKey, value), hcurrent, hshown, rfl⟩

/-- Values whose stripped keys do not meet. -/
def labelValues : Mapping Json where
  entries := [("Label#1:2", .string "Save"), ("Disabled#1:3", .bool false), ("Size", .string "medium")]
  nodup_keys := by decide

theorem difference_self_labelValues :
    (∀ a ∈ labelValues.entries, ∀ b ∈ labelValues.entries, stripKeySuffix a.1 = stripKeySuffix b.1 →
      ({} : Config).skipsKey (stripKeySuffix a.1) = false →
        PropertyValue.coerce a.2 = PropertyValue.coerce b.2) ∧
      difference {} labelValues (some labelValues) = .empty := by
  have hvalues : ∀ a ∈ labelValues.entries, ∀ b ∈ labelValues.entries,
      stripKeySuffix a.1 = stripKeySuffix b.1 →
        ({} : Config).skipsKey (stripKeySuffix a.1) = false →
          PropertyValue.coerce a.2 = PropertyValue.coerce b.2 := by
    decide +kernel
  exact ⟨hvalues, ((difference_untouched {}).1 labelValues).2 hvalues⟩

/-- Two icons, told apart by their marks only. -/
def iconValues : Mapping Json where
  entries := [("Icon#1:0", .string "star"), ("Icon#1:1", .string "heart")]
  nodup_keys := by decide

/-- The first of two untouched icons is shown, because the second is the default of both. -/
theorem difference_self_iconValues :
    (difference {} iconValues (some iconValues)).entries = [("Icon", .text "star")] ∧
      difference {} iconValues (some iconValues) ≠ .empty := by
  have hentries : (difference {} iconValues (some iconValues)).entries = [("Icon", .text "star")] := by
    decide +kernel
  refine ⟨hentries, fun hempty => ?_⟩
  rw [hempty] at hentries
  cases hentries

end LayerMarkup.Property
