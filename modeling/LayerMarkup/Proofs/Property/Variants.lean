import LayerMarkup.Proofs.Property.Difference

/-!
# Clean variants

The variants of a component set are cleaned as texts, while other values are reduced as properties.
Where no value is a switch, both ways show the same (`cleanVariants_eq_difference`): a text is taken
for a sentinel if and only if it is one after the words of the switch positions have become
switches, because a switch is compared with the sentinels by its word.
-/

namespace LayerMarkup

namespace PropertyValue

@[simp] theorem word_ofText (s : String) : (ofText s).word = s := by
  unfold ofText
  split
  · rename_i htrue
    exact htrue.symm
  · split
    · rename_i hfalse
      exact hfalse.symm
    · rfl

end PropertyValue

namespace Property

open Name (stripKeySuffix)

variable {config : Config} {variants : Mapping Json}

/-- A value is compared with the sentinels by the text that it has as a property. -/
theorem sentinelText_eq (value : Json) : sentinelText value = (PropertyValue.coerce value).word := by
  cases value with
  | bool b => rfl
  | null | int | double | string | array | object => exact (PropertyValue.word_ofText _).symm

theorem word_coerce {value : Json} (hvalue : ∀ b, value ≠ .bool b) :
    (PropertyValue.coerce value).word = value.display := by
  cases value with
  | bool b => exact absurd rfl (hvalue b)
  | null | int | double | string | array | object => exact PropertyValue.word_ofText _

/-- What an entry shows as a text: its stripped key, and the text of its value. -/
def strippedText (entry : String × Json) : String × String :=
  (stripKeySuffix entry.1, entry.2.display)

/-- Every variant that is left is written under its stripped key, in the order of the entries. -/
theorem cleanVariants_eq_ofList (config : Config) (variants : Mapping Json) :
    cleanVariants config variants =
      .ofList ((variants.entries.filter (isShown config none)).map strippedText) := by
  let skips (entry : String × Json) : Bool :=
    config.skipsKey (stripKeySuffix entry.1) || isSentinelValue config entry.2
  have hshown : ∀ entry, isShown config none entry = !skips entry := by
    intro entry
    show _ = !(config.skipsKey _ || config.isSentinel (sentinelText entry.2))
    rw [sentinelText_eq]
    rfl
  calc cleanVariants config variants
    _ = .ofList ((variants.entries.filter fun entry => !skips entry).map strippedText) :=
      Mapping.foldl_insert_unless skips strippedText variants.entries
    _ = .ofList ((variants.entries.filter (isShown config none)).map strippedText) := by
      rw [List.filter_congr fun entry _ => hshown entry]

/-- Clean variants are what is left of the variants where no defaults are known, with the switches
written as their words: the same keys in the same order with the same values. -/
theorem cleanVariants_eq_difference (config : Config) (variants : Mapping Json)
    (hvalues : ∀ entry ∈ variants.entries, ∀ b, entry.2 ≠ .bool b) :
    cleanVariants config variants =
      (difference config variants none).mapValues PropertyValue.word := by
  rw [cleanVariants_eq_ofList, difference_eq_ofList, Mapping.mapValues_ofList, List.map_map]
  congr 1
  refine List.map_congr_left fun entry hentry => ?_
  have hvalue := word_coerce (hvalues entry (List.mem_filter.mp hentry).1)
  rw [Function.comp_apply, stripped, strippedText, hvalue]

/-- Variants of which two meet under one key, one is a switch, and one is a sentinel. -/
def stateVariants : Mapping Json where
  entries := [("State#1:1", .string "true"), ("Tone", .string "basic"), ("Open", .string "true"),
    ("State#1:2", .string "Hover")]
  nodup_keys := by decide

theorem cleanVariants_stateVariants :
    (∀ entry ∈ stateVariants.entries, ∀ b, entry.2 ≠ .bool b) ∧
      cleanVariants {} stateVariants =
        (difference {} stateVariants none).mapValues PropertyValue.word ∧
      (cleanVariants {} stateVariants).entries = [("State", "Hover"), ("Open", "true")] := by
  have hvalues : ∀ entry ∈ stateVariants.entries, ∀ b, entry.2 ≠ .bool b := by
    simp [stateVariants]
  exact ⟨hvalues, cleanVariants_eq_difference {} stateVariants hvalues, by decide +kernel⟩

end Property

end LayerMarkup
