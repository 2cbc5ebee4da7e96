import LayerMarkup.Proofs.Property.Difference

/-!
# What a stripped key shows

Several keys may strip to one, and of their values that are shown the last one counts
(`lastShown?`).  A value is shown or not whatever raw key it stands under, so a text that is shown
under a stripped key at all is touched (`touched_of_lastShown?`).  Together these say when an entry
with a text prevails over all others (`lastShown?_eq_text_iff`).
-/

namespace LayerMarkup

namespace PropertyValue

/-- The texts of the switch positions never become text properties. -/
theorem coerce_eq_text {json : Json} {s : String} (htext : coerce json = .text s) :
    s ≠ "true" ∧ s ≠ "false" := by
  have hword : ∀ word, ofText word = .text s → s ≠ "true" ∧ s ≠ "false" := by
    intro word hof
    unfold ofText at hof
    split at hof
    · cases hof
    · rename_i htrue
      split at hof
      · cases hof
      · rename_i hfalse
        cases hof
        exact ⟨htrue, hfalse⟩
  cases json with
  | bool b => cases htext
  | null | int | double | string | array | object => exact hword _ htext

/-- Any other text becomes a text property. -/
theorem coerce_string {s : String} (htrue : s ≠ "true") (hfalse : s ≠ "false") :
    coerce (.string s) = .text s := by
  show ofText s = .text s
  rw [ofText, if_neg htrue, if_neg hfalse]

end PropertyValue

namespace Property

open Name (stripKeySuffix)

variable {config : Config} {defaults : Option (Mapping Json)}
  {entries earlier later : List (String × Json)}
  {key : String}

/-- The value shown under a stripped key: the last one, if several are. -/
def lastShown? (config : Config) (defaults : Option (Mapping Json)) (entries : List (String × Json))
    (key : String) : Option PropertyValue :=
  Mapping.lastValue? key ((entries.filter (isShown config (defaults.map schema))).map stripped)

theorem get?_difference_eq_lastShown? (current : Mapping Json) :
    (difference config current defaults).get? key = lastShown? config defaults current.entries key := by
  rw [difference_eq_ofList, Mapping.get?_ofList, lastShown?]

/-- The value is not the default of a stripped key, and looks like none where no defaults are
known. -/
def IsTouched (config : Config) (defaults : Option (Mapping Json)) (key : String)
    (value : PropertyValue) : Prop :=
  match defaults with
  | none => config.isSentinel value.word = false
  | some known => lastDefault? known key ≠ some value

instance (config : Config) (defaults : Option (Mapping Json)) (key : String) (value : PropertyValue) :
    Decidable (IsTouched config defaults key value) :=
  match defaults with
  | none => inferInstanceAs (Decidable (config.isSentinel value.word = false))
  | some known => inferInstanceAs (Decidable (lastDefault? known key ≠ some value))

theorem isShown_iff_isTouched {entry : String × Json} :
    isShown config (defaults.map schema) entry = true ↔
      config.skipsKey (stripKeySuffix entry.1) = false ∧
        IsTouched config defaults (stripKeySuffix entry.1) (PropertyValue.coerce entry.2) := by
  cases defaults with
  | none => simp [isShown, stripped, isUntouched, IsTouched]
  | some known => exact isShown_iff

/-- An entry prevails over those before it, if it is shown, and gives way to those after it. -/
theorem lastShown?_append_cons {rawKey : String} {value : Json}
    (hkey : stripKeySuffix rawKey = key) :
    lastShown? config defaults (earlier ++ (rawKey, value) :: later) key =
      (lastShown? config defaults later key).or
        (if isShown config (defaults.map schema) (rawKey, value) = true then
          some (PropertyValue.coerce value) else lastShown? config defaults earlier key) := by
  unfold lastShown?
  rw [List.filter_append, List.map_append, Mapping.lastValue?_append]
  by_cases hshown : isShown config (defaults.map schema) (rawKey, value) = true
  · rw [if_pos hshown, List.filter_cons_of_pos hshown, List.map_cons, stripped,
      Mapping.lastValue?_cons, if_pos hkey, Option.or_assoc, Option.some_or]
  · rw [if_neg hshown, List.filter_cons_of_neg hshown]

theorem touched_of_lastShown? {value : PropertyValue}
    (hlast : lastShown? config defaults entries key = some value) :
    IsTouched config defaults key value ∧ ∃ json, PropertyValue.coerce json = value := by
  obtain ⟨entry, hentry, hsame⟩ := List.mem_map.mp (Mapping.mem_of_lastValue? hlast)
  have hshown := isShown_iff_isTouched.mp (List.mem_filter.mp hentry).2
  obtain ⟨rfl, rfl⟩ := Prod.mk.inj hsame
  exact ⟨hshown.2, entry.2, rfl⟩

/-- An entry with a text prevails if and only if the text is touched and no switch position, and no
other value is shown after it under the same stripped key. -/
theorem lastShown?_eq_text_iff {rawKey s : String} (hkey : stripKeySuffix rawKey = key)
    (hskips : config.skipsKey key = false) :
    lastShown? config defaults (earlier ++ (rawKey, .string s) :: later) key = some (.text s) ↔
      IsTouched config defaults key (.text s) ∧ s ≠ "true" ∧ s ≠ "false" ∧
        ∀ value ∈ lastShown? config defaults later key, value = .text s := by
  have hentry : isShown config (defaults.map schema) (rawKey, .string s) = true ↔
      IsTouched config defaults key (PropertyValue.coerce (.string s)) := by
    rw [isShown_iff_isTouched, hkey, hskips]
    simp
  constructor
  · intro hlast
    obtain ⟨htouched, json, hjson⟩ := touched_of_lastShown? hlast
    refine ⟨htouched, (PropertyValue.coerce_eq_text hjson).1, (PropertyValue.coerce_eq_text hjson).2,
      fun value hvalue => ?_⟩
    rw [Option.mem_def] at hvalue
    rw [lastShown?_append_cons hkey, hvalue, Option.some_or, Option.some.injEq] at hlast
    exact hlast
  · rintro ⟨htouched, htrue, hfalse, hlater⟩
    have hcoerce := PropertyValue.coerce_string htrue hfalse
    rw [hcoerce] at hentry
    rw [lastShown?_append_cons hkey, if_pos (hentry.mpr htouched), hcoerce]
    cases hshown : lastShown? config defaults later key with
    | none => rw [Option.none_or]
    | some value => rw [hlater value hshown, Option.some_or]

end Property

end LayerMarkup
