import LayerMarkup.Proofs.Property.Shown

/-!
# Keys that meet

Several entries may have one stripped key, among the current values and among the defaults.  Of the
defaults the last one counts, and an entry that equals it is dropped (`IsDropped`).  Of the entries
that are not dropped the last one gives the value, and the first one the place in the difference
(`difference_exact`).
-/

namespace LayerMarkup

/-- The last of the items with a property. -/
def IsLast {α : Type} (p : α → Prop) (l : List α) (a : α) : Prop :=
  ∃ earlier later, l = earlier ++ a :: later ∧ p a ∧ ∀ b ∈ later, ¬ p b

theorem find?_reverse_eq_some_iff {α : Type} {p : α → Prop} [DecidablePred p] {l : List α} {a : α} :
    l.reverse.find? (fun b => p b) = some a ↔ IsLast p l a := by
  rw [List.find?_eq_some_iff_append, decide_eq_true_eq]
  constructor
  · rintro ⟨ha, later, earlier, hsplit, hlater⟩
    refine ⟨earlier.reverse, later.reverse, ?_, ha, fun b hb => ?_⟩
    · rw [List.reverse_eq_append_iff, List.reverse_cons, List.append_assoc, List.singleton_append]
        at hsplit
      exact hsplit
    · simpa using hlater b (List.mem_reverse.mp hb)
  · rintro ⟨earlier, later, rfl, ha, hlater⟩
    refine ⟨ha, later.reverse, earlier.reverse, ?_, fun b hb => ?_⟩
    · rw [List.reverse_append, List.reverse_cons, List.append_assoc, List.singleton_append]
    · simpa using hlater b (List.mem_reverse.mp hb)

namespace Property

open Name (stripKeySuffix)

variable {config : Config} {defaults : Option (Mapping Json)} {entry : String × Json} {key : String}
  {value : PropertyValue}

/-- An entry is dropped: its stripped key is skipped, or its value is that of the last default with
this stripped key, or, where no defaults are known, its value as a property is a sentinel. -/
def IsDropped (config : Config) (defaults : Option (Mapping Json)) (entry : String × Json) : Prop :=
  config.skipsKey (stripKeySuffix entry.1) = true ∨
    match defaults with
    | none => config.isSentinel (PropertyValue.coerce entry.2).word = true
    | some known => ∃ default,
        IsLast (fun other => stripKeySuffix other.1 = stripKeySuffix entry.1) known.entries default ∧
          isDefault entry.2 default.2 = true

theorem isDefault_iff {value default : Json} :
    isDefault value default = true ↔ PropertyValue.coerce default = PropertyValue.coerce value := by
  rw [isDefault, beq_iff_eq, eq_comm]

theorem lastDefault?_eq_some_iff {known : Mapping Json} :
    lastDefault? known key = some value ↔ ∃ default,
      IsLast (fun other => stripKeySuffix other.1 = key) known.entries default ∧
        PropertyValue.coerce default.2 = value := by
  rw [lastDefault?, Option.map_eq_some_iff]
  simp only [find?_reverse_eq_some_iff]

theorem not_isDropped_iff :
    ¬ IsDropped config defaults entry ↔ isShown config (defaults.map schema) entry = true := by
  rw [isShown_iff_isTouched]
  unfold IsDropped
  rw [not_or, Bool.not_eq_true]
  cases defaults with
  | none => rw [IsTouched, Bool.not_eq_true]
  | some known => simp only [IsTouched, isDefault_iff, Ne, lastDefault?_eq_some_iff]

instance : Decidable (IsDropped config defaults entry) :=
  decidable_of_iff (¬ isShown config (defaults.map schema) entry = true)
    (not_iff_comm.mp not_isDropped_iff)

theorem filter_isShown (entries : List (String × Json)) :
    entries.filter (isShown config (defaults.map schema)) =
      entries.filter fun entry => ¬ IsDropped config defaults entry := by
  refine List.filter_congr fun entry _ => ?_
  rw [Bool.eq_iff_iff, decide_eq_true_eq, not_isDropped_iff]

/-- What is shown under a stripped key comes from the last entry with this key that is not
dropped. -/
theorem lastShown?_eq_some_iff {entries : List (String × Json)} :
    lastShown? config defaults entries key = some value ↔ ∃ entry,
      IsLast (fun other => ¬ IsDropped config defaults other ∧ stripKeySuffix other.1 = key) entries
          entry ∧
        PropertyValue.coerce entry.2 = value := by
  -- Leaving out entries and comparing keys are one search from the end.
  have hfound : lastShown? config defaults entries key =
      (entries.reverse.find? fun other =>
        ¬ IsDropped config defaults other ∧ stripKeySuffix other.1 = key).map
          fun entry => PropertyValue.coerce entry.2 := by
    rw [lastShown?, filter_isShown, Mapping.lastValue?, ← List.map_reverse, ← List.filter_reverse,
      List.find?_map, List.find?_filter, Option.map_map]
    congr 2
    funext other
    rw [Bool.eq_iff_iff, decide_eq_true_eq, decide_eq_true_eq, decide_eq_true_eq]
    exact and_congr_right fun _ => decide_eq_true_iff
  rw [hfound, Option.map_eq_some_iff]
  simp only [find?_reverse_eq_some_iff]

theorem keys_difference (config : Config) (current : Mapping Json) (defaults : Option (Mapping Json)) :
    (difference config current defaults).keys =
      ((current.entries.filter fun entry => ¬ IsDropped config defaults entry).map
        fun entry => stripKeySuffix entry.1).eraseDups := by
  rw [difference_eq_ofList, Mapping.keys_ofList, filter_isShown, List.map_map]
  rfl

/-- The difference has a key exactly if an entry that is not dropped strips to it.  Its value is
that of the last such entry, and the keys come in the order of the first such entries. -/
theorem difference_exact (config : Config) (current : Mapping Json) (defaults : Option (Mapping Json)) :
    (∀ key, key ∈ (difference config current defaults).keys ↔
      ∃ entry ∈ current.entries, ¬ IsDropped config defaults entry ∧ stripKeySuffix entry.1 = key) ∧
    (∀ key value, (difference config current defaults).get? key = some value ↔
      ∃ entry,
        IsLast (fun other => ¬ IsDropped config defaults other ∧ stripKeySuffix other.1 = key)
            current.entries entry ∧
          PropertyValue.coerce entry.2 = value) ∧
    (difference config current defaults).keys =
      ((current.entries.filter fun entry => ¬ IsDropped config defaults entry).map
        fun entry => stripKeySuffix entry.1).eraseDups := by
  refine ⟨fun key => ?_, fun key value => ?_, keys_difference config current defaults⟩
  · rw [mem_keys_difference]
    simp only [not_isDropped_iff]
  · rw [get?_difference_eq_lastShown?, lastShown?_eq_some_iff]

-- Of three sizes under one stripped key the second is dropped; the first gives the place, the last
-- the value.
example : (difference {} (.ofList [("Size#1:0", .string "large"), ("Tone", .string "dark"),
      ("Size#1:1", .string "none"), ("Size#1:2", .string "small")]) none).entries =
    [("Size", .text "small"), ("Tone", .text "dark")] := by
  decide +kernel

end Property

end LayerMarkup
