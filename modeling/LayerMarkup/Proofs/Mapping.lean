import LayerMarkup.Mapping
import Mathlib.Data.List.Induction

/-!
# Laws of ordered mappings

What a mapping answers after entries were laid over it, after it was built from a list of entries,
and after a key was taken out.  Where a list of entries repeats a key, its last entry for the key
counts (`lastValue?`), and its first entry gives the key its place (`keys_ofList`).
-/

namespace LayerMarkup.Mapping

variable {α β : Type}

/-- The value of the last entry of a key. -/
def lastValue? (key : String) (entries : List (String × α)) : Option α :=
  (entries.reverse.find? fun entry => entry.1 = key).map Prod.snd

theorem lastValue?_cons (key k : String) (v : α) (rest : List (String × α)) :
    lastValue? key ((k, v) :: rest) =
      (lastValue? key rest).or (if k = key then some v else none) := by
  unfold lastValue?
  rw [List.reverse_cons, List.find?_append]
  cases List.find? (fun entry => decide (entry.1 = key)) rest.reverse with
  | none => by_cases hk : k = key <;> simp [hk]
  | some entry => simp

/-- Of two lists of entries one after the other, the second counts first. -/
theorem lastValue?_append (key : String) (entries later : List (String × α)) :
    lastValue? key (entries ++ later) = (lastValue? key later).or (lastValue? key entries) := by
  rw [lastValue?, List.reverse_append, List.find?_append, Option.map_or]
  rfl

theorem lastValue?_eq_none_iff {key : String} {entries : List (String × α)} :
    lastValue? key entries = none ↔ key ∉ entries.map Prod.fst := by
  rw [lastValue?, Option.map_eq_none_iff, List.find?_eq_none]
  constructor
  · intro hnone hkey
    obtain ⟨entry, hentry, hsame⟩ := List.mem_map.mp hkey
    exact hnone entry (List.mem_reverse.mpr hentry) (decide_eq_true hsame)
  · intro hkey entry hentry hsame
    have hmem := List.mem_map_of_mem (f := Prod.fst) (List.mem_reverse.mp hentry)
    exact hkey (of_decide_eq_true hsame ▸ hmem)

theorem mem_of_lastValue? {key : String} {value : α} {entries : List (String × α)}
    (h : lastValue? key entries = some value) : (key, value) ∈ entries := by
  unfold lastValue? at h
  rw [Option.map_eq_some_iff] at h
  obtain ⟨⟨k, v⟩, hfound, rfl⟩ := h
  have hk : k = key := by simpa using List.find?_some hfound
  rw [← hk]
  exact List.mem_reverse.mp (List.mem_of_find?_eq_some hfound)

/-- Where no key is repeated, any entry of a key is the last one. -/
theorem lastValue?_eq_some_iff {key : String} {value : α} {entries : List (String × α)}
    (hkeys : (entries.map Prod.fst).Nodup) :
    lastValue? key entries = some value ↔ (key, value) ∈ entries := by
  refine ⟨mem_of_lastValue?, fun hmem => ?_⟩
  induction entries with
  | nil => cases hmem
  | cons entry rest ih =>
    obtain ⟨k, v⟩ := entry
    rw [List.map_cons, List.nodup_cons] at hkeys
    rw [lastValue?_cons]
    rcases List.mem_cons.mp hmem with hhead | htail
    · cases hhead
      rw [lastValue?_eq_none_iff.mpr hkeys.1, Option.none_or, if_pos rfl]
    · rw [ih hkeys.2 htail, Option.some_or]

theorem findEntry_eq_lastValue? {key : String} {entries : List (String × α)}
    (hkeys : (entries.map Prod.fst).Nodup) : findEntry key entries = lastValue? key entries := by
  induction entries with
  | nil => rfl
  | cons entry rest ih =>
    obtain ⟨k, v⟩ := entry
    rw [List.map_cons, List.nodup_cons] at hkeys
    rw [findEntry, lastValue?_cons, ih hkeys.2]
    by_cases hk : k = key
    · subst hk
      rw [lastValue?_eq_none_iff.mpr hkeys.1, Option.none_or, if_pos rfl]
    · rw [if_neg hk, if_neg hk, Option.or_none]

theorem get?_eq_some_iff {m : Mapping α} {key : String} {value : α} :
    m.get? key = some value ↔ (key, value) ∈ m.entries := by
  rw [get?, findEntry_eq_lastValue? m.nodup_keys, lastValue?_eq_some_iff m.nodup_keys]

/-- At most one entry has a key: that of its value. -/
theorem filter_key_entries (m : Mapping α) (key : String) :
    m.entries.filter (·.1 = key) = (m.get? key).toList.map fun value => (key, value) := by
  obtain ⟨entries, hkeys⟩ := m
  rw [get?]
  induction entries with
  | nil => rfl
  | cons entry rest ih =>
    obtain ⟨k, v⟩ := entry
    rw [List.map_cons, List.nodup_cons] at hkeys
    by_cases hk : k = key
    · subst hk
      have hrest : rest.filter (·.1 = k) = [] := by
        refine List.filter_eq_nil_iff.mpr fun other hother hsame => hkeys.1 ?_
        have hmem : other.1 ∈ rest.map Prod.fst := List.mem_map_of_mem hother
        rwa [of_decide_eq_true hsame] at hmem
      rw [List.filter_cons_of_pos (by simp), hrest, findEntry, if_pos rfl]
      rfl
    · rw [List.filter_cons_of_neg (by simpa using hk), findEntry, if_neg hk]
      exact ih hkeys.2

theorem mem_keys_iff {m : Mapping α} {key : String} :
    key ∈ m.keys ↔ ∃ value, m.get? key = some value := by
  simp [keys, get?_eq_some_iff]

theorem eq_empty_iff {m : Mapping α} : m = .empty ↔ ∀ key, key ∉ m.keys := by
  constructor
  · rintro rfl key hkey
    cases hkey
  · intro hkeys
    refine ext_entries (List.eq_nil_iff_forall_not_mem.2 fun entry hentry => ?_)
    exact hkeys entry.1 (List.mem_map_of_mem hentry)

/-- Entries laid over a mapping one by one: the last entry of a key wins over the mapping. -/
theorem get?_foldl_insert (m : Mapping α) (entries : List (String × α)) (key : String) :
    (entries.foldl (fun m entry => m.insert entry.1 entry.2) m).get? key =
      (lastValue? key entries).or (m.get? key) := by
  induction entries generalizing m with
  | nil => rfl
  | cons entry rest ih =>
    obtain ⟨k, v⟩ := entry
    rw [List.foldl_cons, ih, get?_insert, lastValue?_cons, Option.or_assoc]
    by_cases hk : key = k
    · rw [if_pos hk, if_pos hk.symm, Option.some_or]
    · rw [if_neg hk, if_neg (Ne.symm hk), Option.none_or]

theorem get?_ofList (entries : List (String × α)) (key : String) :
    (ofList entries).get? key = lastValue? key entries := by
  rw [ofList, get?_foldl_insert, get?_empty, Option.or_none]

theorem get?_overlay (m n : Mapping α) (key : String) :
    (m.overlay n).get? key = (n.get? key).or (m.get? key) := by
  rw [overlay, get?_foldl_insert, ← findEntry_eq_lastValue? n.nodup_keys]
  rfl

/-- Entries with distinct keys, laid over a mapping one by one: keys that the mapping has stay in
their places, and new ones come behind them. -/
theorem keys_foldl_insert (m : Mapping α) {entries : List (String × α)}
    (hkeys : (entries.map Prod.fst).Nodup) :
    (entries.foldl (fun m entry => m.insert entry.1 entry.2) m).keys =
      m.keys ++ (entries.map Prod.fst).filter (· ∉ m.keys) := by
  induction entries generalizing m with
  | nil => simp
  | cons entry rest ih =>
    obtain ⟨k, v⟩ := entry
    rw [List.map_cons, List.nodup_cons] at hkeys
    rw [List.foldl_cons, ih _ hkeys.2, keys_insert, List.map_cons]
    by_cases hk : k ∈ m.keys
    · rw [if_pos hk, List.filter_cons_of_neg (by simpa using hk)]
    · -- The key is new, and none of the later keys is the same.
      have hrest : (rest.map Prod.fst).filter (· ∉ m.keys ++ [k]) =
          (rest.map Prod.fst).filter (· ∉ m.keys) := by
        refine List.filter_congr fun other hother => ?_
        have hne : other ≠ k := fun hsame => hkeys.1 (hsame ▸ hother)
        simp [hne]
      rw [if_neg hk, hrest, List.filter_cons_of_pos (by simpa using hk), List.append_assoc,
        List.singleton_append]

theorem keys_overlay (m n : Mapping α) :
    (m.overlay n).keys = m.keys ++ n.keys.filter (· ∉ m.keys) :=
  keys_foldl_insert m n.nodup_keys

theorem keys_mapValues (f : α → β) (m : Mapping α) : (m.mapValues f).keys = m.keys := by
  simp [keys, mapValues]

theorem ofList_concat (entries : List (String × α)) (entry : String × α) :
    ofList (entries ++ [entry]) = (ofList entries).insert entry.1 entry.2 := by
  rw [ofList, List.foldl_append]
  rfl

/-- A list of entries gives each of its keys once, at its first place. -/
theorem keys_ofList (entries : List (String × α)) :
    (ofList entries).keys = (entries.map Prod.fst).eraseDups := by
  induction entries using List.reverseRecOn with
  | nil => rfl
  | append_singleton entries entry ih =>
    rw [ofList_concat, keys_insert, ih, List.map_append, List.eraseDups_append, List.map_singleton,
      List.cons_removeAll]
    by_cases hkey : entry.1 ∈ entries.map Prod.fst
    · simp [hkey]
    · simp [hkey, List.eraseDups_cons]

theorem isEmpty_ofList (entries : List (String × α)) : (ofList entries).isEmpty = entries.isEmpty := by
  have hkeys : (ofList entries).isEmpty = (ofList entries).keys.isEmpty := List.isEmpty_map.symm
  rw [hkeys, keys_ofList]
  cases entries with
  | nil => rfl
  | cons entry rest =>
    rw [List.map_cons, List.eraseDups_cons]
    rfl

/-- Items that are written as entries, some of them left out, are written as a list of entries. -/
theorem foldl_insert_unless {ι : Type} (skips : ι → Bool) (entryOf : ι → String × α) (items : List ι) :
    items.foldl (fun m item => if skips item then m else m.insert (entryOf item).1 (entryOf item).2)
      empty = ofList ((items.filter fun item => !skips item).map entryOf) := by
  rw [ofList, List.foldl_map, List.foldl_filter]
  congr 1
  funext m item
  cases skips item <;> rfl

theorem mapValues_insert (f : α → β) (m : Mapping α) (key : String) (value : α) :
    (m.insert key value).mapValues f = (m.mapValues f).insert key (f value) := by
  refine ext_entries ?_
  show (insertEntry key value m.entries).map _ = insertEntry key (f value) (m.entries.map _)
  induction m.entries with
  | nil => rfl
  | cons entry rest ih =>
    obtain ⟨k, v⟩ := entry
    rw [insertEntry, List.map_cons, insertEntry]
    split
    · rfl
    · rw [List.map_cons, ih]

theorem mapValues_ofList (f : α → β) (entries : List (String × α)) :
    (ofList entries).mapValues f = ofList (entries.map fun entry => (entry.1, f entry.2)) := by
  induction entries using List.reverseRecOn with
  | nil => rfl
  | append_singleton entries entry ih =>
    rw [ofList_concat, mapValues_insert, ih, List.map_append, List.map_singleton, ofList_concat]

/-- The mapping without a key. -/
def erase (m : Mapping α) (key : String) : Mapping α :=
  ⟨m.entries.filter (·.1 ≠ key), m.nodup_keys.sublist (List.filter_sublist.map Prod.fst)⟩

theorem get?_erase_self (m : Mapping α) (key : String) : (m.erase key).get? key = none := by
  cases hfound : (m.erase key).get? key with
  | none => rfl
  | some value =>
    rw [get?_eq_some_iff, erase, List.mem_filter] at hfound
    simp at hfound

end LayerMarkup.Mapping
