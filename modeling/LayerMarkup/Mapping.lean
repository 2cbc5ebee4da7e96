/-!
# Ordered mappings

A mapping from texts to values that keeps its keys in the order in which they first came.  Giving a
key a new value leaves the key where it is.  No key occurs twice, which the type records.
-/

namespace LayerMarkup

/-- Entries with distinct keys, in the order in which the keys came. -/
structure Mapping (α : Type) where
  entries : List (String × α)
  nodup_keys : (entries.map Prod.fst).Nodup

namespace Mapping

variable {α β : Type}

/-- Sets the value of a key in place, or adds the key at the end. -/
def insertEntry (key : String) (value : α) : List (String × α) → List (String × α)
  | [] => [(key, value)]
  | (k, v) :: rest => if k = key then (key, value) :: rest else (k, v) :: insertEntry key value rest

/-- The value of a key. -/
def findEntry (key : String) : List (String × α) → Option α
  | [] => none
  | (k, v) :: rest => if k = key then some v else findEntry key rest

theorem keys_insertEntry (key : String) (value : α) (l : List (String × α)) :
    (insertEntry key value l).map Prod.fst =
      if key ∈ l.map Prod.fst then l.map Prod.fst else l.map Prod.fst ++ [key] := by
  induction l with
  | nil => simp [insertEntry]
  | cons entry rest ih =>
    obtain ⟨k, v⟩ := entry
    by_cases h : k = key
    · simp [insertEntry, h]
    · have h' : ¬ key = k := fun e => h e.symm
      simp only [insertEntry, if_neg h, List.map_cons, ih, List.mem_cons, h', false_or]
      split <;> simp

theorem nodup_keys_insertEntry (key : String) (value : α) {l : List (String × α)}
    (h : (l.map Prod.fst).Nodup) : ((insertEntry key value l).map Prod.fst).Nodup := by
  rw [keys_insertEntry]
  split
  · exact h
  · rename_i hk
    rw [List.nodup_append]
    refine ⟨h, by simp, ?_⟩
    intro a ha b hb
    simp only [List.mem_singleton] at hb
    subst hb
    exact fun e => hk (e ▸ ha)

def empty : Mapping α := ⟨[], List.nodup_nil⟩

instance : Inhabited (Mapping α) := ⟨empty⟩

def insert (m : Mapping α) (key : String) (value : α) : Mapping α :=
  ⟨insertEntry key value m.entries, nodup_keys_insertEntry key value m.nodup_keys⟩

def get? (m : Mapping α) (key : String) : Option α := findEntry key m.entries

def keys (m : Mapping α) : List String := m.entries.map Prod.fst

def isEmpty (m : Mapping α) : Bool := m.entries.isEmpty

def size (m : Mapping α) : Nat := m.entries.length

/-- The mapping of a list of entries; on equal keys the first gives the place, the last the
value. -/
def ofList (entries : List (String × α)) : Mapping α :=
  entries.foldl (fun m entry => m.insert entry.1 entry.2) empty

/-- The second mapping laid over the first: its values win, its new keys come last. -/
def overlay (m n : Mapping α) : Mapping α :=
  n.entries.foldl (fun m entry => m.insert entry.1 entry.2) m

/-- The same keys with every value replaced. -/
def mapValues (f : α → β) (m : Mapping α) : Mapping β :=
  ⟨m.entries.map fun entry => (entry.1, f entry.2), by
    have h : (m.entries.map fun entry => (entry.1, f entry.2)).map Prod.fst =
        m.entries.map Prod.fst := by simp
    rw [h]
    exact m.nodup_keys⟩

theorem ext_entries {m n : Mapping α} (h : m.entries = n.entries) : m = n := by
  cases m
  cases n
  cases h
  rfl

@[simp] theorem entries_empty : (empty : Mapping α).entries = [] := rfl

@[simp] theorem get?_empty (key : String) : (empty : Mapping α).get? key = none := rfl

theorem get?_insert (m : Mapping α) (key : String) (value : α) (sought : String) :
    (m.insert key value).get? sought = if sought = key then some value else m.get? sought := by
  show findEntry sought (insertEntry key value m.entries) = _
  unfold get?
  generalize m.entries = l
  induction l with
  | nil =>
    by_cases h : sought = key
    · simp [insertEntry, findEntry, h]
    · have h' : ¬ key = sought := fun e => h e.symm
      simp [insertEntry, findEntry, h, h']
  | cons entry rest ih =>
    obtain ⟨k, v⟩ := entry
    by_cases hk : k = key
    · subst hk
      by_cases h : sought = k
      · simp [insertEntry, findEntry, h]
      · have h' : ¬ k = sought := fun e => h e.symm
        simp [insertEntry, findEntry, h, h']
    · by_cases hs : k = sought
      · subst hs
        simp [insertEntry, findEntry, hk]
      · simp [insertEntry, findEntry, hk, hs, ih]

theorem keys_insert (m : Mapping α) (key : String) (value : α) :
    (m.insert key value).keys = if key ∈ m.keys then m.keys else m.keys ++ [key] :=
  keys_insertEntry key value m.entries

end Mapping

end LayerMarkup
