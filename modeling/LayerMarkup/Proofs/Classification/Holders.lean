import LayerMarkup.Proofs.Classification.Containment
import LayerMarkup.Proofs.Generation.Hidden
import LayerMarkup.Proofs.Mapping
import LayerMarkup.Proofs.Pruning.Origin

/-!
# Layers that hold further properties

Below an occurrence a layer may hold further properties of it: its name says so, and no other
occurrence stands between the two (`MayHold`).  The first such layer, in the order in which layers
are counted, is the one that does (`IsHolder`).

* `searchOutcome` — the search below an occurrence ends at this layer, or finds nothing where there
  is none.
* `Holds.place_unique` — such a layer belongs to one occurrence of the forest.
* `isLive_of_named`, `Pruning.prune_eraseAt` — its name also hides it, so the pruned forest is the
  same without it.

Layers are told apart by their addresses, since nothing keeps their ids from being equal.
-/

namespace LayerMarkup

open LayerMarkup.Tree
open scoped List

variable {σ : Type} {config : Config} {suffix : String} {children roots : List (Tree Layer)}
  {a b : List Nat} {t holder : Tree Layer}

namespace Pruning

/-- A hidden tree can be taken out before pruning. -/
theorem prune_eraseAt {below : Bool} {forest : List (Tree Element)} {u : Tree Element}
    (hat : forestAt? forest a = some u) (hhidden : isLive config u.value = false) :
    prune config below (eraseAt forest a) = prune config below forest := by
  have hskips : ∀ ts, readForest config (u :: ts) = readForest config ts := by
    intro ts
    refine Prod.ext (funext fun below => ?_) ?_
    · show sortForest config below (u :: ts) = sortForest config below ts
      simp only [sortForest, sort_of_hidden hhidden, List.nil_append]
    · simp only [readForest, List.filterMap_cons, innerText?_of_hidden hhidden]
  have hread := (reading config).eraseAt_eq hskips forest hat
  have hsorted : sortForest config below (eraseAt forest a) = sortForest config below forest :=
    congrFun (Prod.mk.inj hread).1 below
  rw [prune, prune, hsorted]

end Pruning

namespace Classification

/-- No occurrence stands on the way to an address. -/
def IsNear (children : List (Tree Layer)) (b : List Nat) : Prop :=
  ∀ c between, c <+: b → c ≠ b → forestAt? children c = some between →
    between.value.kind ≠ .occurrence

/-- The layer at an address below an occurrence may hold further properties of the occurrence: its
name says that it holds properties, and no occurrence stands between the two. -/
structure MayHold (suffix : String) (children : List (Tree Layer)) (b : List Nat)
    (holder : Tree Layer) : Prop where
  found : forestAt? children b = some holder
  named : Text.endsWith holder.value.name suffix = true
  near : IsNear children b

/-- It is the first that may, in the order in which layers are counted. -/
structure IsHolder (suffix : String) (children : List (Tree Layer)) (b : List Nat)
    (holder : Tree Layer) : Prop where
  may : MayHold suffix children b holder
  first : ∀ b' other, MayHold suffix children b' other →
    forestNumberAt children b ≤ forestNumberAt children b'

/-- The occurrence at an address of a forest, with the layer at an address below it that holds
further properties of the occurrence. -/
structure Holds (config : Config) (roots : List (Tree Layer)) (a : List Nat) (t : Tree Layer)
    (b : List Nat) (holder : Tree Layer) : Prop where
  stands : forestAt? roots a = some t
  occurrence : t.value.kind = .occurrence
  first : IsHolder config.propertiesSuffix t.children b holder

theorem IsHolder.unique {b' : List Nat} {other : Tree Layer}
    (hfirst : IsHolder suffix children b holder)
    (hother : IsHolder suffix children b' other) : b = b' ∧ holder = other := by
  have hsame : forestNumberAt children b = forestNumberAt children b' :=
    Nat.le_antisymm (hfirst.first _ _ hother.may) (hother.first _ _ hfirst.may)
  obtain rfl : b = b' := eq_of_forestNumberAt_eq children hfirst.may.found hother.may.found hsame
  exact ⟨rfl, Option.some.inj (hfirst.may.found.symm.trans hother.may.found)⟩

section Search

variable {layer : Layer} {cs ts : List (Tree Layer)}

theorem isNear_here (t : Tree Layer) (ts : List (Tree Layer)) : IsNear (t :: ts) [0] := by
  intro c between hprefix hne hbetween
  cases c with
  | nil => cases hbetween
  | cons first c =>
    obtain ⟨rfl, hc⟩ := List.cons_prefix_cons.mp hprefix
    exact absurd (congrArg (0 :: ·) (List.prefix_nil.mp hc)) hne

theorem isNear_beside_iff {t : Tree Layer} {place : Nat} {rest : List Nat} :
    IsNear (t :: ts) ((place + 1) :: rest) ↔ IsNear ts (place :: rest) := by
  -- The trees after the first one have the same layers under places one less.
  constructor
  · intro hnear c between hprefix hne hbetween
    cases c with
    | nil => cases hbetween
    | cons first c =>
      obtain ⟨rfl, hc⟩ := List.cons_prefix_cons.mp hprefix
      exact hnear ((first + 1) :: c) between (List.cons_prefix_cons.mpr ⟨rfl, hc⟩) (by simpa using hne)
        hbetween
  · intro hnear c between hprefix hne hbetween
    cases c with
    | nil => cases hbetween
    | cons first c =>
      obtain ⟨rfl, hc⟩ := List.cons_prefix_cons.mp hprefix
      exact hnear (place :: c) between (List.cons_prefix_cons.mpr ⟨rfl, hc⟩)
        (by simpa using hne) hbetween

theorem isNear_below_iff (hb : b ≠ []) :
    IsNear (.node layer cs :: ts) (0 :: b) ↔ layer.kind ≠ .occurrence ∧ IsNear cs b := by
  constructor
  · intro hnear
    have hkind : layer.kind ≠ .occurrence :=
      hnear [0] (.node layer cs) ⟨b, rfl⟩ (by simpa using hb.symm) rfl
    refine ⟨hkind, fun c between hprefix hne hbetween => ?_⟩
    have hc : c ≠ [] := ne_nil_of_forestAt? hbetween
    exact hnear (0 :: c) between (List.cons_prefix_cons.mpr ⟨rfl, hprefix⟩) (by simpa using hne)
      ((at?_of_ne_nil (.node layer cs) hc).trans hbetween)
  · rintro ⟨hkind, hnear⟩ c between hprefix hne hbetween
    -- What is between is the layer itself or a layer below it.
    match c, hbetween with
    | [first], hbetween =>
      obtain ⟨rfl, -⟩ := List.cons_prefix_cons.mp hprefix
      cases hbetween
      exact hkind
    | first :: next :: c, hbetween =>
      obtain ⟨rfl, hbelow⟩ := List.cons_prefix_cons.mp hprefix
      exact hnear (next :: c) between hbelow (by simpa using hne) hbetween

/-- A layer may hold properties if it is the first of a list and so named, if it may do so below the
first one and this is no occurrence, or if it may do so among the others. -/
theorem mayHold_cons_iff : MayHold suffix (.node layer cs :: ts) b holder ↔
    (b = [0] ∧ holder = .node layer cs ∧ Text.endsWith layer.name suffix = true) ∨
      (∃ rest, b = 0 :: rest ∧ layer.kind ≠ .occurrence ∧ MayHold suffix cs rest holder) ∨
      ∃ place rest, b = (place + 1) :: rest ∧ MayHold suffix ts (place :: rest) holder := by
  constructor
  · rintro ⟨hfound, hnamed, hnear⟩
    match b, hfound with
    | [0], hfound =>
      cases hfound
      exact .inl ⟨rfl, rfl, hnamed⟩
    | 0 :: next :: rest, hfound =>
      obtain ⟨hkind, hnear⟩ := (isNear_below_iff (List.cons_ne_nil next rest)).mp hnear
      exact .inr (.inl ⟨next :: rest, rfl, hkind, hfound, hnamed, hnear⟩)
    | (place + 1) :: rest, hfound =>
      exact .inr (.inr ⟨place, rest, rfl, hfound, hnamed, isNear_beside_iff.mp hnear⟩)
  · rintro (⟨rfl, rfl, hnamed⟩ | ⟨rest, rfl, hkind, hmay⟩ | ⟨place, rest, rfl, hmay⟩)
    · exact ⟨rfl, hnamed, isNear_here _ _⟩
    · have hrest : rest ≠ [] := ne_nil_of_forestAt? hmay.found
      refine ⟨(at?_of_ne_nil (.node layer cs) hrest).trans hmay.found, hmay.named, ?_⟩
      exact (isNear_below_iff hrest).mpr ⟨hkind, hmay.near⟩
    · exact ⟨hmay.found, hmay.named, isNear_beside_iff.mpr hmay.near⟩

/-- How the search below an occurrence can end. -/
inductive SearchOutcome (suffix : String) (children : List (Tree Layer)) (found : Option Layer) : Prop
  | found {b : List Nat} {holder : Tree Layer} (hfirst : IsHolder suffix children b holder)
      (hfound : found = some holder.value)
  | nothing (hnone : ∀ b holder, ¬ MayHold suffix children b holder) (hfound : found = none)

/-- A layer that is so named comes before all others. -/
theorem isHolder_here (hnamed : Text.endsWith layer.name suffix = true) :
    IsHolder suffix (.node layer cs :: ts) [0] (.node layer cs) where
  may := mayHold_cons_iff.mpr (.inl ⟨rfl, rfl, hnamed⟩)
  first _ _ _ := Nat.zero_le _

/-- What is below a layer comes before what is beside it. -/
theorem isHolder_below (hnamed : Text.endsWith layer.name suffix = false)
    (hkind : layer.kind ≠ .occurrence) (hfirst : IsHolder suffix cs b holder) :
    IsHolder suffix (.node layer cs :: ts) (0 :: b) holder where
  may := mayHold_cons_iff.mpr (.inr (.inl ⟨b, rfl, hkind, hfirst.may⟩))
  first b' other hother := by
    have hfound : (node layer cs).at? b = some holder := by
      rw [at?_of_ne_nil _ (ne_nil_of_forestAt? hfirst.may.found)]
      exact hfirst.may.found
    rw [forestNumberAt_zero_cons]
    rcases mayHold_cons_iff.mp hother with
      ⟨-, -, hother⟩ | ⟨rest, rfl, -, hother⟩ | ⟨place, rest, rfl, -⟩
    · rw [hnamed] at hother
      cases hother
    · have hle : forestNumberAt cs b ≤ forestNumberAt cs rest := hfirst.first rest other hother
      rw [forestNumberAt_zero_cons, numberAt_of_forestAt? layer hfirst.may.found,
        numberAt_of_forestAt? layer hother.found]
      omega
    · have hlt : (node layer cs).numberAt b < (node layer cs).size := numberAt_lt_size _ hfound
      rw [forestNumberAt_succ_cons]
      omega

section Beside

variable (hnamed : Text.endsWith layer.name suffix = false)
  (hnone : layer.kind ≠ .occurrence → ∀ b holder, ¬ MayHold suffix cs b holder)

include hnamed hnone

/-- Where nothing is found at a layer and below it, there may be something beside it. -/
theorem MayHold.beside (hmay : MayHold suffix (.node layer cs :: ts) b holder) :
    ∃ place rest, b = (place + 1) :: rest ∧ MayHold suffix ts (place :: rest) holder := by
  rcases mayHold_cons_iff.mp hmay with ⟨-, -, hother⟩ | ⟨rest, -, hkind, hother⟩ | hother
  · rw [hnamed] at hother
    cases hother
  · exact absurd hother (hnone hkind rest holder)
  · exact hother

theorem IsHolder.beside {place : Nat} (hfirst : IsHolder suffix ts (place :: b) holder) :
    IsHolder suffix (.node layer cs :: ts) ((place + 1) :: b) holder where
  may := mayHold_cons_iff.mpr (.inr (.inr ⟨place, b, rfl, hfirst.may⟩))
  first b' other hmay := by
    obtain ⟨place', rest, rfl, hother⟩ := hmay.beside hnamed hnone
    have hle : forestNumberAt ts (place :: b) ≤ forestNumberAt ts (place' :: rest) :=
      hfirst.first _ other hother
    rw [forestNumberAt_succ_cons, forestNumberAt_succ_cons]
    omega

/-- The search goes on beside the layer. -/
theorem SearchOutcome.beside {found : Option Layer} (hlater : SearchOutcome suffix ts found) :
    SearchOutcome suffix (.node layer cs :: ts) found := by
  cases hlater with
  | @found b holder hfirst hfound =>
    obtain ⟨place, rest, rfl⟩ := List.exists_cons_of_ne_nil (ne_nil_of_forestAt? hfirst.may.found)
    exact .found (hfirst.beside hnamed hnone) hfound
  | nothing hnothing hfound =>
    refine .nothing (fun b holder hmay => ?_) hfound
    obtain ⟨place, rest, -, hother⟩ := hmay.beside hnamed hnone
    exact hnothing _ holder hother

end Beside

/-- The search takes a layer that is so named, goes into others that are no occurrences, and then
on. -/
theorem firstPropertiesLayer?_cons (suffix : String) (layer : Layer) (cs ts : List (Tree Layer)) :
    firstPropertiesLayer? suffix (.node layer cs :: ts) =
      if Text.endsWith layer.name suffix = true then some layer
      else if layer.kind = .occurrence then firstPropertiesLayer? suffix ts
      else (firstPropertiesLayer? suffix cs).or (firstPropertiesLayer? suffix ts) := by
  rw [firstPropertiesLayer?, propertiesLayer?]
  by_cases hnamed : Text.endsWith layer.name suffix = true
  · simp only [hnamed, if_true]
  · by_cases hkind : layer.kind = .occurrence
    · simp only [hnamed, hkind, if_true, Bool.false_eq_true, if_false]
    · simp only [hnamed, hkind, Bool.false_eq_true, if_false]
      cases firstPropertiesLayer? suffix cs <;> rfl

/-- The search ends at the first layer that may hold properties. -/
theorem searchOutcome (suffix : String) : ∀ children : List (Tree Layer),
    SearchOutcome suffix children (firstPropertiesLayer? suffix children)
  | [] => by
    refine .nothing (fun b holder hmay => ?_) rfl
    cases b <;> cases hmay.found
  | .node layer cs :: ts => by
    have hbelow : SearchOutcome suffix cs (firstPropertiesLayer? suffix cs) := searchOutcome suffix cs
    have hlater : SearchOutcome suffix ts (firstPropertiesLayer? suffix ts) := searchOutcome suffix ts
    rw [firstPropertiesLayer?_cons]
    cases hnamed : Text.endsWith layer.name suffix with
    | true => exact .found (isHolder_here hnamed) rfl
    | false =>
      rw [if_neg Bool.false_ne_true]
      by_cases hkind : layer.kind = .occurrence
      · rw [if_pos hkind]
        exact hlater.beside hnamed fun hother => absurd hkind hother
      · rw [if_neg hkind]
        cases hbelow with
        | found hfirst hfound =>
          rw [hfound, Option.some_or]
          exact .found (isHolder_below hnamed hkind hfirst) rfl
        | nothing hnone hfound =>
          rw [hfound, Option.none_or]
          exact hlater.beside hnamed fun _ => hnone

end Search

theorem exists_isHolder (hmay : MayHold suffix children b holder) :
    ∃ b holder, IsHolder suffix children b holder := by
  cases searchOutcome suffix children with
  | found hfirst _ => exact ⟨_, _, hfirst⟩
  | nothing hnone _ => exact absurd hmay (hnone b holder)

theorem holder?_eq_none (hnone : ∀ b holder, ¬ MayHold config.propertiesSuffix t.children b holder) :
    holder? config t = none := by
  cases searchOutcome config.propertiesSuffix t.children with
  | found hfirst _ => exact absurd hfirst.may (hnone _ _)
  | nothing _ hfound => rw [holder?, hfound, ite_self]

namespace Holds

variable {a' b' : List Nat} {t' holder' : Tree Layer}

theorem holder?_eq (hholds : Holds config roots a t b holder) :
    holder? config t = some holder.value := by
  cases searchOutcome config.propertiesSuffix t.children with
  | found hfirst hfound =>
    obtain ⟨-, rfl⟩ := hholds.first.unique hfirst
    rw [holder?, if_pos hholds.occurrence, hfound]
  | nothing hnone _ => exact absurd hholds.first.may (hnone _ _)

/-- The layer that holds further properties of an occurrence stands below it. -/
theorem forestAt?_place (hholds : Holds config roots a t b holder) :
    forestAt? roots (a ++ b) = some holder := by
  rw [forestAt?_append hholds.stands (ne_nil_of_forestAt? hholds.first.may.found)]
  exact hholds.first.may.found

/-- An occurrence further down holds its own. -/
theorem eq_nil_of_place_eq (hholds : Holds config roots a t b holder) {c : List Nat}
    (hbelow : Holds config roots (a ++ c) t' b' holder') (hb : b = c ++ b') : c = [] := by
  by_contra hc
  have hbetween : forestAt? t.children c = some t' := by
    rw [← forestAt?_append hholds.stands hc]
    exact hbelow.stands
  have hne : c ≠ b := by
    intro hcb
    have hnil : b' = [] := List.self_eq_append_right.mp (hcb.trans hb)
    exact ne_nil_of_forestAt? hbelow.first.may.found hnil
  exact hholds.first.may.near c t' ⟨b', hb.symm⟩ hne hbetween hbelow.occurrence

/-- A layer holds further properties of one occurrence only, and this has no other such layer. -/
theorem place_unique (hholds : Holds config roots a t b holder)
    (hholds' : Holds config roots a' t' b' holder') : a ++ b = a' ++ b' ↔ a = a' := by
  constructor
  · intro hsame
    rcases List.append_eq_append_iff.mp hsame with ⟨c, rfl, hb⟩ | ⟨c, rfl, hb'⟩
    · rw [hholds.eq_nil_of_place_eq hholds' hb, List.append_nil]
    · rw [hholds'.eq_nil_of_place_eq hholds hb', List.append_nil]
  · rintro rfl
    obtain rfl : t = t' := Option.some.inj (hholds.stands.symm.trans hholds'.stands)
    rw [(hholds.first.unique hholds'.first).1]

end Holds

/-- A layer that is named as holding properties becomes a hidden element. -/
theorem isLive_of_named {e : Element} (hnamed : Text.endsWith e.name config.propertiesSuffix = true) :
    Pruning.isLive config e = false := by
  simp [Pruning.isLive, Config.ignoresName, hnamed]

/-- What the layers that hold further properties are to the elements of a forest. -/
structure HoldersSettled (host : Host σ) (config : Config) (roots : List (Tree Layer)) (s : σ) :
    Prop where
  /-- If a layer below an occurrence may hold further properties of it, the first such layer
  does. -/
  held : ∀ a t b holder, forestAt? roots a = some t → t.value.kind = .occurrence →
    MayHold config.propertiesSuffix t.children b holder →
      ∃ b' holder', Holds config roots a t b' holder'
  /-- The occurrence comes out with its own properties and those of this layer, which are laid
  over. -/
  merged : ∀ a t b holder, Holds config roots a t b holder →
    let own := (Property.resolve host config t.value (turnAt host config roots a s)).1
    let further := (Property.resolve host config holder.value (secondAt host config roots a t s)).1
    propertiesFound host config roots a s = some (own.overlay further) ∧
      ∀ key, (own.overlay further).get? key = (further.get? key).or (own.get? key)
  /-- Other occurrences come out with their own properties. -/
  alone : ∀ a t, forestAt? roots a = some t → t.value.kind = .occurrence →
    (∀ b holder, ¬ MayHold config.propertiesSuffix t.children b holder) →
    propertiesFound host config roots a s =
      some (Property.resolve host config t.value (turnAt host config roots a s)).1
  /-- A layer that holds further properties does so for one occurrence, and this has no other
  one. -/
  apart : ∀ a t b holder a' t' b' holder', Holds config roots a t b holder →
    Holds config roots a' t' b' holder' → (a ++ b = a' ++ b' ↔ a = a')
  /-- The pruned forest is the same without the element of this layer and what stands below it, so
  what is left are other elements, their texts aside, each at most as often as it occurs
  elsewhere. -/
  dropped : ∀ a t b holder, Holds config roots a t b holder → ∀ below,
    let elements := ((classifyForest host config roots).run s).1
    Pruning.prune config below (eraseAt elements (a ++ b)) = Pruning.prune config below elements ∧
      forestKeys Pruning.core (Pruning.prune config below elements) <+~
        forestKeys Pruning.core (eraseAt elements (a ++ b))
  /-- Where ids are distinct, the ids of this layer and those below it are not in the pruned
  forest. -/
  absent : (forestKeys Layer.id roots).Nodup → ∀ a t b holder, Holds config roots a t b holder →
    ∀ below, ∀ layer ∈ holder.values,
      layer.id ∉ forestIds (Pruning.prune config below ((classifyForest host config roots).run s).1)

section Settled

variable (host : Host σ) (s : σ)

theorem propertiesFound_occurrence (hat : forestAt? roots a = some t)
    (hkind : t.value.kind = .occurrence) :
    propertiesFound host config roots a s =
      some (propertiesOf host config t (turnAt host config roots a s)).1 := by
  rw [propertiesFound_eq hat, hkind]
  rfl

/-- The element of a layer that holds further properties is hidden, and what stands below has the
ids of the layers there. -/
theorem Holds.exists_hidden (hholds : Holds config roots a t b holder) :
    ∃ u, forestAt? ((classifyForest host config roots).run s).1 (a ++ b) = some u ∧
      Pruning.isLive config u.value = false ∧ u.keys Element.id = holder.keys Layer.id := by
  obtain ⟨u, hat, hvalue, hids⟩ := exists_element_at hholds.forestAt?_place host config s
  refine ⟨u, hat, ?_, hids⟩
  rw [hvalue]
  exact isLive_of_named hholds.first.may.named

theorem Holds.notMem_prune (hids : (forestKeys Layer.id roots).Nodup)
    (hholds : Holds config roots a t b holder) (below : Bool) {layer : Layer}
    (hlayer : layer ∈ holder.values) :
    layer.id ∉ forestIds (Pruning.prune config below ((classifyForest host config roots).run s).1) := by
  obtain ⟨u, hat, hhidden, hkeys⟩ := hholds.exists_hidden host s
  have hdistinct : (forestIds ((classifyForest host config roots).run s).1).Nodup := by
    rw [forestIds]
    exact forestKeys_id_classifyForest host config roots { host := s } ▸ hids
  -- What is left was left without the element, and then its ids are no longer there to be left.
  rw [← Pruning.prune_eraseAt hat hhidden]
  have hparts := forestKeys_perm_eraseAt Element.id _ hat
  have hapart := List.nodup_append.mp (hparts.nodup_iff.mp hdistinct)
  have hmem : layer.id ∈ u.keys Element.id := hkeys ▸ List.mem_map_of_mem hlayer
  intro hleft
  exact hapart.2.2 _ hmem _ (Pruning.forestIds_prune_subset _ _ _ hleft) rfl

end Settled

/-- Every occurrence takes the properties of the first layer below it that is named as holding
properties and is not inside a further occurrence; this layer belongs to no other occurrence and
leaves nothing in the pruned forest. -/
theorem holdersSettled (host : Host σ) (config : Config) (roots : List (Tree Layer)) (s : σ) :
    HoldersSettled host config roots s where
  held a t b holder hat hkind hmay := by
    obtain ⟨b', holder', hfirst⟩ := exists_isHolder hmay
    exact ⟨b', holder', hat, hkind, hfirst⟩
  merged a t b holder hholds := by
    refine ⟨?_, fun key => Mapping.get?_overlay _ _ key⟩
    rw [propertiesFound_occurrence host s hholds.stands hholds.occurrence, propertiesOf_fst,
      hholds.holder?_eq, Option.elim_some]
    rfl
  alone a t hat hkind hnone := by
    rw [propertiesFound_occurrence host s hat hkind, propertiesOf_fst, holder?_eq_none hnone,
      Option.elim_none]
    rfl
  apart a t b holder a' t' b' holder' hholds hholds' := hholds.place_unique hholds'
  dropped a t b holder hholds below := by
    intro elements
    obtain ⟨u, hat, hhidden, -⟩ := hholds.exists_hidden host s
    have hsame : Pruning.prune config below (eraseAt elements (a ++ b)) =
        Pruning.prune config below elements := Pruning.prune_eraseAt hat hhidden
    exact ⟨hsame, hsame ▸ Pruning.forestKeys_core_prune_subperm config below _⟩
  absent hids a t b holder hholds below layer hlayer := hholds.notMem_prune host s hids below hlayer

/-- An icon with a layer that holds its tone. -/
def toneIcon : Tree Layer :=
  .node { id := "6", name := "UIcon", kind := .occurrence } [toneLayer]

/-- A layer that holds the size of a card, with a text in it. -/
def sizeLayer : Tree Layer :=
  .node { id := "4", name := "more_properties", kind := .occurrence,
          properties := .ofList [("size", .string "big"), ("label", .string "Go")] }
    [.node { id := "5", name := "Word", kind := .text, characters := some "Ok" } []]

/-- A card with the icon and, in a hidden frame, the layer that holds its size. -/
def nestedCard : Tree Layer :=
  .node { id := "1", name := "UCard", kind := .occurrence,
          properties := .ofList [("label", .string "Hi")] }
    [toneIcon, .node { id := "3", name := "_more", kind := .frame } [sizeLayer]]

/-- The card takes its size from the hidden frame and leaves the tone to the icon. -/
theorem holdersSettled_nestedCard :
    Holds {} [nestedCard] [0] nestedCard [1, 0] sizeLayer ∧
      Holds {} [nestedCard] [0, 0] toneIcon [0] toneLayer ∧
      (propertiesFound lostMainHost {} [nestedCard] [0] ()).map Mapping.entries =
        some [("label", .text "Go"), ("size", .text "big")] ∧
      (propertiesFound lostMainHost {} [nestedCard] [0, 0] ()).map Mapping.entries =
        some [("tone", .text "warm")] ∧
      "5" ∉ forestIds
        (Pruning.prune {} false ((classifyForest lostMainHost {} [nestedCard]).run ()).1) := by
  have hsettled : HoldersSettled lostMainHost {} [nestedCard] () := holdersSettled _ _ _ _
  have hicon : ∀ b holder, toneIcon.value.kind ≠ .occurrence →
      ¬ MayHold (Config.propertiesSuffix {}) [toneLayer] b holder :=
    fun _ _ hother => absurd rfl hother
  have hframe : IsHolder (Config.propertiesSuffix {}) nestedCard.children [1, 0] sizeLayer :=
    (isHolder_below (by decide) (by decide) (isHolder_here (by decide))).beside (by decide)
      fun hother b holder => hicon b holder hother
  have hcard : Holds {} [nestedCard] [0] nestedCard [1, 0] sizeLayer := ⟨rfl, rfl, hframe⟩
  have hword :
      { id := "5", name := "Word", kind := .text, characters := some "Ok" } ∈ sizeLayer.values :=
    List.mem_cons_of_mem _ List.mem_cons_self
  refine ⟨hcard, ⟨rfl, rfl, isHolder_here (by decide)⟩, by decide +kernel, by decide +kernel, ?_⟩
  exact hsettled.absent (by decide) _ _ _ _ hcard false _ hword

end Classification

end LayerMarkup
