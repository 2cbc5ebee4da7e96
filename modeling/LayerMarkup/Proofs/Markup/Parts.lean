import LayerMarkup.Markup.Render

/-!
# Markup by parts

The markup of a forest can be put together from the markup of its parts.  A named tag is never
rendered as nothing (`renderTree_ne_empty`), so a part is without markup only if there is nothing in
it, and leaves no line behind (`render_flatten`).
-/

namespace LayerMarkup

namespace Text

variable {separator : String}

theorem joinWith_cons (s : String) {rest : List String} (hrest : rest ≠ []) :
    joinWith separator (s :: rest) = s ++ separator ++ joinWith separator rest := by
  cases rest with
  | nil => exact absurd rfl hrest
  | cons t rest => rfl

theorem joinWith_append {a b : List String} (ha : a ≠ []) (hb : b ≠ []) :
    joinWith separator (a ++ b) = joinWith separator a ++ separator ++ joinWith separator b := by
  induction a with
  | nil => exact absurd rfl ha
  | cons s rest ih =>
    cases rest with
    | nil => exact joinWith_cons s hb
    | cons t rest =>
      have hrest : t :: rest ≠ [] := List.cons_ne_nil t rest
      have hall : t :: rest ++ b ≠ [] := List.append_ne_nil_of_left_ne_nil hrest b
      rw [List.cons_append, joinWith_cons s hall, ih hrest, joinWith_cons s hrest]
      simp only [String.append_assoc]

@[simp] theorem joinLines_singleton (line : String) : joinLines [line] = line := rfl

theorem joinLines_append {a b : List String} (ha : a ≠ []) (hb : b ≠ []) :
    joinLines (a ++ b) = joinLines a ++ "\n" ++ joinLines b :=
  joinWith_append ha hb

theorem joinLines_cons (line : String) (rest : List String) :
    joinLines (line :: rest) = line ++ String.join (rest.map ("\n" ++ ·)) := by
  induction rest generalizing line with
  | nil => simp
  | cons next rest ih =>
    rw [joinLines, joinWith_cons line (List.cons_ne_nil next rest), List.map_cons, String.join_cons,
      ← joinLines, ih next]
    simp only [String.append_assoc]

/-- Lines in a row are put together from parts that have some each. -/
theorem joinLines_flatMap {α : Type} {lines : α → List String} {parts : List α}
    (hparts : ∀ part ∈ parts, lines part ≠ []) :
    joinLines (parts.flatMap lines) = joinLines (parts.map fun part => joinLines (lines part)) := by
  induction parts with
  | nil => rfl
  | cons part parts ih =>
    have hfirst : lines part ≠ [] := hparts part List.mem_cons_self
    have hlater : ∀ other ∈ parts, lines other ≠ [] :=
      fun other hother => hparts other (List.mem_cons_of_mem _ hother)
    cases parts with
    | nil => simp
    | cons next parts =>
      have hrest : (next :: parts).flatMap lines ≠ [] := by
        rw [List.flatMap_cons]
        exact List.append_ne_nil_of_left_ne_nil (hlater next List.mem_cons_self) _
      rw [List.flatMap_cons, joinLines_append hfirst hrest, ih hlater]
      rfl

theorem joinLines_eq_empty_iff {lines : List String} (hlines : ∀ line ∈ lines, line ≠ "") :
    joinLines lines = "" ↔ lines = [] := by
  constructor
  · intro hempty
    cases lines with
    | nil => rfl
    | cons line rest =>
      have hline : line ≠ "" := hlines line List.mem_cons_self
      cases rest with
      | nil => exact absurd hempty hline
      | cons next rest => simp [joinLines, joinWith, String.append_eq_empty_iff] at hempty
  · rintro rfl
    rfl

/-- Parts that are joined to nothing have no lines, and may be left out. -/
theorem joinLines_flatten {parts : List (List String)}
    (hlines : ∀ part ∈ parts, ∀ line ∈ part, line ≠ "") :
    joinLines parts.flatten = joinLines ((parts.map joinLines).filter (· ≠ "")) := by
  induction parts with
  | nil => rfl
  | cons part parts ih =>
    have hlater := ih fun other hother => hlines other (List.mem_cons_of_mem _ hother)
    rw [List.flatten_cons, List.map_cons]
    by_cases hpart : part = []
    · rw [hpart, List.nil_append, hlater]
      rfl
    · have hkept : joinLines part ≠ "" := by
        rwa [Ne, joinLines_eq_empty_iff (hlines part List.mem_cons_self)]
      rw [List.filter_cons_of_pos (by simpa using hkept)]
      -- The later parts have lines together if and only if one of them is joined to something.
      have hflat : parts.flatten = [] ↔ (parts.map joinLines).filter (· ≠ "") = [] := by
        rw [← joinLines_eq_empty_iff, hlater, joinLines_eq_empty_iff]
        · intro line hline
          simpa using (List.mem_filter.mp hline).2
        · intro line hline
          obtain ⟨other, hother, hline⟩ := List.mem_flatten.mp hline
          exact hlines other (List.mem_cons_of_mem _ hother) line hline
      by_cases hrest : parts.flatten = []
      · rw [hrest, hflat.mp hrest, List.append_nil]
        rfl
      · rw [joinLines, joinWith_append hpart hrest, joinLines,
          joinWith_cons _ fun hnone => hrest (hflat.mpr hnone)]
        exact congrArg (joinLines part ++ "\n" ++ ·) hlater

end Text

namespace Markup

variable {config : Config} {indent : Int}

theorem opening_ne_empty (name : String) (tag : Tag) : opening config indent name tag ≠ "" := by
  simp [opening, String.append_eq_empty_iff]

theorem renderTree_ne_empty {t : Tree Tag} (hname : t.value.name ≠ none) :
    renderTree config indent t ≠ "" := by
  obtain ⟨tag, children⟩ := t
  obtain ⟨name, hname⟩ := Option.ne_none_iff_exists'.mp hname
  have hstart : opening config indent name tag ≠ "" := opening_ne_empty name tag
  have hname' : tag.name = some name := hname
  unfold renderTree
  cases children <;> cases tag.text <;> simp [hname', String.append_eq_empty_iff, hstart]

/-- The markup of parts in a row is made of the markup of each part, less that of empty parts. -/
theorem render_flatten {parts : List (List (Tree Tag))}
    (hnames : ∀ part ∈ parts, ∀ t ∈ part, t.value.name ≠ none) :
    render config indent parts.flatten =
      Text.joinLines ((parts.map (render config indent)).filter (· ≠ "")) := by
  have hlines : ∀ lines ∈ parts.map (List.map (renderTree config indent)), ∀ line ∈ lines,
      line ≠ "" := by
    intro lines hlines line hline
    obtain ⟨part, hpart, rfl⟩ := List.mem_map.mp hlines
    obtain ⟨t, ht, rfl⟩ := List.mem_map.mp hline
    exact renderTree_ne_empty (hnames part hpart t ht)
  have hjoined := Text.joinLines_flatten hlines
  rw [← List.map_flatten, List.map_map] at hjoined
  have hrender : render config indent = Text.joinLines ∘ List.map (renderTree config indent) := by
    funext part
    rw [render, renderForest_eq_map]
    rfl
  rw [hrender]
  exact hjoined

end Markup

end LayerMarkup
