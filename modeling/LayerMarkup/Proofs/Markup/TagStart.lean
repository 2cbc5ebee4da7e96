import LayerMarkup.Markup.OfElements
import LayerMarkup.Proofs.Name.Letters
import LayerMarkup.Proofs.Pruning.Origin

/-!
# Names that bear the start of tags

Pruning keeps components whose names begin with the start of tags, and a tag gets the start in front
unless its letters begin with it.  The two agree on all names but those in whose first characters
the dotted capital I or the Kelvin sign stands for an ASCII letter (`tagName_of_mem_prune`): pruning
looks at the lower-case form of the name, and a tag is made of the ASCII letters of the name alone.
-/

namespace LayerMarkup.Markup

open LayerMarkup.Tree
open LayerMarkup.Pruning

/-- A component that is left and is no template is named as the convention asks. -/
theorem matchesStart_of_mem_prune {config : Config} {below : Bool} {forest : List (Tree Element)}
    {e : Element} (he : e ∈ forestValues (prune config below forest))
    (htype : e.dataType = some .component) (hname : config.isTemplateName e.name = false) :
    config.matchesStart e.name = true := by
  have hkept := (kept_of_mem_prune he).2
  rw [htype] at hkept
  rcases hkept with hcontainer | ⟨-, htemplate | hconvention⟩
  · cases hcontainer
  · rw [hname] at htemplate
    cases htemplate.1
  · exact hconvention.2.2

/-- Where names must begin with the start of tags, a component that is left and is no template gets
a tag of its own words, if neither the dotted capital I nor the Kelvin sign is among as many first
characters of its name as the start has.  In any case it gets this tag if its letters and digits
begin with the start, and the start in front of it if they do not. -/
theorem tagName_of_mem_prune (config : Config) (below : Bool) (forest : List (Tree Element))
    (hmatch : config.matchStart = true) :
    ∀ e ∈ forestValues (prune config below forest), e.dataType = some .component →
      config.isTemplateName e.name = false →
        ((∀ c ∈ e.name.toList.take config.tagStart.length, ¬ Text.LowersToAscii c) →
          tagName config e = Name.pascalCase e.name) ∧
        tagName config e =
          if Name.BearsStart e.name config.tagStart then Name.pascalCase e.name
          else config.tagStart ++ Name.pascalCase e.name := by
  intro e he htype hname
  have htag : tagName config e =
      if Name.BearsStart e.name config.tagStart then Name.pascalCase e.name
      else config.tagStart ++ Name.pascalCase e.name := by
    rw [← Name.tag_eq]
    simp [tagName, htype, isSlotTemplate, hname]
  refine ⟨fun hplain => ?_, htag⟩
  -- The component is kept for the lower-case form of its whole name, not for its letters and
  -- digits.
  have hlower : Text.startsWith (Text.lower e.name) (Text.lower config.tagStart) = true := by
    simpa [Config.matchesStart, hmatch] using matchesStart_of_mem_prune he htype hname
  rw [htag, if_pos (Name.bearsStart_of_lower config.tagStart_tagChars hplain hlower)]

/-- A component that stands alone and is kept for its name stays as it is. -/
theorem prune_alone {config : Config} {e : Element} (hlive : isLive config e = true)
    (htype : e.dataType = some .component) (hrole : role config e = .keep false) :
    prune config false [.node e []] = [.node e []] := by
  have hsort : sort config false (.node e []) = { kept := [keep config false e [] []] } := by
    simp [sort, hlive, htype, hrole, sortForest, Sorted.all]
  rw [prune, sortForest, hsort]
  rfl

/-- A component with a dotted capital I behind the start of tags. -/
def dottedCard : Element where
  id := "1"
  name := "el\u0130con"
  kind := .occurrence
  dataType := some .component

theorem tagName_dottedCard :
    dottedCard ∈ forestValues (prune { tagStart := "El" } false [.node dottedCard []]) ∧
      (∀ c ∈ dottedCard.name.toList.take 2, ¬ Text.LowersToAscii c) ∧
      tagName { tagStart := "El" } dottedCard = Name.pascalCase dottedCard.name ∧
      Name.pascalCase dottedCard.name = "ElCon" := by
  have hleft : dottedCard ∈ forestValues (prune { tagStart := "El" } false [.node dottedCard []]) := by
    rw [prune_alone (by decide +kernel) rfl (by decide +kernel)]
    exact List.mem_cons_self
  have hplain : ∀ c ∈ dottedCard.name.toList.take 2, ¬ Text.LowersToAscii c := by
    simp [dottedCard, Text.LowersToAscii]
  have htag :=
    tagName_of_mem_prune { tagStart := "El" } false [.node dottedCard []] rfl dottedCard hleft
    rfl (by decide +kernel)
  exact ⟨hleft, hplain, htag.1 hplain, by decide +kernel⟩

/-- A component with a Kelvin sign in the place of the start of tags. -/
def kelvinCard : Element where
  id := "1"
  name := "\u212Aard"
  kind := .occurrence
  dataType := some .component

/-- The component is kept because the Kelvin sign has a small k as its lower-case form; but the sign
is no part of the tag, and the start comes in front of what is left of the name. -/
theorem tagName_kelvinCard :
    ({ tagStart := "k" } : Config).matchStart = true ∧ kelvinCard.dataType = some .component ∧
      kelvinCard ∈ forestValues (prune { tagStart := "k" } false [.node kelvinCard []]) ∧
      ({ tagStart := "k" } : Config).isTemplateName kelvinCard.name = false ∧
      ({ tagStart := "k" } : Config).isReferenceName kelvinCard.name = false ∧
      tagName { tagStart := "k" } kelvinCard = "kArd" ∧
      tagName { tagStart := "k" } kelvinCard ≠ Name.pascalCase kelvinCard.name := by
  refine ⟨rfl, rfl, ?_, by decide +kernel, by decide +kernel, by decide +kernel, by decide +kernel⟩
  rw [prune_alone (by decide +kernel) rfl (by decide +kernel)]
  exact List.mem_cons_self

end LayerMarkup.Markup
