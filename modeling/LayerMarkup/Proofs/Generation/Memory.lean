import LayerMarkup.Proofs.Generation.Hidden

/-!
# How much is remembered

The number of components whose defaults are remembered shows in the number of questions, and should
show nowhere else.  As long as there is room for one answer it does not, and neither does it matter
how much less than one answer there is room for (`generate_eq_of_memory`).

Between the two it matters.  With room for nothing, an answer that cannot be kept is lost together
with the lookup, so a generation goes as if the host had no defaults at all.
-/

namespace LayerMarkup

variable {σ : Type}

namespace Host

/-- The host that is asked in vain for defaults. -/
def withoutDefaults (host : Host σ) : Host σ where
  mainComponent := host.mainComponent
  defaults id := fun s => (.error (.lookup id "Defaults unavailable"), (host.defaults id s).2)

theorem DependsOnId.withoutDefaults {host : Host σ} (hanswers : host.DependsOnId) :
    host.withoutDefaults.DependsOnId :=
  fun id s t => ⟨(hanswers id s t).1, rfl⟩

end Host

namespace Answers

/-- The answers say the same about main components, and know the same defaults. -/
structure Agrees (answers other : Answers) : Prop where
  mainComponent : answers.mainComponent = other.mainComponent
  defaults : ∀ id, (answers.defaults id).toOption = (other.defaults id).toOption

theorem remembered_congr {a b : Int} (hroom : 0 < a ↔ 0 < b) (answers : Answers) :
    answers.remembered a = answers.remembered b := by
  have hfull : a ≤ 0 ↔ b ≤ 0 := by omega
  simp only [remembered, hfull]

/-- With room for nothing no defaults are known, just as if the host had none. -/
theorem remembered_agrees_withoutDefaults {a b : Int} (hfull : a ≤ 0) (host : Host σ) (s : σ) :
    ((host.answersIn s).remembered a).Agrees ((host.withoutDefaults.answersIn s).remembered b) where
  mainComponent := rfl
  defaults id := by
    simp only [remembered, hfull, if_true]
    cases (host.answersIn s).defaults id <;> rfl

variable {answers other : Answers} {config : Config}

theorem Agrees.knownDefaults (hagrees : answers.Agrees other) (layer : Layer) :
    Property.knownDefaults answers layer = Property.knownDefaults other layer := by
  simp only [Property.knownDefaults, hagrees.mainComponent, hagrees.defaults]

/-- Elements depend on nothing but the main components and the known defaults. -/
theorem Agrees.elementAt (hagrees : answers.Agrees other) :
    Classification.elementAt answers config = Classification.elementAt other config := by
  have hresolved : Property.resolved answers config = Property.resolved other config := by
    funext layer
    rw [Property.resolved, Property.resolved, hagrees.knownDefaults]
  funext t
  obtain ⟨layer, children⟩ := t
  simp only [Classification.elementAt, Classification.propertiesAt, hresolved]

end Answers

namespace Generator

variable {config : Config} {host other : Host σ} {roots : List (Tree Layer)} {a b : Int}

/-- Two generations from answers that agree give the same markup and elements. -/
theorem generate_eq_of_agrees (hanswers : host.DependsOnId) (hother : other.DependsOnId)
    (hroots : roots ≠ []) (s t : σ)
    (hagrees : ((host.answersIn s).remembered a).Agrees ((other.answersIn s).remembered b)) :
    ∃ made made',
      ((Generator.generate { config, memory := a } host roots).run s).1 = .ok made ∧
      ((Generator.generate { config, memory := b } other roots).run t).1 = .ok made' ∧
      made.markup = made'.markup ∧ made.forest = made'.forest := by
  let first : Generator := { config, memory := a }
  let second : Generator := { config, memory := b }
  have hclassified : (first.classified host roots { host := s }).1 =
      (second.classified other roots { host := t }).1 := by
    rw [first.classified_of_dependsOnId hanswers roots s s,
      second.classified_of_dependsOnId hother roots s t]
    exact congrArg (Tree.mapSubtreesForest · roots) hagrees.elementAt
  have hpruned := congrArg (Pruning.prune config false) hclassified
  refine ⟨_, _, generate_of_typed (g := first) rfl hroots host { host := s },
    generate_of_typed (g := second) rfl hroots other { host := t }, ?_, hpruned⟩
  exact congrArg (fun forest => Markup.render config 0 (Markup.ofElements config forest)) hpruned

/-- Any two sizes of memory with room for an answer give the same markup and elements, and so do any
two without.  A size without room gives what any size gives where there are no defaults. -/
theorem generate_eq_of_memory (config : Config) (hanswers : host.DependsOnId) (hroots : roots ≠ [])
    (a b : Int) (s t : σ) :
    ((0 < a ↔ 0 < b) → ∃ made made',
      ((Generator.generate { config, memory := a } host roots).run s).1 = .ok made ∧
      ((Generator.generate { config, memory := b } host roots).run t).1 = .ok made' ∧
      made.markup = made'.markup ∧ made.forest = made'.forest) ∧
    (a ≤ 0 → ∃ made made',
      ((Generator.generate { config, memory := a } host roots).run s).1 = .ok made ∧
      ((Generator.generate { config, memory := b } host.withoutDefaults roots).run t).1 = .ok made' ∧
      made.markup = made'.markup ∧ made.forest = made'.forest) := by
  constructor
  · intro hroom
    refine generate_eq_of_agrees hanswers hanswers hroots s t ?_
    rw [Answers.remembered_congr hroom]
    exact ⟨rfl, fun _ => rfl⟩
  · intro hfull
    exact generate_eq_of_agrees hanswers hanswers.withoutDefaults hroots s t
      (Answers.remembered_agrees_withoutDefaults hfull host s)

/-- A card that is as small as its component says by default. -/
def smallCard : List (Tree Layer) :=
  [.node { id := "1", name := "UCard", kind := .occurrence,
           properties := .ofList [("size", .string "small")] } []]

/-- With room for one answer or for many, the card shows nothing. -/
theorem generate_eq_of_memory_smallCard :
    oneComponentHost.DependsOnId ∧ smallCard ≠ [] ∧ ((0 : Int) < 1 ↔ (0 : Int) < 256) ∧
      ((Generator.generate { memory := 1 } oneComponentHost smallCard).run ()).1.toOption.map
        Generated.markup = some "<Ucard />" ∧
      ∃ made made',
        ((Generator.generate { memory := 1 } oneComponentHost smallCard).run ()).1 = .ok made ∧
        ((Generator.generate { memory := 256 } oneComponentHost smallCard).run ()).1 = .ok made' ∧
        made.markup = made'.markup ∧ made.forest = made'.forest := by
  have hanswers : oneComponentHost.DependsOnId := Host.dependsOnId_ofAnswers _ _
  have hroots : smallCard ≠ [] := List.cons_ne_nil _ _
  have hroom : (0 : Int) < 1 ↔ (0 : Int) < 256 := by decide
  exact ⟨hanswers, hroots, hroom, by decide +kernel,
    (generate_eq_of_memory {} hanswers hroots 1 256 () ()).1 hroom⟩

/-- With room for nothing, the default of the card is lost, and its size is shown. -/
theorem generate_smallCard_without_room :
    oneComponentHost.DependsOnId ∧ smallCard ≠ [] ∧
      ∃ made made',
        ((Generator.generate { memory := 0 } oneComponentHost smallCard).run ()).1 = .ok made ∧
        ((Generator.generate { memory := 1 } oneComponentHost smallCard).run ()).1 = .ok made' ∧
        made.markup = "<Ucard size=\"small\" />" ∧ made'.markup = "<Ucard />" := by
  refine ⟨Host.dependsOnId_ofAnswers _ _, List.cons_ne_nil _ _, ?_⟩
  have hmade := generate_of_typed (g := { memory := 0 }) rfl (List.cons_ne_nil _ _ : smallCard ≠ [])
    oneComponentHost { host := () }
  have hmade' := generate_of_typed (g := { memory := 1 }) rfl (List.cons_ne_nil _ _ : smallCard ≠ [])
    oneComponentHost { host := () }
  exact ⟨_, _, hmade, hmade', by decide +kernel, by decide +kernel⟩

end Generator

end LayerMarkup
