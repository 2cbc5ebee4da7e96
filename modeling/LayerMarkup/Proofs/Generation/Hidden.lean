import LayerMarkup.Proofs.Generation.Outcome
import LayerMarkup.Proofs.Tree.Replaced

/-!
# Hidden content

What an invisible layer holds, or one with an ignored name, does not show in the result of a
generation: with other hidden content in its place the markup and the elements are the same
(`generate_eq_of_replaced`).

Hidden layers are classified like all others, so there are three ways in which they could be
noticed.  The host is asked about them, and what it says is remembered with the rest: this changes
no answers (`classified_of_follows`).  A layer that holds further properties is searched for below
every occurrence, hidden or not: hidden content is excluded from the search by its names
(`elementAt_eq_of_replaced`).  A container takes the texts below it: those of hidden layers do not
count (`Pruning.prune_eq_of_replaced`).
-/

namespace LayerMarkup

namespace Pruning

variable {config : Config} {below : Bool} {old new : Tree Element}
  {forest forest' : List (Tree Element)}

theorem sort_of_hidden {t : Tree Element} (hhidden : isLive config t.value = false) :
    sort config below t = {} := by
  obtain ⟨e, children⟩ := t
  have he : isLive config e = false := hhidden
  simp [sort, he]

theorem innerText?_of_hidden {e : Element} (hhidden : isLive config e = false) :
    innerText? config e = none := by
  simp [innerText?, hhidden]

/-- What an element can learn of a tree that it holds. -/
def readTree (config : Config) (t : Tree Element) : (Bool → Sorted) × Option String :=
  (fun below => sort config below t, innerText? config t.value)

/-- What an element can learn of its children. -/
def readForest (config : Config) (forest : List (Tree Element)) : (Bool → Sorted) × List String :=
  (fun below => sortForest config below forest,
    forest.filterMap fun child => innerText? config child.value)

theorem reading (config : Config) : Tree.Replaced.Reading (readTree config) (readForest config) where
  cons {t t' ts ts'} htree hforest := by
    obtain ⟨hsort, htext⟩ := Prod.mk.inj htree
    obtain ⟨hsorts, htexts⟩ := Prod.mk.inj hforest
    refine Prod.ext (funext fun below => ?_) ?_
    · have hfirst : sort config below t = sort config below t' := congrFun hsort below
      have hrest : sortForest config below ts = sortForest config below ts' := congrFun hsorts below
      simp only [readForest, sortForest, hfirst, hrest]
    · simp only [readForest, List.filterMap_cons, htext, htexts]
  node e {cs cs'} hforest := by
    obtain ⟨hsorts, htexts⟩ := Prod.mk.inj hforest
    have hbelow : ∀ below, sortForest config below cs = sortForest config below cs' :=
      congrFun hsorts
    have hkeep : ∀ takesText pruned,
        keep config takesText e cs pruned = keep config takesText e cs' pruned := by
      intro takesText pruned
      simp only [keep, inlineText?, htexts]
    refine Prod.ext (funext fun below => ?_) rfl
    simp only [readTree, sort, hbelow, hkeep]

/-- Hidden elements and what they hold make no difference to pruning. -/
theorem prune_eq_of_replaced (hold : isLive config old.value = false)
    (hnew : isLive config new.value = false) (hreplaced : Tree.Replaced old new forest forest') :
    prune config below forest = prune config below forest' := by
  have hsame : readTree config old = readTree config new := by
    simp only [readTree, sort_of_hidden hold, sort_of_hidden hnew, innerText?_of_hidden hold,
      innerText?_of_hidden hnew]
  have hread : readForest config forest = readForest config forest' :=
    hreplaced.read_eq (reading config) hsame
  have hsorted : sortForest config below forest = sortForest config below forest' :=
    congrFun (Prod.mk.inj hread).1 below
  rw [prune, prune, hsorted]

end Pruning

namespace Classification

variable {answers : Answers} {config : Config} {suffix : String} {old new : Tree Layer}
  {forest forest' : List (Tree Layer)}

theorem firstPropertiesLayer?_eq_none (hnone : ∀ t ∈ forest, propertiesLayer? suffix t = none) :
    firstPropertiesLayer? suffix forest = none := by
  induction forest with
  | nil => rfl
  | cons t ts ih =>
    rw [firstPropertiesLayer?, hnone t List.mem_cons_self]
    exact ih fun u hu => hnone u (List.mem_cons_of_mem _ hu)

/-- No layer of the tree is named as holding properties. -/
def HoldsNoProperties (suffix : String) (t : Tree Layer) : Prop :=
  ∀ layer ∈ t.values, Text.endsWith layer.name suffix = false

instance (suffix : String) (t : Tree Layer) : Decidable (HoldsNoProperties suffix t) :=
  inferInstanceAs (Decidable (∀ layer ∈ t.values, Text.endsWith layer.name suffix = false))

theorem propertiesLayer?_eq_none {t : Tree Layer} (hnames : HoldsNoProperties suffix t) :
    propertiesLayer? suffix t = none := by
  induction t using Tree.induction with
  | step layer cs ih =>
    rw [HoldsNoProperties, Tree.values, List.forall_mem_cons, Tree.forestValues_eq_flatMap] at hnames
    have hbelow : firstPropertiesLayer? suffix cs = none :=
      firstPropertiesLayer?_eq_none fun c hc => ih c hc fun l hl =>
        hnames.2 l (List.mem_flatMap.mpr ⟨c, hc, hl⟩)
    simp [propertiesLayer?, hnames.1, hbelow]

theorem searching (suffix : String) :
    Tree.Replaced.Reading (propertiesLayer? suffix) (firstPropertiesLayer? suffix) where
  cons htree hforest := by simp only [firstPropertiesLayer?, htree, hforest]
  node layer _ _ hforest := by simp only [propertiesLayer?, hforest]

/-- The element of a layer stays the same if content below it is replaced by other content, both
without layers that are named as holding properties. -/
theorem elementAt_eq_of_replaced (hold : HoldsNoProperties config.propertiesSuffix old)
    (hnew : HoldsNoProperties config.propertiesSuffix new)
    (hreplaced : Tree.Replaced old new forest forest') (layer : Layer) :
    elementAt answers config (.node layer forest) = elementAt answers config (.node layer forest') := by
  have hfound := hreplaced.read_eq (searching config.propertiesSuffix)
    ((propertiesLayer?_eq_none hold).trans (propertiesLayer?_eq_none hnew).symm)
  simp only [elementAt, propertiesAt, hfound]
  rfl

end Classification

namespace Generator

variable {σ : Type} {g : Generator} {host : Host σ} {roots roots' : List (Tree Layer)}

/-- The tree of a layer that is invisible or has an ignored name, no layer in it being named as
holding properties. -/
structure IsHidden (config : Config) (t : Tree Layer) : Prop where
  not_shown : t.value.visible = false ∨ config.ignoresName t.value.name = true
  no_properties : Classification.HoldsNoProperties config.propertiesSuffix t

theorem IsHidden.isLive_element {config : Config} {t : Tree Layer} (hhidden : IsHidden config t)
    (answers : Answers) :
    Pruning.isLive config (t.mapSubtrees (Classification.elementAt answers config)).value = false := by
  rw [Tree.value_mapSubtrees]
  show (t.value.visible && !config.ignoresName t.value.name) = false
  rcases hhidden.not_shown with hinvisible | hignored
  · rw [hinvisible]
    rfl
  · rw [hignored]
    exact Bool.and_false _

/-- Other hidden content in the place of hidden content, anywhere in a selection, leaves the markup
and the elements of the result the same, from whatever states of the host the two generations
start. -/
theorem generate_eq_of_replaced (hsettings : g.mistyped = none) (hanswers : host.DependsOnId)
    {old new : Tree Layer} (hold : IsHidden g.config old) (hnew : IsHidden g.config new)
    (hreplaced : Tree.Replaced old new roots roots') (s s' : σ) :
    ∃ made made', ((g.generate host roots).run s).1 = .ok made ∧
      ((g.generate host roots').run s').1 = .ok made' ∧
      made.markup = made'.markup ∧ made.forest = made'.forest := by
  let element := Classification.elementAt ((host.answersIn s).remembered g.memory) g.config
  -- Both generations get their elements from the same answers.
  have hclassified : ∀ roots t, (g.classified host roots { host := t }).1 =
      Tree.mapSubtreesForest element roots :=
    fun roots t => (classified_of_follows (hanswers.follows s) roots { host := t } trivial).1
  have hmapped := hreplaced.mapSubtreesForest (g := element) fun layer _ _ hbelow =>
    Classification.elementAt_eq_of_replaced hold.no_properties hnew.no_properties hbelow layer
  have hpruned : Pruning.prune g.config false (g.classified host roots { host := s }).1 =
      Pruning.prune g.config false (g.classified host roots' { host := s' }).1 := by
    rw [hclassified roots s, hclassified roots' s']
    exact Pruning.prune_eq_of_replaced (hold.isLive_element _) (hnew.isLive_element _) hmapped
  refine ⟨_, _, generate_of_typed hsettings hreplaced.ne_nil host { host := s },
    generate_of_typed hsettings hreplaced.symm.ne_nil host { host := s' }, ?_, hpruned⟩
  show Markup.render _ _ (Markup.ofElements _ _) = Markup.render _ _ (Markup.ofElements _ _)
  rw [hpruned]

/-- Every occurrence is made from the same component, which has one default. -/
def oneComponentHost : Host Unit :=
  .ofAnswers (fun _ => .ok (some { id := "c" })) (fun _ => .ok (.ofList [("size", .string "small")]))

/-- A template for a footer, with something before its text. -/
def footer (before : Tree Layer) : List (Tree Layer) :=
  [.node { id := "1", name := "Template", kind := .occurrence,
           properties := .ofList [("slot", .string "footer")] }
    [before, .node { id := "2", name := "Word", kind := .text, characters := some "Ok" } []]]

/-- An invisible frame with an occurrence to look up. -/
def invisibleBadge : Tree Layer :=
  .node { id := "3", name := "Badge", kind := .frame, visible := false }
    [.node { id := "4", name := "UBadge", kind := .occurrence,
             properties := .ofList [("size", .string "big")] } []]

/-- A text with a private name. -/
def privateNote : Tree Layer :=
  .node { id := "5", name := "_note", kind := .text, characters := some "to do" } []

/-- The badge costs a lookup and the note is a text beside another one, but neither can be told from
the footer. -/
theorem generate_eq_of_replaced_footer :
    IsHidden {} invisibleBadge ∧ IsHidden {} privateNote ∧
      ((Generator.generate {} oneComponentHost.recorded (footer invisibleBadge)).run ((), [])).2.1.2 =
        [.mainComponent "1", .defaults "c", .mainComponent "4"] ∧
      ((Generator.generate {} oneComponentHost.recorded (footer privateNote)).run ((), [])).2.1.2 =
        [.defaults "c", .mainComponent "1"] ∧
      ∃ made made',
        ((Generator.generate {} oneComponentHost (footer invisibleBadge)).run ()).1 = .ok made ∧
        ((Generator.generate {} oneComponentHost (footer privateNote)).run ()).1 = .ok made' ∧
        made.markup = made'.markup ∧ made.forest = made'.forest := by
  have hbadge : IsHidden {} invisibleBadge := ⟨.inl rfl, by decide⟩
  have hnote : IsHidden {} privateNote := ⟨.inr (by decide), by decide⟩
  have hanswers : oneComponentHost.DependsOnId := Host.dependsOnId_ofAnswers _ _
  exact ⟨hbadge, hnote, by decide +kernel, by decide +kernel,
    generate_eq_of_replaced rfl hanswers hbadge hnote (.inside _ (.here _) _) () ()⟩

end Generator

end LayerMarkup
