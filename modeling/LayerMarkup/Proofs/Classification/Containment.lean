import LayerMarkup.Proofs.Classification.Settled
import LayerMarkup.Proofs.Classification.Turns
import LayerMarkup.Proofs.Tree.Addresses

/-!
# Lookups concern one layer

A host matters to a layer only by the defaults that it yields for the layer and, if the layer is an
occurrence with a layer that holds further properties, by those that it yields for the latter
(`Host.yields`).  What the host says about other layers does not matter, and neither does it why
there are no defaults: a main component that is not found, one that does not exist, and defaults
that are not found are all the same (`propertiesFound_eq_of_yields`).

A host may answer differently each time, so what counts is what it yields when the layer has its
turn.
-/

namespace LayerMarkup

open LayerMarkup.Tree

variable {σ τ : Type} {host : Host σ} {other : Host τ} {config : Config} {roots : List (Tree Layer)}
  {t : Tree Layer} {a : List Nat}

namespace Host

/-- The defaults that a host yields for a layer: those of the component that an occurrence was made
from, or those of the component itself.  There are none if a lookup fails, or without a main
component. -/
def yields (host : Host σ) (layer : Layer) (s : σ) : Option (Mapping Json) :=
  match layer.kind with
  | .occurrence =>
    match (host.mainComponent layer.id s).1 with
    | .ok (some main) => (host.defaults main.id (host.mainComponent layer.id s).2).1.toOption
    | _ => none
  | .component => (host.defaults layer.id s).1.toOption
  | _ => none

/-- A host whose answers depend on the id only yields the same defaults at any time. -/
theorem DependsOnId.yields_eq (hanswers : host.DependsOnId) (layer : Layer) (s s' : σ) :
    host.yields layer s = host.yields layer s' := by
  unfold yields
  cases layer.kind with
  | occurrence =>
    simp only [(hanswers layer.id s s').1]
    cases (host.mainComponent layer.id s').1 with
    | error cause => rfl
    | ok main =>
      cases main with
      | none => rfl
      | some main => exact congrArg Except.toOption (hanswers main.id _ _).2
  | component => exact congrArg Except.toOption (hanswers layer.id s s').2
  | text | frame | group | section_ | rectangle | componentSet | other => rfl

end Host

namespace Property

theorem componentDefaults_fst (host : Host σ) (id : String) (p : Progress σ) :
    (componentDefaults host id p).1 = (host.defaults id p.host).1.toOption := by
  have hask : (Task.ask (host.defaults id) p).1 = (host.defaults id p.host).1 := rfl
  rw [componentDefaults, Task.bind_apply, hask]
  cases (host.defaults id p.host).1 <;> rfl

theorem occurrenceDefaults_fst {layer : Layer} (hkind : layer.kind = .occurrence) (host : Host σ)
    (p : Progress σ) : (occurrenceDefaults host layer p).1 = host.yields layer p.host := by
  have hask : (Task.ask (host.mainComponent layer.id) p).1 = (host.mainComponent layer.id p.host).1 :=
    rfl
  simp only [occurrenceDefaults, Task.bind_apply, hask, Host.yields, hkind]
  cases (host.mainComponent layer.id p.host).1 with
  | error cause => rfl
  | ok main =>
    cases main with
    | none => rfl
    | some main => exact componentDefaults_fst host main.id _

/-- The properties of a layer are its values less the defaults that the host yields for it. -/
theorem resolve_fst (host : Host σ) (config : Config) (layer : Layer) (p : Progress σ) :
    (resolve host config layer p).1 =
      difference config (currentValues layer) (host.yields layer p.host) := by
  unfold resolve currentValues
  cases hkind : layer.kind with
  | occurrence =>
    by_cases hempty : layer.properties.isEmpty = true
    · simp only [hempty, if_true]
      rw [difference_of_isEmpty hempty]
      rfl
    · rw [← occurrenceDefaults_fst hkind host p]
      simp only [hempty]
      rfl
  | component =>
    by_cases hempty : layer.variants.isEmpty = true
    · simp only [hempty, if_true]
      rw [difference_of_isEmpty hempty]
      rfl
    · have hyields : host.yields layer p.host = (componentDefaults host layer.id p).1 := by
        rw [componentDefaults_fst, Host.yields, hkind]
      rw [hyields]
      simp only [hempty]
      rfl
  | text | frame | group | section_ | rectangle | componentSet | other =>
    rw [difference_of_isEmpty rfl]
    rfl

end Property

namespace Classification

/-- The layer that holds further properties of the layer at the top of a tree. -/
def holder? (config : Config) (t : Tree Layer) : Option Layer :=
  if t.value.kind = .occurrence then firstPropertiesLayer? config.propertiesSuffix t.children else none

/-- How far the host and the reports have come when the layer at an address has its turn. -/
def turnAt (host : Host σ) (config : Config) (roots : List (Tree Layer)) (a : List Nat) (s : σ) :
    Progress σ :=
  progressAt host config roots (forestNumberAt roots a) { host := s }

/-- The properties with which the layer at an address comes out. -/
def propertiesFound (host : Host σ) (config : Config) (roots : List (Tree Layer)) (a : List Nat)
    (s : σ) :
    Option (Mapping PropertyValue) :=
  (forestAt? ((classifyForest host config roots).run s).1 a).bind fun u => u.value.properties

/-- The properties of a layer by itself, with those of the layer that holds further ones laid
over. -/
theorem propertiesOf_fst (host : Host σ) (config : Config) (t : Tree Layer) (p : Progress σ) :
    (propertiesOf host config t p).1 =
      (Property.resolve host config t.value p).1.overlay
        ((holder? config t).elim .empty fun holder =>
          (Property.resolve host config holder (Property.resolve host config t.value p).2).1) := by
  obtain ⟨layer, children⟩ := t
  rw [propertiesOf, Task.bind_apply, holder?]
  simp only [value_node, children_node]
  by_cases hkind : layer.kind = .occurrence
  · simp only [hkind, if_true]
    cases firstPropertiesLayer? config.propertiesSuffix children <;> rfl
  · simp only [hkind, if_false]
    rfl

/-- The layer at an address becomes an element there, with the properties that it has at its turn,
and no layer below it is lost. -/
theorem exists_element_at (hat : forestAt? roots a = some t) (host : Host σ) (config : Config) (s : σ) :
    ∃ u, forestAt? ((classifyForest host config roots).run s).1 a = some u ∧
      u.value =
        elementOf config (propertiesOf host config t (turnAt host config roots a s)).1 t.value ∧
      u.keys Element.id = t.keys Layer.id := by
  obtain ⟨layer, children⟩ := t
  obtain ⟨depth, hstep⟩ := mem_forestSteps_of_forestAt? hat
  have hfound : (resolveForest host config roots { host := s }).1.lookup (forestNumberAt roots a) =
      some (propertiesOf host config (node layer children) (turnAt host config roots a s)).1 :=
    lookup_resolveForest hstep { host := s }
  let element := foundElement host config roots { host := s }
  refine ⟨(node layer children).mapIndexed element (forestNumberAt roots a), ?_, ?_, ?_⟩
  · show forestAt? (classifyForest host config roots { host := s }).1 a = _
    rw [classifyForest_eq_mapIndexedForest, forestAt?_mapIndexedForest 0 hat, Nat.zero_add]
  · show elementOf config (((resolveForest host config roots { host := s }).1.lookup
      (forestNumberAt roots a)).getD .empty) layer = _
    rw [hfound]
    rfl
  · refine keys_mapIndexed ?_ _ _
    exact fun _ _ => rfl

/-- Components come out with the properties that they have at their turns, and other layers with
none. -/
theorem propertiesFound_eq (hat : forestAt? roots a = some t) (host : Host σ) (config : Config)
    (s : σ) :
    propertiesFound host config roots a s =
      if t.value.kind.isComponent = true then
        some (propertiesOf host config t (turnAt host config roots a s)).1
      else none := by
  obtain ⟨u, helement, hvalue, -⟩ := exists_element_at hat host config s
  rw [propertiesFound, helement, Option.bind_some, hvalue]
  cases hkind : t.value.kind <;>
    simp [elementOf, hkind, DataType.ofKind?, LayerKind.isContainer, LayerKind.isComponent]

/-- The values of a layer less its defaults, with those of the layer that holds further ones laid
over, where defaults are given for the two. -/
def shownWith (config : Config) (t : Tree Layer) (own : Option (Mapping Json))
    (further : Layer → Option (Mapping Json)) : Mapping PropertyValue :=
  (Property.difference config (Property.currentValues t.value) own).overlay
    ((holder? config t).elim .empty fun holder =>
      Property.difference config (Property.currentValues holder) (further holder))

/-- How far the host and the reports have come when the layer that holds further properties of the
layer at an address is asked about in the turn of the latter. -/
def secondAt (host : Host σ) (config : Config) (roots : List (Tree Layer)) (a : List Nat)
    (t : Tree Layer) (s : σ) : Progress σ :=
  (Property.resolve host config t.value (turnAt host config roots a s)).2

/-- Components come out with their values less the defaults that the host yields in their turns. -/
theorem propertiesFound_eq_shownWith (hat : forestAt? roots a = some t) (host : Host σ)
    (config : Config) (s : σ) :
    propertiesFound host config roots a s =
      if t.value.kind.isComponent = true then
        some (shownWith config t (host.yields t.value (turnAt host config roots a s).host)
          fun holder => host.yields holder (secondAt host config roots a t s).host)
      else none := by
  rw [propertiesFound_eq hat, propertiesOf_fst, shownWith]
  simp only [Property.resolve_fst, secondAt]

theorem shownWith_congr {own own' : Option (Mapping Json)}
    {further further' : Layer → Option (Mapping Json)} (hown : own = own')
    (hfurther : ∀ holder ∈ holder? config t, further holder = further' holder) :
    shownWith config t own further = shownWith config t own' further' := by
  rw [shownWith, shownWith, hown]
  cases hholder : holder? config t with
  | none => rfl
  | some holder => rw [Option.elim_some, Option.elim_some, hfurther holder (hholder ▸ rfl)]

/-- If two hosts yield the same defaults for a layer, and for the layer that holds further
properties of it, then the layer comes out with the same properties from both, whatever else they
say: when the two have their turns, or at any time if the answers depend on the id only.  Where a
host yields no defaults for a layer, the properties of the layer by itself are its values less those
that look like none. -/
theorem propertiesFound_eq_of_yields (config : Config) (hat : forestAt? roots a = some t)
    (host : Host σ) (other : Host τ) (s : σ) (s' : τ) :
    let turn := turnAt host config roots a s
    let turn' := turnAt other config roots a s'
    let second := secondAt host config roots a t s
    let second' := secondAt other config roots a t s'
    (host.yields t.value turn.host = other.yields t.value turn'.host →
      (∀ holder ∈ holder? config t,
        host.yields holder second.host = other.yields holder second'.host) →
      propertiesFound host config roots a s = propertiesFound other config roots a s') ∧
    (host.DependsOnId → other.DependsOnId → host.yields t.value s = other.yields t.value s' →
      (∀ holder ∈ holder? config t, host.yields holder s = other.yields holder s') →
      propertiesFound host config roots a s = propertiesFound other config roots a s') ∧
    (host.yields t.value turn.host = none →
      (Property.resolve host config t.value turn).1 =
          Property.difference config (Property.currentValues t.value) none ∧
        (t.value.kind.isComponent = true →
          propertiesFound host config roots a s =
            some (shownWith config t none fun holder => host.yields holder second.host))) := by
  intro turn turn' second second'
  have hsame : host.yields t.value turn.host = other.yields t.value turn'.host →
      (∀ holder ∈ holder? config t,
        host.yields holder second.host = other.yields holder second'.host) →
      propertiesFound host config roots a s = propertiesFound other config roots a s' := by
    intro hown hfurther
    rw [propertiesFound_eq_shownWith hat, propertiesFound_eq_shownWith hat,
      shownWith_congr hown hfurther]
  refine ⟨hsame, fun hanswers hanswers' hown hfurther => ?_, fun habsent => ⟨?_, fun hkind => ?_⟩⟩
  · -- Such hosts yield in the turns what they yield at the start.
    refine hsame ?_ fun holder hholder => ?_
    · rw [hanswers.yields_eq _ _ s, hanswers'.yields_eq _ _ s']
      exact hown
    · rw [hanswers.yields_eq _ _ s, hanswers'.yields_eq _ _ s']
      exact hfurther holder hholder
  · rw [Property.resolve_fst, habsent]
  · rw [propertiesFound_eq_shownWith hat, if_pos hkind, habsent]

/-- A card with a layer that holds its tone, and a badge. -/
def toneLayer : Tree Layer :=
  .node { id := "2", name := "card_properties", kind := .occurrence,
          properties := .ofList [("tone", .string "warm"), ("shade", .string "dark")] } []

def toneCard : Tree Layer :=
  .node { id := "1", name := "UCard", kind := .occurrence,
          properties := .ofList [("size", .string "none"), ("label", .string "Hi")] } [toneLayer]

def tonePage : List (Tree Layer) :=
  [toneCard, .node { id := "3", name := "UBadge", kind := .occurrence,
                     properties := .ofList [("size", .string "big")] } []]

/-- The main component of the card is not found, and neither is that of the badge. -/
def lostMainHost : Host Unit :=
  .ofAnswers
    (fun id => if id = "2" then .ok (some { id := "tone" }) else .error (.foreign "TimeoutError" id))
    (fun _ => .ok (.ofList [("shade", .string "dark")]))

/-- The defaults of the card are not found, and those of the badge are. -/
def lostDefaultsHost : Host Unit :=
  .ofAnswers (fun id => .ok (some { id := if id = "2" then "shade" else id }))
    (fun id =>
      if id = "1" then .error (.lookup id "Defaults unavailable")
      else if id = "shade" then .ok (.ofList [("shade", .string "dark")])
      else .ok (.ofList [("size", .string "big")]))

/-- The card comes out the same, although its lookups fail in two ways, and the badge does not. -/
theorem propertiesFound_eq_of_yields_toneCard :
    forestAt? tonePage [0] = some toneCard ∧ lostMainHost.DependsOnId ∧ lostDefaultsHost.DependsOnId ∧
      (holder? {} toneCard).map (·.id) = some "2" ∧
      (propertiesFound lostMainHost {} tonePage [0] ()).map Mapping.entries =
        some [("label", .text "Hi"), ("tone", .text "warm")] ∧
      propertiesFound lostMainHost {} tonePage [0] () =
        propertiesFound lostDefaultsHost {} tonePage [0] () ∧
      (propertiesFound lostMainHost {} tonePage [1] ()).map Mapping.keys = some ["size"] ∧
      (propertiesFound lostDefaultsHost {} tonePage [1] ()).map Mapping.keys = some [] := by
  have hat : forestAt? tonePage [0] = some toneCard := rfl
  have hanswers : lostMainHost.DependsOnId := Host.dependsOnId_ofAnswers _ _
  have hanswers' : lostDefaultsHost.DependsOnId := Host.dependsOnId_ofAnswers _ _
  have hholder : holder? {} toneCard = some toneLayer.value := by rfl
  have hsame := (propertiesFound_eq_of_yields {} hat lostMainHost lostDefaultsHost () ()).2.1
  refine ⟨hat, hanswers, hanswers', by decide +kernel, by decide +kernel,
    hsame hanswers hanswers' rfl fun holder hmem => ?_, by decide +kernel, by decide +kernel⟩
  rw [hholder, Option.mem_some] at hmem
  subst hmem
  rfl

end Classification

end LayerMarkup
