/-!
# Capabilities of a host

What a host must offer, by the names of its operations.  A capability is met by whatever offers all
of its operations, whatever else it offers (`Capability.isMetBy_of_subset`).  Serving a panel takes
both of the others (`Capability.isMetBy_plugin_iff`).
-/

namespace LayerMarkup

inductive Capability where
  /-- Answering the questions of a classification. -/
  | design
  /-- Reporting what is selected. -/
  | selection
  /-- Serving a panel: both of the others. -/
  | plugin

namespace Capability

/-- The operations that answer the questions of a classification. -/
def lookups : List String := ["resolve_main_component", "resolve_component_defaults"]

def operations : Capability → List String
  | design => lookups
  | selection => ["current_selection"]
  | plugin => lookups ++ ["current_selection"]

def isMetBy (c : Capability) (offered : List String) : Bool :=
  c.operations.all offered.contains

theorem isMetBy_iff {c : Capability} {offered : List String} :
    c.isMetBy offered = true ↔ c.operations ⊆ offered := by
  simp only [isMetBy, List.all_eq_true, List.contains_iff_mem, List.subset_def]

/-- What is offered beyond a capability does no harm. -/
theorem isMetBy_of_subset {c : Capability} {offered more : List String} (hmore : offered ⊆ more)
    (hmet : c.isMetBy offered = true) : c.isMetBy more = true :=
  isMetBy_iff.mpr (List.Subset.trans (isMetBy_iff.mp hmet) hmore)

/-- A panel is served by whatever answers questions and reports a selection, and by nothing else. -/
theorem isMetBy_plugin_iff {offered : List String} :
    plugin.isMetBy offered = true ↔
      design.isMetBy offered = true ∧ selection.isMetBy offered = true := by
  rw [isMetBy_iff, isMetBy_iff, isMetBy_iff]
  exact List.append_subset

end Capability

end LayerMarkup
