import LayerMarkup.Proofs.Snapshot.Reading

/-!
# Documents that carry a snapshot

One and the same selection and library can be written down in several ways: as an array, as fields
of an object, as the single root of an object, as the entries of an answer to a request, or as a
layer by itself.  `Carries` lists them.  Whichever is chosen, the snapshot depends on nothing but
the two lists of values (`ofDocument_of_carries`), and if these are well formed there is one
(`ofDocument_of_wellFormed`).  No other document is accepted (`accepted_iff`).
-/

namespace LayerMarkup

namespace Document

/-- The items of an optional list: an array under the name, or nothing at all. -/
def Lists (name : String) (fields : Fields) (items : List Json) : Prop :=
  Json.lookup name fields = some (.array items) ∨ present name fields = none ∧ items = []

/-- No root is found in an entry of an answer: it is null or otherwise empty, or has no document. -/
inductive IsRootless : Json → Prop
  | empty {entry : Json} (hempty : entry.isEmpty = true) : IsRootless entry
  | object {fields : Fields} (hnone : Json.lookup "document" fields = none) :
      IsRootless (.object fields)
  | text {s : String} (hnone : Text.contains s "document" = false) : IsRootless (.string s)
  | array {items : List Json} (hnone : .string "document" ∉ items) : IsRootless (.array items)

/-- The entries of an answer have the roots as their documents, in order.  Among them may be entries
without a root. -/
inductive EntriesCarry : Fields → List Json → Prop
  | nil : EntriesCarry [] []
  | root {key : String} {entry rest : Fields} {root : Json} {roots : List Json}
      (hroot : Json.lookup "document" entry = some root) (hrest : EntriesCarry rest roots) :
      EntriesCarry ((key, .object entry) :: rest) (root :: roots)
  | rootless {key : String} {entry : Json} {rest : Fields} {roots : List Json}
      (hnone : IsRootless entry) (hrest : EntriesCarry rest roots) :
      EntriesCarry ((key, entry) :: rest) roots

/-- The ways to write down a selection and a library. -/
inductive Carries : Json → List Json → List Json → Prop
  /-- The selection by itself. -/
  | roots (selection : List Json) : Carries (.array selection) selection []
  /-- An object with the selection, and the library if there is one. -/
  | selection {fields : Fields} {selection library : List Json}
      (hwrapped : (Json.lookup "selection" fields).isSome = true)
      (hselection : Lists "selection" fields selection) (hlibrary : Lists "library" fields library) :
      Carries (.object fields) selection library
  /-- An object with a single root. -/
  | single {fields : Fields} {root : Json} {library : List Json}
      (hunwrapped : Json.lookup "selection" fields = none)
      (hroot : Json.lookup "document" fields = some root) (hlibrary : Lists "library" fields library) :
      Carries (.object fields) [root] library
  /-- An answer to a request for several nodes. -/
  | answer {fields entries : Fields} {roots library : List Json}
      (hunwrapped : Json.lookup "selection" fields = none)
      (hseveral : Json.lookup "document" fields = none)
      (hentries : Json.lookup "nodes" fields = some (.object entries))
      (hroots : EntriesCarry entries roots) (hlibrary : Lists "library" fields library) :
      Carries (.object fields) roots library
  /-- A single root by itself, with a library in it if it has one. -/
  | bare {fields : Fields} {library : List Json}
      (hunwrapped : Json.lookup "selection" fields = none)
      (hroot : Json.lookup "document" fields = none) (hnodes : Json.lookup "nodes" fields = none)
      (hlibrary : Lists "library" fields library) :
      Carries (.object fields) [.object fields] library

theorem splicedField_of_lists {name : String} {fields : Fields} {items : List Json}
    (hlists : Lists name fields items) : splicedField name fields = .ok items := by
  unfold splicedField
  rcases hlists with hfound | ⟨habsent, rfl⟩
  · rw [hfound]
    cases items <;> rfl
  · rw [show (Json.lookup name fields).bind Json.nonEmpty? = none from habsent]

theorem rootIn_object (fields : Fields) :
    rootIn (.object fields) = .ok (Json.lookup "document" fields) := by
  cases fields <;> rfl

theorem rootIn_of_rootless {entry : Json} (hnone : IsRootless entry) : rootIn entry = .ok none := by
  cases hnone with
  | empty hempty => exact if_pos hempty
  | object hnone => rw [rootIn_object, hnone]
  | text hnone => simp [rootIn, hnone]
  | array hnone =>
    unfold rootIn
    split
    · rfl
    · refine if_neg ?_
      rw [Bool.not_eq_true, List.any_eq_false]
      intro item hitem
      cases item with
      | string s =>
        intro hs
        exact hnone (beq_iff_eq.mp hs ▸ hitem)
      | _ => exact Bool.false_ne_true

theorem mapM_rootIn_of_carry {entries : Fields} {roots : List Json}
    (hcarry : EntriesCarry entries roots) :
    ∃ found, (entries.mapM fun entry => rootIn entry.2) = .ok found ∧ found.filterMap id = roots := by
  induction hcarry with
  | nil => exact ⟨[], rfl, rfl⟩
  | root hroot _ ih =>
    obtain ⟨found, hfound, hroots⟩ := ih
    refine ⟨some _ :: found, ?_, congrArg _ hroots⟩
    rw [List.mapM_cons, hfound, rootIn_object, hroot]
    rfl
  | rootless hnone _ ih =>
    obtain ⟨found, hfound, hroots⟩ := ih
    refine ⟨none :: found, ?_, hroots⟩
    rw [List.mapM_cons, hfound, rootIn_of_rootless hnone]
    rfl

theorem parts_of_carries {document : Json} {selection library : List Json}
    (hcarries : Carries document selection library) : parts document = .ok (selection, library) := by
  cases hcarries with
  | roots => rfl
  | @selection fields _ _ hwrapped hselection hlibrary =>
    obtain ⟨value, hvalue⟩ := Option.isSome_iff_exists.mp hwrapped
    have hparts : selectionIn fields = .ok selection := by
      rw [selectionIn, hvalue]
      exact splicedField_of_lists hselection
    rw [parts, hparts, splicedField_of_lists hlibrary]
    rfl
  | @single fields root _ hunwrapped hroot hlibrary =>
    have hparts : selectionIn fields = .ok [root] := by rw [selectionIn, hunwrapped, hroot]
    rw [parts, hparts, splicedField_of_lists hlibrary]
    rfl
  | @answer fields _ _ _ hunwrapped hseveral hentries hroots hlibrary =>
    obtain ⟨found, hfound, rfl⟩ := mapM_rootIn_of_carry hroots
    have hparts : selectionIn fields = .ok (found.filterMap id) := by
      rw [selectionIn, hunwrapped, hseveral, hentries]
      show (List.mapM _ _ >>= _) = _
      rw [hfound]
      rfl
    rw [parts, hparts, splicedField_of_lists hlibrary]
    rfl
  | @bare fields _ hunwrapped hroot hnodes hlibrary =>
    have hparts : selectionIn fields = .ok [.object fields] := by
      rw [selectionIn, hunwrapped, hroot, hnodes]
    rw [parts, hparts, splicedField_of_lists hlibrary]
    rfl

/-- The layers and links of two lists of values, whatever has the wrong form being left out. -/
def gathered (selection library : List Json) : Snapshot where
  selection := Tree.mapForest layerIn (outlineAll selection)
  library := Tree.mapForest layerIn (outlineAll library)
  setLinks := .ofList (linkEntries (selection ++ library))

variable {document : Json} {selection library : List Json}

/-- However the two lists are written down, the snapshot depends on nothing else. -/
theorem ofDocument_of_carries (hcarries : Carries document selection library) :
    Snapshot.ofDocument document = (do
      let setLinks ← linksOfAll .empty (selection ++ library)
      let roots ← treesOf selection
      let further ← treesOf library
      return { selection := roots, library := further, setLinks }) := by
  rw [Snapshot.ofDocument, parts_of_carries hcarries]
  rfl

/-- The links are those that the objects tell, if nothing is refused. -/
theorem ofDocument_of_carries_links (hcarries : Carries document selection library) :
    Snapshot.ofDocument document = (do
      checkLinks (selection ++ library)
      let roots ← treesOf selection
      let further ← treesOf library
      let setLinks := .ofList (linkEntries (selection ++ library))
      return { selection := roots, library := further, setLinks }) := by
  rw [ofDocument_of_carries hcarries, linksOfAll_eq]
  cases checkLinks (selection ++ library) <;> rfl

theorem ofDocument_of_wellFormed (hcarries : Carries document selection library)
    (hwell : WellFormed (selection ++ library)) :
    Snapshot.ofDocument document = .ok (gathered selection library) := by
  obtain ⟨hselection, hlibrary⟩ := wellFormed_append_iff.mp hwell
  rw [ofDocument_of_carries_links hcarries, checkLinks_of_wellFormed hwell,
    treesOf_of_wellFormed hselection, treesOf_of_wellFormed hlibrary]
  rfl

/-- Only from well-formed values does a snapshot come. -/
theorem ofDocument_eq_ok_iff (hcarries : Carries document selection library) {s : Snapshot} :
    Snapshot.ofDocument document = .ok s ↔
      WellFormed (selection ++ library) ∧ gathered selection library = s := by
  constructor
  · intro hread
    rw [ofDocument_of_carries_links hcarries, bind_eq_ok_iff] at hread
    obtain ⟨-, -, hread⟩ := hread
    simp only [bind_eq_ok_iff, treesOf_eq_ok_iff] at hread
    obtain ⟨_, ⟨hselection, rfl⟩, _, ⟨hlibrary, rfl⟩, hread⟩ := hread
    cases hread
    exact ⟨wellFormed_append_iff.mpr ⟨hselection, hlibrary⟩, rfl⟩
  · rintro ⟨hwell, rfl⟩
    exact ofDocument_of_wellFormed hcarries hwell

section Accepted

theorem rootIn_array_of_mem {items : List Json} (hnamed : .string "document" ∈ items) :
    rootIn (.array items) = .error .arrayField := by
  have hfull : ¬ (Json.array items).isEmpty = true := by
    intro hempty
    rw [List.isEmpty_iff.mp hempty] at hnamed
    cases hnamed
  unfold rootIn
  rw [if_neg hfull]
  exact if_pos (List.any_eq_true.mpr ⟨_, hnamed, rfl⟩)

/-- An entry of an answer gives the document of an object, or has no root. -/
theorem rootless_or_root {entry : Json} {root : Option Json} (hread : rootIn entry = .ok root) :
    IsRootless entry ∧ root = none ∨
      ∃ fields value, entry = .object fields ∧ Json.lookup "document" fields = some value ∧
        root = some value := by
  by_cases hnone : IsRootless entry
  · rw [rootIn_of_rootless hnone] at hread
    exact .inl ⟨hnone, (Except.ok.inj hread).symm⟩
  · have hfull : ¬ entry.isEmpty = true := fun hempty => hnone (.empty hempty)
    cases entry with
    | object fields =>
      rw [rootIn_object, Except.ok.injEq] at hread
      subst hread
      cases hdocument : Json.lookup "document" fields with
      | none => exact absurd (.object hdocument) hnone
      | some value => exact .inr ⟨fields, value, rfl, hdocument, rfl⟩
    | string s =>
      have hnamed : Text.contains s "document" = true :=
        Bool.of_not_eq_false fun hcontains => hnone (.text hcontains)
      simp only [rootIn, if_neg hfull, hnamed] at hread
      cases hread
    | array items =>
      have hnamed : .string "document" ∈ items := by_contra fun hmem => hnone (.array hmem)
      rw [rootIn_array_of_mem hnamed] at hread
      cases hread
    | null => exact absurd (.empty rfl) hnone
    | bool _ | int _ | double _ =>
      simp only [rootIn, if_neg hfull] at hread
      cases hread

theorem entriesCarry_of_mapM {entries : Fields} {found : List (Option Json)}
    (hread : (entries.mapM fun entry => rootIn entry.2) = .ok found) :
    EntriesCarry entries (found.filterMap id) := by
  induction entries generalizing found with
  | nil =>
    cases hread
    exact .nil
  | cons entry rest ih =>
    obtain ⟨key, entry⟩ := entry
    simp only [List.mapM_cons, bind_eq_ok_iff] at hread
    obtain ⟨root, hroot, more, hmore, hfound⟩ := hread
    cases hfound
    have hrest := ih hmore
    rcases rootless_or_root hroot with ⟨hnone, rfl⟩ | ⟨fields, value, rfl, hdocument, rfl⟩
    · exact .rootless hnone hrest
    · exact .root hdocument hrest

/-- Objects are read from an optional list only if they are the items of an array. -/
theorem lists_of_splicedField {name : String} {fields : Fields} {items : List Json}
    (hread : splicedField name fields = .ok items) (hobjects : ∀ item ∈ items, isObject item = true) :
    Lists name fields items := by
  unfold splicedField at hread
  cases hpresent : present name fields with
  | none =>
    rw [show (Json.lookup name fields).bind Json.nonEmpty? = none from hpresent] at hread
    exact .inr ⟨hpresent, (Except.ok.inj hread).symm⟩
  | some value =>
    rw [show (Json.lookup name fields).bind Json.nonEmpty? = some value from hpresent] at hread
    obtain ⟨hfound, hfull⟩ := present_eq_some_iff.mp hpresent
    cases value with
    | array _ =>
      cases hread
      exact .inl hfound
    | object entries =>
      cases hread
      cases entries with
      | nil => cases hfull
      | cons entry _ => cases hobjects _ List.mem_cons_self
    | string s =>
      cases hread
      cases hs : s.toList with
      | nil =>
        rw [String.toList_eq_nil_iff] at hs
        subst hs
        cases hfull
      | cons c _ =>
        rw [hs] at hobjects
        cases hobjects _ List.mem_cons_self
    | null | bool _ | int _ | double _ => cases hread

theorem carries_of_parts {document : Json} {selection library : List Json}
    (hparts : parts document = .ok (selection, library))
    (hobjects : ∀ item ∈ selection ++ library, isObject item = true) :
    Carries document selection library := by
  rw [List.forall_mem_append] at hobjects
  obtain ⟨hselection, hlibrary⟩ := hobjects
  cases document with
  | array items =>
    cases hparts
    exact .roots selection
  | object fields =>
    simp only [parts, bind_eq_ok_iff] at hparts
    obtain ⟨_, hselected, _, hfurther, hparts⟩ := hparts
    cases hparts
    have hlists := lists_of_splicedField hfurther hlibrary
    unfold selectionIn at hselected
    cases hwrapped : Json.lookup "selection" fields with
    | some value =>
      rw [hwrapped] at hselected
      exact .selection (by rw [hwrapped]; rfl) (lists_of_splicedField hselected hselection) hlists
    | none =>
      cases hdocument : Json.lookup "document" fields with
      | some root =>
        rw [hwrapped, hdocument] at hselected
        cases hselected
        exact .single hwrapped hdocument hlists
      | none =>
        cases hnodes : Json.lookup "nodes" fields with
        | none =>
          rw [hwrapped, hdocument, hnodes] at hselected
          cases hselected
          exact .bare hwrapped hdocument hnodes hlists
        | some value =>
          rw [hwrapped, hdocument, hnodes] at hselected
          cases value with
          | object entries =>
            simp only [bind_eq_ok_iff] at hselected
            obtain ⟨found, hfound, hroots⟩ := hselected
            cases hroots
            exact .answer hwrapped hdocument hnodes (entriesCarry_of_mapM hfound) hlists
          | _ => cases hselected
  | null | bool _ | int _ | double _ | string _ => cases hparts

/-- A document is accepted if and only if it carries two lists of well-formed values. -/
theorem accepted_iff {document : Json} :
    (∃ s, Snapshot.ofDocument document = .ok s) ↔
      ∃ selection library, Carries document selection library ∧ WellFormed (selection ++ library) := by
  constructor
  · rintro ⟨s, hread⟩
    simp only [Snapshot.ofDocument, bind_eq_ok_iff, treesOf_eq_ok_iff] at hread
    obtain ⟨⟨selection, library⟩, hparts, _, -, _, ⟨hselection, -⟩, _, ⟨hlibrary, -⟩, -⟩ := hread
    have hwell : WellFormed (selection ++ library) := wellFormed_append_iff.mpr ⟨hselection, hlibrary⟩
    exact ⟨selection, library, carries_of_parts hparts hwell.roots, hwell⟩
  · rintro ⟨selection, library, hcarries, hwell⟩
    exact ⟨_, ofDocument_of_wellFormed hcarries hwell⟩

end Accepted

end Document

end LayerMarkup
