import LayerMarkup.Proofs.Generation.Simulation
import LayerMarkup.Proofs.Host.Recency

/-!
# Stores of answers

What is relied on of a store of answers is that it drops the ones whose last use is longest ago
(`AnswerStore.DropsOldest`).  The list of the most recently used answers is such a store
(`dropsOldest_store`), and with any other one a host is asked the same and answers the same
(`simulates_storing`): call by call (`callEach_storing`), and so in a classification and a
generation (`classifyForest_withStore`).
-/

namespace LayerMarkup

variable {σ τ : Type} {capacity : Int} {entries : τ → Recent} {Valid : τ → Prop} {store : AnswerStore τ}

/-- A store that drops the entries whose last use is longest ago, with its entries in the order of
their last use, the latest one first.  It is only used as it comes to be from the empty one. -/
structure AnswerStore.DropsOldest (store : AnswerStore τ) (capacity : Int) (entries : τ → Recent)
    (Valid : τ → Prop) : Prop where
  valid_empty : Valid store.empty
  entries_empty : entries store.empty = []
  /-- There are never more entries than there is room for. -/
  length_le : ∀ s, Valid s → (entries s).length ≤ capacity.toNat
  /-- Looking for what is not there changes nothing. -/
  lookUp_unknown : ∀ id s, Valid s → (entries s).find? id = none → store.lookUp id s = (none, s)
  /-- What is found is the entry used last. -/
  lookUp_known : ∀ id known s, Valid s → (entries s).find? id = some known →
    ∃ after, store.lookUp id s = (some known, after) ∧ Valid after ∧
      entries after = (id, known) :: (entries s).without id
  /-- Without room for one entry nothing can be put in. -/
  keep_full : capacity ≤ 0 → ∀ id answer s, Valid s → store.keep id answer s = .error .entryTooLarge
  /-- What is put in is the entry used last, and the oldest ones make room for it. -/
  keep_room : 0 < capacity → ∀ id answer s, Valid s →
    ∃ after, store.keep id answer s = .ok after ∧ Valid after ∧
      entries after = (entries s).remember capacity.toNat id answer

namespace Recent

theorem length_remember_le (recent : Recent) (n : Nat) (id : String) (answer : Mapping Json) :
    (recent.remember n id answer).length ≤ n :=
  List.length_take_le n _

/-- An entry that is found makes room for itself. -/
theorem length_without_lt {recent : Recent} {id : String} {known : Mapping Json}
    (hfound : recent.find? id = some known) : (recent.without id).length < recent.length := by
  refine List.length_filter_lt_length_iff_exists.mpr ?_
  have hmem : id ∈ recent.map Prod.fst := by
    refine Decidable.not_not.mp fun hnone => ?_
    rw [find?_eq_none_iff.mpr hnone] at hfound
    cases hfound
  obtain ⟨entry, hentry, rfl⟩ := List.mem_map.mp hmem
  exact ⟨entry, hentry, by simp⟩

theorem dropsOldest_store (capacity : Int) :
    (Recent.store capacity).DropsOldest capacity id fun recent => recent.length ≤ capacity.toNat where
  valid_empty := Nat.zero_le _
  entries_empty := rfl
  length_le _ hvalid := hvalid
  lookUp_unknown id recent _ hunknown := by
    have hnone : recent.find? id = none := hunknown
    simp only [Recent.store, hnone]
  lookUp_known id known recent hvalid hknown := by
    have hsome : recent.find? id = some known := hknown
    refine ⟨recent.remember capacity.toNat id known, by simp only [Recent.store, hsome],
      length_remember_le recent _ id known, ?_⟩
    have hless := length_without_lt hsome
    exact List.take_of_length_le (by rw [List.length_cons]; omega)
  keep_full hfull id answer recent _ := by simp only [Recent.store, hfull, if_true]
  keep_room hroom id answer recent _ := by
    have hsome : ¬ capacity ≤ 0 := by omega
    exact ⟨_, by simp only [Recent.store, hsome, if_false], length_remember_le recent _ id answer, rfl⟩

end Recent

namespace Host

/-- Defaults that are not in the store are asked for, and put in. -/
theorem storing_defaults_of_unknown {host : Host σ} {id : String} {s : σ × τ} {kept : τ}
    (hunknown : store.lookUp id s.2 = (none, kept)) :
    (host.storing store).defaults id s =
      match (host.defaults id s.1).1 with
      | .error e => (.error e, (host.defaults id s.1).2, kept)
      | .ok defaults =>
        match store.keep id defaults kept with
        | .error e => (.error e, (host.defaults id s.1).2, kept)
        | .ok kept => (.ok defaults, (host.defaults id s.1).2, kept) := by
  simp only [storing, hunknown]
  rfl

/-- Whatever the store, the host is asked and answers as if it held the list of its entries. -/
theorem simulates_storing (hstore : store.DropsOldest capacity entries Valid) (host : Host σ) :
    (host.storing store).Simulates (fun s t => s.1 = t.host ∧ Valid s.2 ∧ entries s.2 = t.recent)
      (host.remembering capacity) where
  mainComponent id s t := by
    obtain ⟨h, recent⟩ := t
    rintro ⟨rfl, hvalid, rfl⟩
    exact ⟨rfl, rfl, hvalid, rfl⟩
  defaults id s t := by
    obtain ⟨h, recent⟩ := t
    rintro ⟨rfl, hvalid, rfl⟩
    cases hfound : (entries s.2).find? id with
    | some known =>
      obtain ⟨after, hlookUp, hafter, hentries⟩ := hstore.lookUp_known id known s.2 hvalid hfound
      have hroom : ((id, known) :: (entries s.2).without id).length ≤ capacity.toNat :=
        hentries ▸ hstore.length_le after hafter
      rw [remembering_defaults_of_known hfound]
      simp only [storing, hlookUp]
      exact ⟨trivial, trivial, hafter, hentries.trans (List.take_of_length_le hroom).symm⟩
    | none =>
      have hlookUp := hstore.lookUp_unknown id s.2 hvalid hfound
      rw [remembering_defaults_of_unknown hfound, storing_defaults_of_unknown hlookUp]
      cases (host.defaults id s.1).1 with
      | error cause => exact ⟨rfl, rfl, hvalid, rfl⟩
      | ok defaults =>
        by_cases hfull : capacity ≤ 0
        · simp only [hstore.keep_full hfull id defaults s.2 hvalid, hfull, if_true]
          exact ⟨trivial, trivial, hvalid, trivial⟩
        · obtain ⟨after, hkeep, hafter, hentries⟩ :=
            hstore.keep_room (by omega) id defaults s.2 hvalid
          simp only [hkeep, hfull, if_false]
          exact ⟨trivial, trivial, hafter, hentries⟩

/-- One call after another, the answers are those of a host that remembers them. -/
theorem callEach_storing (hstore : store.DropsOldest capacity entries Valid) (host : Host σ) (s : σ)
    (ids : List String) :
    ((host.storing store).callEach ids (s, store.empty)).1 =
        ((host.remembering capacity).callEach ids { host := s }).1 ∧
      ((host.storing store).callEach ids (s, store.empty)).2.1 =
        ((host.remembering capacity).callEach ids { host := s }).2.host := by
  have hstart : (s, store.empty).1 = s ∧ Valid store.empty ∧ entries store.empty = [] :=
    ⟨rfl, hstore.valid_empty, hstore.entries_empty⟩
  obtain ⟨hcalls, hhost, -⟩ := (host.simulates_storing hstore).callEach (t := { host := s }) hstart ids
  exact ⟨hcalls, hhost⟩

end Host

/-- A classification, which is all of a generation that asks the host, is the same with any
store. -/
theorem Choices.classifyForest_withStore (hstore : store.DropsOldest capacity entries Valid)
    (c : Choices) (host : Host σ) (roots : List (Tree Layer)) :
    Task.withStore store (c.classifyForest (host.storing store) roots).run =
      Task.withMemory (c.classifyForest (host.remembering capacity) roots).run := by
  have hsimulates := c.simulates_classifyForest (host.simulates_storing hstore) roots
  refine Task.Simulates.eq ?_
  unfold Task.withStore Task.withMemory
  exact hsimulates.within
    (fun _ _ hsame => ⟨hsame, hstore.valid_empty, hstore.entries_empty⟩) fun _ _ => And.left

end LayerMarkup
