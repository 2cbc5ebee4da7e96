import LayerMarkup.Host.Recent

/-!
# Hosts with settled answers

A host may be told by its answers alone, if these depend only on the id asked, whatever its state
is.  `Host.Follows` says so relative to a set of good states, which no question leaves: for a host
that answers from its design every state is good, for one that remembers defaults those states are
good whose remembered defaults are the right ones (`Host.Follows.remembering`).

A task on such a host gives a value that can be told beforehand (`Task.Gives`); the lemmas about it
go by the ways in which tasks are put together.
-/

namespace LayerMarkup

variable {σ α β : Type}

/-- What a host says to every id. -/
structure Answers where
  mainComponent : String → Except Failure (Option ComponentRef)
  defaults : String → Except Failure (Mapping Json)

namespace Host

/-- From a good state, the host answers as told and comes to a good state. -/
structure Follows (host : Host σ) (Good : σ → Prop) (answers : Answers) : Prop where
  mainComponent : ∀ id s, Good s →
    (host.mainComponent id s).1 = answers.mainComponent id ∧ Good (host.mainComponent id s).2
  defaults : ∀ id s, Good s →
    (host.defaults id s).1 = answers.defaults id ∧ Good (host.defaults id s).2

/-- The host's answers depend only on the id asked, not on its state. -/
def DependsOnId (host : Host σ) : Prop :=
  ∀ id s t, (host.mainComponent id s).1 = (host.mainComponent id t).1 ∧
    (host.defaults id s).1 = (host.defaults id t).1

theorem dependsOnId_ofAnswers (mainComponent : String → Except Failure (Option ComponentRef))
    (defaults : String → Except Failure (Mapping Json)) :
    (ofAnswers mainComponent defaults).DependsOnId :=
  fun _ _ _ => ⟨rfl, rfl⟩

/-- The answers of a host in a state. -/
def answersIn (host : Host σ) (s : σ) : Answers where
  mainComponent id := (host.mainComponent id s).1
  defaults id := (host.defaults id s).1

theorem DependsOnId.follows {host : Host σ} (hanswers : host.DependsOnId) (s : σ) :
    host.Follows (fun _ => True) (host.answersIn s) where
  mainComponent id t _ := ⟨(hanswers id t s).1, trivial⟩
  defaults id t _ := ⟨(hanswers id t s).2, trivial⟩

end Host

namespace Answers

/-- The answers where defaults are remembered: with room for nothing, there are no defaults. -/
def remembered (capacity : Int) (answers : Answers) : Answers where
  mainComponent := answers.mainComponent
  defaults id :=
    match answers.defaults id with
    | .error e => .error e
    | .ok defaults => if capacity ≤ 0 then .error .entryTooLarge else .ok defaults

theorem remembered_of_pos {capacity : Int} (hroom : 0 < capacity) (answers : Answers) :
    answers.remembered capacity = answers := by
  have hsome : ¬ capacity ≤ 0 := by omega
  cases answers with
  | mk mainComponent defaults =>
    simp only [remembered, hsome, if_false]
    congr 1
    funext id
    cases defaults id <;> rfl

end Answers

namespace Recent

theorem find?_take {recent : Recent} {n : Nat} {id : String} {known : Mapping Json}
    (hfound : find? id (recent.take n) = some known) : find? id recent = some known := by
  induction recent generalizing n with
  | nil => simp [find?] at hfound
  | cons entry rest ih =>
    obtain ⟨k, answer⟩ := entry
    cases n with
    | zero => simp [find?] at hfound
    | succ n =>
      rw [List.take_succ_cons] at hfound
      by_cases hk : k = id
      · simpa [find?, hk] using hfound
      · simp only [find?, if_neg hk] at hfound ⊢
        exact ih hfound

theorem find?_without {recent : Recent} {id other : String} (hne : other ≠ id) :
    find? other (recent.without id) = find? other recent := by
  induction recent with
  | nil => rfl
  | cons entry rest ih =>
    obtain ⟨k, answer⟩ := entry
    rw [without] at ih ⊢
    by_cases hk : k = id
    · have hother : ¬ k = other := fun heq => hne (heq.symm.trans hk)
      simp [hk, find?, ih, Ne.symm hne]
    · by_cases hother : k = other
      · simp [hother, hne, find?]
      · simp [hk, find?, hother, ih]

/-- What is known after an answer was remembered was known before, or is this answer. -/
theorem find?_remember {recent : Recent} {capacity : Nat} {id other : String}
    {answer known : Mapping Json}
    (hfound : (recent.remember capacity id answer).find? other = some known) :
    other = id ∧ known = answer ∨ recent.find? other = some known := by
  have hall := find?_take hfound
  by_cases hother : other = id
  · subst hother
    rw [find?, if_pos rfl, Option.some.injEq] at hall
    exact .inl ⟨rfl, hall.symm⟩
  · rw [find?, if_neg (Ne.symm hother), find?_without hother] at hall
    exact .inr hall

end Recent

namespace Host

variable {host : Host σ} {capacity : Int} {id : String} {s : Remembering σ}

/-- Known defaults are answered from memory, and become the most recent ones. -/
theorem remembering_defaults_of_known {known : Mapping Json}
    (hknown : s.recent.find? id = some known) :
    (host.remembering capacity).defaults id s =
      (.ok known, { s with recent := s.recent.remember capacity.toNat id known }) := by
  simp only [remembering, storing, Recent.store, hknown]

/-- Unknown defaults are asked for: a failure is passed on, and an answer is remembered if there is
room. -/
theorem remembering_defaults_of_unknown (hunknown : s.recent.find? id = none) :
    (host.remembering capacity).defaults id s =
      match (host.defaults id s.host).1 with
      | .error e => (.error e, { s with host := (host.defaults id s.host).2 })
      | .ok defaults =>
        if capacity ≤ 0 then (.error .entryTooLarge, { s with host := (host.defaults id s.host).2 })
        else
          (.ok defaults,
            { host := (host.defaults id s.host).2
              recent := s.recent.remember capacity.toNat id defaults }) := by
  simp only [remembering, storing, Recent.store, hunknown]
  rcases host.defaults id s.host with ⟨e | defaults, h⟩
  · rfl
  · by_cases hfull : capacity ≤ 0
    · simp only [hfull, if_true]
    · simp only [hfull, if_false]

end Host

/-- The host is in a good state, and all defaults that are remembered are the right ones. -/
structure Remembering.IsSound (Good : σ → Prop) (answers : Answers) (s : Remembering σ) : Prop where
  host : Good s.host
  recent : ∀ id known, s.recent.find? id = some known → answers.defaults id = .ok known

/-- Right defaults may be remembered. -/
theorem Remembering.IsSound.remember {Good : σ → Prop} {answers : Answers} {s : Remembering σ}
    (hsound : s.IsSound Good answers) {h : σ} (hgood : Good h) {capacity : Nat} {id : String}
    {defaults : Mapping Json} (hright : answers.defaults id = .ok defaults) :
    Remembering.IsSound Good answers
      { host := h, recent := s.recent.remember capacity id defaults } := by
  refine ⟨hgood, fun other found hother => ?_⟩
  rcases Recent.find?_remember hother with ⟨rfl, rfl⟩ | hbefore
  · exact hright
  · exact hsound.recent other found hbefore

/-- Remembering defaults changes no answers, unless there is room for nothing. -/
theorem Host.Follows.remembering {host : Host σ} {Good : σ → Prop} {answers : Answers}
    (hfollows : host.Follows Good answers) (capacity : Int) :
    (host.remembering capacity).Follows
      (Remembering.IsSound Good (answers.remembered capacity)) (answers.remembered capacity) where
  mainComponent id s hsound := by
    obtain ⟨hanswer, hgood⟩ := hfollows.mainComponent id s.host hsound.host
    exact ⟨hanswer, hgood, hsound.recent⟩
  defaults id s hsound := by
    obtain ⟨hanswer, hgood⟩ := hfollows.defaults id s.host hsound.host
    cases hfound : s.recent.find? id with
    | some known =>
      have hknown := hsound.recent id known hfound
      rw [remembering_defaults_of_known hfound]
      exact ⟨hknown.symm, hsound.remember hsound.host hknown⟩
    | none =>
      have hdefaults : (answers.remembered capacity).defaults id =
          match answers.defaults id with
          | .error e => .error e
          | .ok defaults => if capacity ≤ 0 then .error .entryTooLarge else .ok defaults := rfl
      rw [remembering_defaults_of_unknown hfound, hanswer]
      cases hasked : answers.defaults id with
      | error e =>
        rw [hasked] at hdefaults
        exact ⟨hdefaults.symm, hgood, hsound.recent⟩
      | ok defaults =>
        rw [hasked] at hdefaults
        by_cases hroom : capacity ≤ 0
        · simp only [if_pos hroom] at hdefaults ⊢
          exact ⟨hdefaults.symm, hgood, hsound.recent⟩
        · simp only [if_neg hroom] at hdefaults ⊢
          exact ⟨hdefaults.symm, hsound.remember hgood hdefaults⟩

namespace Task

/-- From a good state of the host, the task gives the value, and leaves the host in a good state. -/
def Gives (Good : σ → Prop) (task : Task σ α) (a : α) : Prop :=
  ∀ p : Progress σ, Good p.host → (task p).1 = a ∧ Good (task p).2.host

variable {Good : σ → Prop}

theorem gives_pure (a : α) : (pure a : Task σ α).Gives Good a := fun _ hgood => ⟨rfl, hgood⟩

theorem gives_report (event : Event) : (report event : Task σ Unit).Gives Good () :=
  fun _ hgood => ⟨rfl, hgood⟩

theorem gives_ask {question : StateM σ α} {a : α}
    (hanswer : ∀ s, Good s → (question s).1 = a ∧ Good (question s).2) :
    (ask question).Gives Good a :=
  fun p hgood => hanswer p.host hgood

theorem Gives.bind {task : Task σ α} {next : α → Task σ β} {a : α} {b : β}
    (htask : task.Gives Good a) (hnext : (next a).Gives Good b) : (task >>= next).Gives Good b := by
  intro p hgood
  obtain ⟨hvalue, hafter⟩ := htask p hgood
  rw [bind_apply, hvalue]
  exact hnext (task p).2 hafter

theorem Gives.mapM {f : α → Task σ β} {g : α → β} {l : List α}
    (hf : ∀ a ∈ l, (f a).Gives Good (g a)) : (l.mapM f).Gives Good (l.map g) := by
  induction l with
  | nil => exact gives_pure []
  | cons a l ih =>
    rw [List.mapM_cons, List.map_cons]
    refine (hf a List.mem_cons_self).bind ?_
    refine (ih fun b hb => hf b (List.mem_cons_of_mem _ hb)).bind ?_
    exact gives_pure _

/-- Remembering starts anew with every task, so it starts with nothing that could be wrong. -/
theorem Gives.withMemory {task : Task (Remembering σ) α} {answers : Answers} {a : α}
    (htask : task.Gives (Remembering.IsSound Good answers) a) : task.withMemory.Gives Good a := by
  intro p hgood
  have hstart : Remembering.IsSound Good answers { host := p.host } :=
    ⟨hgood, fun _ _ hfound => by cases hfound⟩
  obtain ⟨hvalue, hend⟩ := htask { host := { host := p.host }, events := p.events } hstart
  exact ⟨hvalue, hend.host⟩

end Task

end LayerMarkup
