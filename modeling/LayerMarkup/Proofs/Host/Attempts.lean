import LayerMarkup.Host.Recent

/-!
# Attempts that run as tasks

A stage can fail in two ways only: a lookup fails, or a setting has the wrong type.  Lookups are
absorbed where they are made, so what gets out of a stage is the wrong type of a setting or nothing.
This is said by comparing an attempt with a task that cannot fail (`Choices.RunsAs`), and the
outcome of a stage that asks nothing with a value (`Choices.Yields`).  The lemmas go by the ways in
which stages are put together, and where all settings have the right types, attempt and task are the
same (`RunsAs.eq`, `Yields.eq`).
-/

namespace LayerMarkup

variable {σ α β γ : Type} {c : Choices}

namespace Choices

/-- The cause with which the setting of the wrong type stops a stage. -/
def Stops (c : Choices) (cause : Failure) : Prop :=
  ∃ setting, c.mistyped = some setting ∧ cause = .mistyped setting

theorem not_stops (hsettings : c.mistyped = none) (cause : Failure) : ¬ c.Stops cause := by
  rintro ⟨setting, hmistyped, -⟩
  rw [hsettings] at hmistyped
  cases hmistyped

/-- The outcome is the value, unless a setting of the wrong type stops the stage. -/
def Yields (c : Choices) (outcome : Except Failure α) (a : α) : Prop :=
  outcome = .ok a ∨ ∃ cause, c.Stops cause ∧ outcome = .error cause

/-- The attempt does what the task does, unless a setting of the wrong type stops it. -/
def RunsAs (c : Choices) (attempt : Attempt σ α) (task : Task σ α) : Prop :=
  ∀ p, attempt.run p = (.ok (task p).1, (task p).2) ∨
    ∃ cause, c.Stops cause ∧ (attempt.run p).1 = .error cause

theorem Yields.eq {outcome : Except Failure α} {a : α} (hyields : c.Yields outcome a)
    (hsettings : c.mistyped = none) : outcome = .ok a :=
  hyields.resolve_right fun ⟨cause, hstops, _⟩ => not_stops hsettings cause hstops

theorem RunsAs.eq {attempt : Attempt σ α} {task : Task σ α} (hruns : c.RunsAs attempt task)
    (hsettings : c.mistyped = none) (p : Progress σ) :
    attempt.run p = (.ok (task p).1, (task p).2) :=
  (hruns p).resolve_right fun ⟨cause, hstops, _⟩ => not_stops hsettings cause hstops

/-- What stops an attempt is never a lookup. -/
theorem RunsAs.stops {attempt : Attempt σ α} {task : Task σ α} (hruns : c.RunsAs attempt task)
    {p : Progress σ} {cause : Failure} (hfails : (attempt.run p).1 = .error cause) : c.Stops cause := by
  rcases hruns p with hsame | ⟨cause', hstops, hfails'⟩
  · rw [hsame] at hfails
    cases hfails
  · rw [hfails'] at hfails
    cases hfails
    exact hstops

/-! ## Stages that ask nothing -/

theorem yields_pure (a : α) : c.Yields (pure a) a := .inl rfl

theorem Yields.bind {outcome : Except Failure α} {next : α → Except Failure β} {a : α} {b : β}
    (houtcome : c.Yields outcome a) (hnext : c.Yields (next a) b) : c.Yields (outcome >>= next) b := by
  rcases houtcome with rfl | ⟨cause, hstops, rfl⟩
  · exact hnext
  · exact .inr ⟨cause, hstops, rfl⟩

theorem Yields.foldlM {f : β → α → Except Failure β} {g : β → α → β}
    (hf : ∀ b a, c.Yields (f b a) (g b a)) (l : List α) (b : β) :
    c.Yields (l.foldlM f b) (l.foldl g b) := by
  induction l generalizing b with
  | nil => exact yields_pure b
  | cons a l ih => exact (hf b a).bind (ih (g b a))

theorem Yields.mapM {f : α → Except Failure β} {g : α → β} (hf : ∀ a, c.Yields (f a) (g a))
    (l : List α) : c.Yields (l.mapM f) (l.map g) := by
  induction l with
  | nil => exact yields_pure []
  | cons a l ih =>
    rw [List.mapM_cons]
    exact (hf a).bind (ih.bind (yields_pure _))

/-- A setting can be used, unless it is the one of the wrong type. -/
theorem yields_use (setting : Mistyped) : c.Yields (c.use setting) () := by
  by_cases hsetting : c.mistyped = some setting
  · exact .inr ⟨.mistyped setting, ⟨setting, hsetting, rfl⟩, by rw [use, if_pos hsetting]⟩
  · exact .inl (by rw [use, if_neg hsetting])

theorem yields_skipsKey (key : String) : c.Yields (c.skipsKey key) (c.config.skipsKey key) :=
  (yields_use .privateMarkers).bind (yields_pure _)

theorem yields_ignoresName (name : String) :
    c.Yields (c.ignoresName name) (c.config.ignoresName name) := by
  refine (yields_skipsKey name).bind ?_
  rw [Config.ignoresName]
  cases c.config.skipsKey name with
  | true => exact yields_pure _
  | false => exact (yields_use .propertiesSuffix).bind (yields_pure _)

/-! ## Stages that ask -/

theorem runsAs_pure (a : α) : c.RunsAs (pure a : Attempt σ α) (pure a) := fun _ => .inl rfl

theorem runsAs_report (event : Event) :
    c.RunsAs (Attempt.report event : Attempt σ Unit) (Task.report event) :=
  fun _ => .inl rfl

theorem Yields.runsAs {outcome : Except Failure α} {a : α} (hyields : c.Yields outcome a) :
    c.RunsAs (liftM outcome : Attempt σ α) (pure a) := by
  intro p
  rcases hyields with rfl | ⟨cause, hstops, rfl⟩
  · exact .inl rfl
  · exact .inr ⟨cause, hstops, rfl⟩

theorem run_bind_of_ok {attempt : Attempt σ α} {next : α → Attempt σ β} {p q : Progress σ} {a : α}
    (hok : attempt.run p = (.ok a, q)) : (attempt >>= next).run p = (next a).run q := by
  rw [ExceptT.run_bind, Task.bind_apply, hok]

theorem run_bind_of_error {attempt : Attempt σ α} {next : α → Attempt σ β} {p : Progress σ}
    {cause : Failure} (hfails : (attempt.run p).1 = .error cause) :
    (attempt >>= next).run p = (.error cause, (attempt.run p).2) := by
  rw [ExceptT.run_bind, Task.bind_apply, hfails]
  rfl

theorem RunsAs.bind {attempt : Attempt σ α} {next : α → Attempt σ β} {task : Task σ α}
    {later : α → Task σ β} (hattempt : c.RunsAs attempt task)
    (hnext : ∀ a, c.RunsAs (next a) (later a)) : c.RunsAs (attempt >>= next) (task >>= later) := by
  intro p
  rcases hattempt p with hsame | ⟨cause, hstops, hfails⟩
  · rw [run_bind_of_ok hsame, Task.bind_apply]
    exact hnext _ _
  · refine .inr ⟨cause, hstops, ?_⟩
    rw [run_bind_of_error hfails]

/-- A stage that asks nothing, between stages that ask. -/
theorem RunsAs.bind_yields {outcome : Except Failure α} {a : α} {next : α → Attempt σ β}
    {task : Task σ β} (houtcome : c.Yields outcome a) (hnext : c.RunsAs (next a) task) :
    c.RunsAs (liftM outcome >>= next) task := by
  rcases houtcome with rfl | ⟨cause, hstops, rfl⟩
  · exact hnext
  · exact fun p => .inr ⟨cause, hstops, rfl⟩

theorem RunsAs.withMemory {attempt : Attempt (Remembering σ) α} {task : Task (Remembering σ) α}
    (hattempt : c.RunsAs attempt task) : c.RunsAs attempt.withMemory task.withMemory := by
  intro p
  rcases hattempt { host := { host := p.host }, events := p.events }
    with hsame | ⟨cause, hstops, hfails⟩
  · left
    rw [Attempt.withMemory, ExceptT.run_mk, Task.withMemory, Task.within, hsame]
    rfl
  · right
    exact ⟨cause, hstops, hfails⟩

section Absorb

variable {question : StateM σ (Except Failure α)} {p q : Progress σ}

theorem run_absorb_of_answer {answer : α} (hanswer : Task.ask question p = (.ok answer, q))
    (event : Failure → Event) :
    (Attempt.absorb event (Attempt.ask question)).run p = (.ok (some answer), q) := by
  rw [Attempt.absorb, ExceptT.run_mk, Task.bind_apply, Attempt.ask, ExceptT.run_mk, hanswer]
  rfl

/-- A failed lookup does not get out of the attempt that absorbs it. -/
theorem run_absorb_of_failure {cause : Failure} (hanswer : Task.ask question p = (.error cause, q))
    (event : Failure → Event) :
    (Attempt.absorb event (Attempt.ask question)).run p =
      (.ok none, (Task.report (event cause) q).2) := by
  rw [Attempt.absorb, ExceptT.run_mk, Task.bind_apply, Attempt.ask, ExceptT.run_mk, hanswer]
  rfl

end Absorb

end Choices

end LayerMarkup
