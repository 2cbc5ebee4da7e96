import LayerMarkup.Interruption
import LayerMarkup.Proofs.Host.Attempts

/-!
# Work without interruption

Where the work on every node runs as a task that cannot fail, no step is called off: the work on the
forest is these tasks in the order of the turns (`runsAs_workThrough`), or it is stopped by a
setting of the wrong type.  The first half goes by what is recorded as long as nothing has failed
(`takeSteps_outcome`).  For the second, a failure of any node arrives at the top
(`firstFailureOf_ne_none`), and brings the cause of some node (`cause_of_firstFailureOf`).
-/

namespace LayerMarkup.Interruption

variable {σ α β : Type} {failed : Nat → Option Failure}

mutual

/-- If a node of the tree failed, the tree does. -/
theorem failureOf_ne_none : ∀ (t : Tree α) (depth index : Nat),
    (∃ s ∈ t.steps depth index, failed s.turn.index ≠ none) → failureOf failed depth index t ≠ none
  | .node v children, depth, index, hfailed => by
    rw [failureOf]
    cases hinside : firstFailureOf failed (depth + 1) (index + 1) children with
    | some inside => exact Option.some_ne_none _
    | none =>
      obtain ⟨s, hs, hself⟩ := hfailed
      rcases List.mem_cons.mp hs with rfl | hs
      · exact fun hnone => hself (Option.map_eq_none_iff.mp hnone)
      · exact absurd hinside (firstFailureOf_ne_none children _ _ ⟨s, hs, hself⟩)

theorem firstFailureOf_ne_none : ∀ (forest : List (Tree α)) (depth index : Nat),
    (∃ s ∈ Tree.forestSteps depth index forest, failed s.turn.index ≠ none) →
      firstFailureOf failed depth index forest ≠ none
  | [], _, _, hfailed => by
    obtain ⟨s, hs, _⟩ := hfailed
    cases hs
  | t :: ts, depth, index, hfailed => by
    obtain ⟨s, hs, hself⟩ := hfailed
    rw [firstFailureOf]
    rcases List.mem_append.mp hs with hs | hs
    · have hfirst := failureOf_ne_none t depth index ⟨s, hs, hself⟩
      intro hnone
      exact hfirst (Option.merge_eq_none_iff.mp hnone).1
    · have hlater := firstFailureOf_ne_none ts depth (index + t.size) ⟨s, hs, hself⟩
      intro hnone
      exact hlater (Option.merge_eq_none_iff.mp hnone).2

end

mutual

/-- The cause that gets out of a tree is the cause of some node. -/
theorem cause_of_failureOf : ∀ (t : Tree α) (depth index : Nat) {setback : Setback},
    failureOf failed depth index t = some setback → ∃ i, failed i = some setback.cause
  | .node v children, depth, index, setback, hfails => by
    rw [failureOf] at hfails
    cases hinside : firstFailureOf failed (depth + 1) (index + 1) children with
    | some inside =>
      rw [hinside] at hfails
      cases hfails
      obtain ⟨i, hself⟩ := cause_of_firstFailureOf children _ _ hinside
      exact ⟨i, hself⟩
    | none =>
      rw [hinside] at hfails
      obtain ⟨cause, hself, rfl⟩ := Option.map_eq_some_iff.mp hfails
      exact ⟨index, hself⟩

theorem cause_of_firstFailureOf : ∀ (forest : List (Tree α)) (depth index : Nat) {setback : Setback},
    firstFailureOf failed depth index forest = some setback → ∃ i, failed i = some setback.cause
  | [], _, _, _, hfails => by cases hfails
  | t :: ts, depth, index, setback, hfails => by
    rw [firstFailureOf] at hfails
    cases hfirst : failureOf failed depth index t with
    | none =>
      rw [hfirst, Option.merge_none_left] at hfails
      exact cause_of_firstFailureOf ts _ _ hfails
    | some a =>
      cases hlater : firstFailureOf failed depth (index + t.size) ts with
      | none =>
        rw [hfirst, hlater, Option.merge_none_right] at hfails
        cases hfails
        exact cause_of_failureOf t _ _ hfirst
      | some b =>
        rw [hfirst, hlater, Option.merge_some_some, Option.some.injEq, Setback.first] at hfails
        split at hfails
        · exact hfails ▸ cause_of_firstFailureOf ts _ _ hlater
        · exact hfails ▸ cause_of_failureOf t _ _ hfirst

end

/-- Where nothing failed, nothing arrives at the top. -/
theorem firstFailureOf_eq_none (hnone : ∀ i, failed i = none) (forest : List (Tree α))
    (depth index : Nat) : firstFailureOf failed depth index forest = none := by
  cases hfirst : firstFailureOf failed depth index forest with
  | none => rfl
  | some setback =>
    obtain ⟨i, hfailed⟩ := cause_of_firstFailureOf forest depth index hfirst
    rw [hnone] at hfailed
    cases hfailed

/-- The result of a step with the number of its node. -/
def numbered (task : Step α → Task σ β) (step : Step α) : Task σ (Nat × β) := do
  let result ← task step
  return (step.turn.index, result)

variable {c : Choices} {work : Step α → Attempt σ β} {task : Step α → Task σ β} {roots : List (Tree α)}

/-- A node failed by itself, and all failures are those of steps that the setting of the wrong type
stopped. -/
structure Record.IsStopped (c : Choices) (steps : List (Step α)) (record : Record β) : Prop where
  some_failure : record.failures ≠ []
  of_step : ∀ entry ∈ record.failures, c.Stops entry.2 ∧ ∃ s ∈ steps, s.turn.index = entry.1

theorem Record.IsStopped.addResult {steps : List (Step α)} {record : Record β}
    (hstopped : record.IsStopped c steps) (index : Nat) (result : β) :
    (record.addResult index result).IsStopped c steps :=
  ⟨hstopped.some_failure, hstopped.of_step⟩

/-- After one failure there may be others, of other steps. -/
theorem isStopped_addFailure {steps : List (Step α)} {record : Record β} {step : Step α}
    {cause : Failure}
    (hearlier : record.failures = [] ∨ record.IsStopped c steps) (hstep : step ∈ steps)
    (hstops : c.Stops cause) : (record.addFailure step.turn.index cause).IsStopped c steps where
  some_failure := List.cons_ne_nil _ _
  of_step entry hentry := by
    rcases List.mem_cons.mp hentry with rfl | hentry
    · exact ⟨hstops, step, hstep, rfl⟩
    · rcases hearlier with hnil | hstopped
      · rw [hnil] at hentry
        cases hentry
      · exact hstopped.of_step entry hentry

theorem Record.firstFailureOf_eq_none {record : Record β} (hnone : record.failures = []) :
    firstFailureOf record.failed 0 0 roots = none :=
  Interruption.firstFailureOf_eq_none (fun i => by rw [Record.failed, hnone]; rfl) roots 0 0

/-- A failure of a step of the forest arrives at the top, or another one does. -/
theorem Record.IsStopped.exists_setback {record : Record β}
    (hstopped : record.IsStopped c (Tree.forestSteps 0 0 roots)) :
    ∃ setback, firstFailureOf record.failed 0 0 roots = some setback ∧ c.Stops setback.cause := by
  obtain ⟨entry, hentry⟩ := List.exists_mem_of_ne_nil _ hstopped.some_failure
  obtain ⟨-, s, hs, hindex⟩ := hstopped.of_step entry hentry
  have hfailed : record.failed s.turn.index ≠ none := by
    rw [Record.failed, ← Option.isSome_iff_ne_none, List.lookup_isSome_iff]
    exact ⟨entry, hentry, beq_iff_eq.mpr hindex⟩
  obtain ⟨setback, hsetback⟩ := Option.ne_none_iff_exists'.mp
    (firstFailureOf_ne_none roots 0 0 ⟨s, hs, hfailed⟩)
  obtain ⟨i, hcause⟩ := cause_of_firstFailureOf roots 0 0 hsetback
  obtain ⟨before, after, hsplit, -⟩ := List.lookup_eq_some_iff.mp hcause
  have hmem : (i, setback.cause) ∈ record.failures :=
    hsplit ▸ List.mem_append_right _ List.mem_cons_self
  exact ⟨setback, hsetback, (hstopped.of_step _ hmem).1⟩

section Work

variable (roots) (hwork : ∀ step, c.RunsAs (work step) (task step))

include hwork

/-- A step keeps the record of failures what it was, or adds one of the kind that may occur. -/
theorem isStopped_takeStep {all : List (Step α)} {step : Step α} (hstep : step ∈ all)
    {record : Record β} (hstopped : record.IsStopped c all) (p : Progress σ) :
    (takeStep work roots record step p).1.IsStopped c all := by
  rw [takeStep]
  split
  · rw [Task.bind_apply]
    cases houtcome : ((work step).run p).1 with
    | ok result => exact hstopped.addResult _ _
    | error cause => exact isStopped_addFailure (.inr hstopped) hstep ((hwork step).stops houtcome)
  · exact hstopped

theorem isStopped_takeSteps {all steps : List (Step α)} (hsteps : ∀ step ∈ steps, step ∈ all)
    {record : Record β} (hstopped : record.IsStopped c all) (p : Progress σ) :
    (takeSteps work roots record steps p).1.IsStopped c all := by
  induction steps generalizing record p with
  | nil => exact hstopped
  | cons step rest ih =>
    rw [takeSteps, List.foldlM_cons, Task.bind_apply]
    refine ih (fun s hs => hsteps s (List.mem_cons_of_mem _ hs)) ?_ _
    exact isStopped_takeStep roots hwork (hsteps step List.mem_cons_self) hstopped p

/-- As long as nothing has failed, a step is taken, and is the task or fails. -/
theorem takeStep_outcome {all : List (Step α)} {step : Step α} (hstep : step ∈ all) {record : Record β}
    (hnone : record.failures = []) (p : Progress σ) :
    takeStep work roots record step p =
        (record.addResult step.turn.index (task step p).1, (task step p).2) ∨
      (takeStep work roots record step p).1.IsStopped c all := by
  have hturn : record.hasTurn roots step = true := by rw [Record.hasTurn, hnone]; rfl
  rw [takeStep, if_pos hturn, Task.bind_apply]
  rcases hwork step p with hsame | ⟨cause, hstops, hfails⟩
  · rw [hsame]
    exact .inl rfl
  · rw [hfails]
    exact .inr (isStopped_addFailure (.inl hnone) hstep hstops)

/-- Either every step runs as its task, and the record holds what they give, or some step is
stopped. -/
theorem takeSteps_outcome {all steps : List (Step α)} (hsteps : ∀ step ∈ steps, step ∈ all)
    {record : Record β} (hnone : record.failures = []) (p : Progress σ) :
    takeSteps work roots record steps p =
        ({ record with results := (steps.mapM (numbered task) p).1.reverse ++ record.results },
          (steps.mapM (numbered task) p).2) ∨
      (takeSteps work roots record steps p).1.IsStopped c all := by
  induction steps generalizing record p with
  | nil => exact .inl rfl
  | cons step rest ih =>
    have hrest : ∀ s ∈ rest, s ∈ all := fun s hs => hsteps s (List.mem_cons_of_mem _ hs)
    rw [takeSteps, List.foldlM_cons, Task.bind_apply]
    rcases takeStep_outcome roots hwork (hsteps step List.mem_cons_self) hnone p with
      hsame | hstopped
    · rw [hsame, Task.mapM_cons_apply]
      have hstill : (record.addResult step.turn.index (task step p).1).failures = [] := hnone
      rcases ih hrest hstill (task step p).2 with hlater | hstopped
      · left
        rw [takeSteps] at hlater
        rw [hlater, List.reverse_cons, List.append_assoc]
        rfl
      · exact .inr hstopped
    · exact .inr (isStopped_takeSteps roots hwork hrest hstopped _)

/-- The work on a forest is the work on its nodes in the order of their turns. -/
theorem runsAs_workThrough :
    c.RunsAs (workThrough work roots)
      ((Step.inOrder (Tree.forestSteps 0 0 roots)).mapM (numbered task)) := by
  intro p
  rw [workThrough, ExceptT.run_mk, Task.bind_apply]
  have hall : ∀ step ∈ Step.inOrder (Tree.forestSteps 0 0 roots), step ∈ Tree.forestSteps 0 0 roots :=
    fun _ hstep => Step.mem_inOrder.mp hstep
  have hnone : ({} : Record β).failures = [] := rfl
  rcases takeSteps_outcome roots hwork hall hnone p with hsame | hstopped
  · left
    rw [hsame, Record.firstFailureOf_eq_none rfl, List.append_nil]
    simp only [List.reverse_reverse]
    rfl
  · right
    obtain ⟨setback, hsetback, hstops⟩ := hstopped.exists_setback
    rw [hsetback]
    exact ⟨setback.cause, hstops, rfl⟩

end Work

end LayerMarkup.Interruption
