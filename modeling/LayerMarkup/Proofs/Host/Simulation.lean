import LayerMarkup.Proofs.Host.Answers

/-!
# Simulation of hosts

Two hosts with states of different kinds may give the same answers in states that belong together,
and go on to such states (`Host.Simulates`).  A task that is put together in the same way from the
questions of either gives the same result and makes the same reports (`Task.Simulates`).  So it does
not matter what else a host keeps in its state, nor how it stores what it remembers.
-/

namespace LayerMarkup

variable {σ τ σ' τ' α β : Type} {R : σ → τ → Prop} {Q : σ' → τ' → Prop}

/-- From states that belong together the hosts give the same answers, and come to such states. -/
structure Host.Simulates (R : σ → τ → Prop) (host : Host σ) (other : Host τ) : Prop where
  mainComponent : ∀ id s t, R s t → (host.mainComponent id s).1 = (other.mainComponent id t).1 ∧
    R (host.mainComponent id s).2 (other.mainComponent id t).2
  defaults : ∀ id s t, R s t → (host.defaults id s).1 = (other.defaults id t).1 ∧
    R (host.defaults id s).2 (other.defaults id t).2

/-- Two hosts in states that belong together, after the same reports. -/
structure Progress.Related (R : σ → τ → Prop) (p : Progress σ) (q : Progress τ) : Prop where
  host : R p.host q.host
  events : p.events = q.events

theorem Progress.Related.eq {p q : Progress σ} (hrelated : Related Eq p q) : p = q := by
  cases p
  cases q
  obtain ⟨rfl, rfl⟩ := hrelated
  rfl

namespace Task

/-- The tasks have the same result and make the same reports. -/
def Simulates (R : σ → τ → Prop) (task : Task σ α) (other : Task τ α) : Prop :=
  ∀ p q, Progress.Related R p q → (task p).1 = (other q).1 ∧ Progress.Related R (task p).2 (other q).2

theorem simulates_pure (a : α) : Simulates R (pure a) (pure a) := fun _ _ hrelated => ⟨rfl, hrelated⟩

theorem simulates_report (event : Event) : Simulates R (report event) (report event) :=
  fun _ _ hrelated => ⟨rfl, hrelated.host, congrArg (event :: ·) hrelated.events⟩

theorem simulates_ask {question : StateM σ α} {other : StateM τ α}
    (hquestion : ∀ s t, R s t → (question s).1 = (other t).1 ∧ R (question s).2 (other t).2) :
    Simulates R (ask question) (ask other) := by
  intro p q hrelated
  obtain ⟨hanswer, hstates⟩ := hquestion p.host q.host hrelated.host
  exact ⟨hanswer, hstates, hrelated.events⟩

theorem Simulates.bind {task : Task σ α} {other : Task τ α} {next : α → Task σ β} {later : α → Task τ β}
    (htask : task.Simulates R other) (hnext : ∀ a, (next a).Simulates R (later a)) :
    (task >>= next).Simulates R (other >>= later) := by
  intro p q hrelated
  obtain ⟨hresult, hafter⟩ := htask p q hrelated
  rw [bind_apply, bind_apply, hresult]
  exact hnext _ _ _ hafter

theorem Simulates.foldlM {f : β → α → Task σ β} {g : β → α → Task τ β}
    (hstep : ∀ b a, (f b a).Simulates R (g b a)) (l : List α) (b : β) :
    (l.foldlM f b).Simulates R (l.foldlM g b) := by
  induction l generalizing b with
  | nil => exact simulates_pure b
  | cons a l ih =>
    rw [List.foldlM_cons, List.foldlM_cons]
    exact (hstep b a).bind ih

/-- While the tasks run, the states may be inside of others. -/
theorem Simulates.within {task : Task σ' α} {other : Task τ' α} {enter : σ → σ'} {leave : σ' → σ}
    {enter' : τ → τ'} {leave' : τ' → τ} (henter : ∀ s t, R s t → Q (enter s) (enter' t))
    (hleave : ∀ s t, Q s t → R (leave s) (leave' t)) (htask : task.Simulates Q other) :
    (task.within enter leave).Simulates R (other.within enter' leave') := by
  intro p q hrelated
  obtain ⟨hresult, hafter⟩ := htask { host := enter p.host, events := p.events }
    { host := enter' q.host, events := q.events } ⟨henter _ _ hrelated.host, hrelated.events⟩
  exact ⟨hresult, hleave _ _ hafter.host, hafter.events⟩

/-- What is remembered is the same in the beginning. -/
theorem Simulates.withMemory {task : Task (Remembering σ) α} {other : Task (Remembering τ) α}
    (htask : task.Simulates (fun s t => R s.host t.host ∧ s.recent = t.recent) other) :
    task.withMemory.Simulates R other.withMemory := by
  unfold Task.withMemory
  exact htask.within (fun _ _ hstates => ⟨hstates, rfl⟩) fun _ _ => And.left

/-- Tasks that are alike from the same states are the same. -/
theorem Simulates.eq {task other : Task σ α} (htask : task.Simulates Eq other) : task = other := by
  funext p
  obtain ⟨hresult, hafter⟩ := htask p p ⟨rfl, rfl⟩
  exact Prod.ext hresult hafter.eq

theorem Simulates.run {task : Task σ α} {other : Task τ α} (htask : task.Simulates R other) {s : σ}
    {t : τ} (hstates : R s t) :
    (task.run s).1 = (other.run t).1 ∧ R (task.run s).2.1 (other.run t).2.1 ∧
      (task.run s).2.2 = (other.run t).2.2 := by
  obtain ⟨hresult, hafter⟩ := htask { host := s } { host := t } ⟨hstates, rfl⟩
  exact ⟨hresult, hafter.host, congrArg List.reverse hafter.events⟩

end Task

namespace Attempt

/-- The attempts have the same result or the same failure, and make the same reports. -/
def Simulates (R : σ → τ → Prop) (attempt : Attempt σ α) (other : Attempt τ α) : Prop :=
  Task.Simulates R attempt.run other.run

theorem simulates_pure (a : α) : Simulates R (pure a) (pure a) := Task.simulates_pure (Except.ok a)

theorem simulates_lift (outcome : Except Failure α) : Simulates R (liftM outcome) (liftM outcome) :=
  Task.simulates_pure outcome

theorem simulates_report (event : Event) : Simulates R (report event) (report event) :=
  (Task.simulates_report event).bind fun _ => Task.simulates_pure (Except.ok ())

theorem Simulates.bind {attempt : Attempt σ α} {other : Attempt τ α} {next : α → Attempt σ β}
    {later : α → Attempt τ β} (hattempt : attempt.Simulates R other)
    (hnext : ∀ a, (next a).Simulates R (later a)) :
    (attempt >>= next).Simulates R (other >>= later) := by
  rw [Simulates, ExceptT.run_bind, ExceptT.run_bind]
  refine Task.Simulates.bind hattempt fun outcome => ?_
  cases outcome with
  | ok a => exact hnext a
  | error cause => exact Task.simulates_pure (Except.error cause)

theorem simulates_absorb {question : StateM σ (Except Failure α)} {other : StateM τ (Except Failure α)}
    (hquestion : ∀ s t, R s t → (question s).1 = (other t).1 ∧ R (question s).2 (other t).2)
    (event : Failure → Event) :
    Simulates R (absorb event (ask question)) (absorb event (ask other)) := by
  refine Task.Simulates.bind (Task.simulates_ask hquestion) fun outcome => ?_
  cases outcome with
  | ok answer => exact Task.simulates_pure _
  | error cause => exact (Task.simulates_report _).bind fun _ => Task.simulates_pure _

theorem Simulates.withMemory {attempt : Attempt (Remembering σ) α} {other : Attempt (Remembering τ) α}
    (hattempt : attempt.Simulates (fun s t => R s.host t.host ∧ s.recent = t.recent) other) :
    attempt.withMemory.Simulates R other.withMemory :=
  Task.Simulates.withMemory hattempt

end Attempt

namespace Host

variable {host : Host σ} {other : Host τ}

/-- The same defaults are remembered of both. -/
theorem Simulates.remembering (hsimulates : host.Simulates R other) (capacity : Int) :
    (host.remembering capacity).Simulates (fun s t => R s.host t.host ∧ s.recent = t.recent)
      (other.remembering capacity) where
  mainComponent id s t := by
    rintro ⟨hstates, hrecent⟩
    obtain ⟨hanswer, hafter⟩ := hsimulates.mainComponent id s.host t.host hstates
    exact ⟨hanswer, hafter, hrecent⟩
  defaults id s t := by
    rintro ⟨hstates, hrecent⟩
    obtain ⟨hanswer, hafter⟩ := hsimulates.defaults id s.host t.host hstates
    cases hfound : t.recent.find? id with
    | some known =>
      rw [remembering_defaults_of_known (hrecent ▸ hfound), remembering_defaults_of_known hfound,
        hrecent]
      exact ⟨rfl, hstates, rfl⟩
    | none =>
      rw [remembering_defaults_of_unknown (hrecent ▸ hfound), remembering_defaults_of_unknown hfound,
        hrecent, hanswer]
      cases (other.defaults id t.host).1 with
      | error cause => exact ⟨rfl, hafter, rfl⟩
      | ok defaults =>
        by_cases hfull : capacity ≤ 0
        · simp only [hfull, if_true]
          exact ⟨trivial, hafter, trivial⟩
        · simp only [hfull, if_false]
          exact ⟨trivial, hafter, trivial⟩

/-- What is kept beside the state of a host changes nothing. -/
theorem simulates_of_beside {keeping : Host (σ × τ)} {host : Host σ}
    (hmain : ∀ id s, (keeping.mainComponent id s).1 = (host.mainComponent id s.1).1 ∧
      (keeping.mainComponent id s).2.1 = (host.mainComponent id s.1).2)
    (hdefaults : ∀ id s, (keeping.defaults id s).1 = (host.defaults id s.1).1 ∧
      (keeping.defaults id s).2.1 = (host.defaults id s.1).2) :
    keeping.Simulates (fun s t => s.1 = t) host where
  mainComponent id s _ := by
    rintro rfl
    exact hmain id s
  defaults id s _ := by
    rintro rfl
    exact hdefaults id s

/-- A host does not answer differently for being recorded. -/
theorem simulates_recorded (host : Host σ) : host.recorded.Simulates (fun s t => s.1 = t) host :=
  simulates_of_beside (fun _ _ => ⟨rfl, rfl⟩) fun _ _ => ⟨rfl, rfl⟩

end Host

end LayerMarkup
