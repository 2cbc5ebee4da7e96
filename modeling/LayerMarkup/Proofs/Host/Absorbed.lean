import LayerMarkup.Proofs.Host.Simulation

/-!
# Absorbed failures

A lookup that fails is reported and the layer goes on.  Whether every failure is absorbed in this
way, and none is made up, can be told from a host that keeps the causes of its failures
(`Host.KeepsFailures`): the reports of a task are to name these causes, one by one and in order
(`Task.Absorbs`).
-/

namespace LayerMarkup

variable {σ α β : Type}

/-- The failure that a report is about, if it is about a failed lookup. -/
def Event.absorbed? : Event → Option Failure
  | .mainLookupFailed _ cause => some cause
  | .defaultsLookupFailed _ cause => some cause
  | _ => none

/-- The cause of an answer that is a failure. -/
def failureIn : Except Failure α → List Failure
  | .ok _ => []
  | .error cause => [cause]

/-- The cause for which the defaults of an answer are of no use, if at most so many can be
remembered. -/
def overflowIn (memory : Int) : Except Failure α → List Failure
  | .ok _ => if memory ≤ 0 then [.entryTooLarge] else []
  | .error cause => [cause]

namespace Host

variable {kept : σ → List Failure}

/-- The state of the host tells the causes of its failures, the last one first. -/
structure KeepsFailures (host : Host σ) (kept : σ → List Failure) : Prop where
  mainComponent : ∀ id s,
    kept (host.mainComponent id s).2 = failureIn (host.mainComponent id s).1 ++ kept s
  defaults : ∀ id s, kept (host.defaults id s).2 = failureIn (host.defaults id s).1 ++ kept s

/-- The host that also keeps the causes for which its answers are of no use where defaults are
remembered: its failures, and with room for nothing the defaults that cannot be kept. -/
def keepingFailures (host : Host σ) (memory : Int) : Host (σ × List Failure) where
  mainComponent id := fun s =>
    let asked := host.mainComponent id s.1
    (asked.1, asked.2, failureIn asked.1 ++ s.2)
  defaults id := fun s =>
    let asked := host.defaults id s.1
    (asked.1, asked.2, overflowIn memory asked.1 ++ s.2)

/-- It answers as the host does. -/
theorem simulates_keepingFailures (host : Host σ) (memory : Int) :
    (host.keepingFailures memory).Simulates (fun s t => s.1 = t) host :=
  simulates_of_beside (fun _ _ => ⟨rfl, rfl⟩) fun _ _ => ⟨rfl, rfl⟩

/-- Those are the failures of the host with its defaults remembered. -/
theorem keepsFailures_remembering (host : Host σ) (memory : Int) :
    ((host.keepingFailures memory).remembering memory).KeepsFailures fun s => s.host.2 where
  mainComponent _ _ := rfl
  defaults id s := by
    cases hfound : s.recent.find? id with
    | some known =>
      rw [remembering_defaults_of_known hfound]
      rfl
    | none =>
      rw [remembering_defaults_of_unknown hfound]
      simp only [keepingFailures]
      cases (host.defaults id s.host.1).1 with
      | error cause => rfl
      | ok defaults =>
        by_cases hroom : memory ≤ 0
        · simp only [overflowIn, if_pos hroom, failureIn]
        · simp only [overflowIn, if_neg hroom, failureIn]

end Host

namespace Task

variable {kept : σ → List Failure}

/-- The reports name the failures that the host keeps, and go on to do so while the task runs. -/
def Absorbs (kept : σ → List Failure) (task : Task σ α) : Prop :=
  ∀ p, p.events.filterMap Event.absorbed? = kept p.host →
    (task p).2.events.filterMap Event.absorbed? = kept (task p).2.host

theorem absorbs_pure (a : α) : (pure a : Task σ α).Absorbs kept := fun _ heven => heven

/-- A report about anything else. -/
theorem absorbs_report {event : Event} (hother : event.absorbed? = none) :
    (report event).Absorbs kept := by
  intro p heven
  exact (List.filterMap_cons_none hother).trans heven

theorem Absorbs.bind {task : Task σ α} {next : α → Task σ β} (htask : task.Absorbs kept)
    (hnext : ∀ a, (next a).Absorbs kept) : (task >>= next).Absorbs kept :=
  fun p heven => hnext _ _ (htask p heven)

theorem Absorbs.mapM {f : α → Task σ β} (hf : ∀ a, (f a).Absorbs kept) (l : List α) :
    (l.mapM f).Absorbs kept := by
  induction l with
  | nil => exact absorbs_pure []
  | cons a l ih =>
    rw [List.mapM_cons]
    exact (hf a).bind fun _ => ih.bind fun _ => absorbs_pure _

/-- A question whose failure is reported with its cause, and nothing else about a failure. -/
theorem absorbs_ask {question : StateM σ (Except Failure α)} {next : Except Failure α → Task σ β}
    (hquestion : ∀ s, kept (question s).2 = failureIn (question s).1 ++ kept s)
    (hanswer : ∀ answer, (next (.ok answer)).Absorbs kept)
    (hfailure : ∀ cause, ∃ event, event.absorbed? = some cause ∧
      ∃ b, next (.error cause) = (do report event; return b)) :
    (ask question >>= next).Absorbs kept := by
  intro p heven
  have hkept := hquestion p.host
  rw [bind_apply]
  cases houtcome : (question p.host).1 with
  | ok answer =>
    rw [houtcome] at hkept
    have hstate : (ask question p).1 = .ok answer := houtcome
    rw [hstate]
    exact hanswer answer _ (heven.trans hkept.symm)
  | error cause =>
    rw [houtcome] at hkept
    have hstate : (ask question p).1 = .error cause := houtcome
    obtain ⟨event, hevent, b, hnext⟩ := hfailure cause
    rw [hstate, hnext]
    refine (List.filterMap_cons_some hevent).trans ?_
    exact (congrArg (cause :: ·) heven).trans hkept.symm

end Task

end LayerMarkup
