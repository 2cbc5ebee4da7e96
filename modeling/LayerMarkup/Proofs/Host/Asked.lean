import LayerMarkup.Proofs.Host.Answers
import LayerMarkup.Proofs.Host.Attempts

/-!
# Main components asked for

How often a host is asked for the main component of a layer can be told from what it keeps of the
questions.  A host keeps track of these ids if a question for a main component adds its id and a
question for defaults adds none (`Host.Tracks`); a host that is recorded does so, and remembering
defaults does not change it.

On such a host it can be said of a task which ids it asks for, whatever the answers are
(`Task.AsksFor`).  Of a task that may end early it can be said which ids it asks for at most
(`Task.AsksAtMost`).  The lemmas about both go by the ways in which tasks are put together.
-/

namespace LayerMarkup

open scoped List

variable {σ α β : Type}

/-- The id whose main component a question is about. -/
def Lookup.main? : Lookup → Option String
  | .mainComponent id => some id
  | .defaults _ => none

theorem Lookup.count_filterMap_main? (asked : List Lookup) (id : String) :
    (asked.filterMap Lookup.main?).count id = asked.count (.mainComponent id) := by
  rw [List.count_filterMap, List.count]
  refine List.countP_congr fun question _ => ?_
  cases question <;> simp [main?]

/-- What is kept, the last question first, tells how often an id was asked for. -/
theorem Lookup.count_of_filterMap_main? {asked : List Lookup} {ids : List String}
    (hkept : asked.filterMap Lookup.main? = ids.reverse ++ []) (id : String) :
    asked.count (.mainComponent id) = ids.count id := by
  rw [← Lookup.count_filterMap_main?, hkept, List.append_nil, List.count_reverse]

namespace Host

variable {host : Host σ} {mains : σ → List String}

/-- The state of the host tells for which ids it was asked about a main component, the last one
first. -/
structure Tracks (host : Host σ) (mains : σ → List String) : Prop where
  mainComponent : ∀ id s, mains (host.mainComponent id s).2 = id :: mains s
  defaults : ∀ id s, mains (host.defaults id s).2 = mains s

theorem tracks_recorded (host : Host σ) : host.recorded.Tracks fun s => s.2.filterMap Lookup.main? where
  mainComponent _ _ := rfl
  defaults _ _ := rfl

/-- Only defaults are remembered. -/
theorem Tracks.remembering (htracks : host.Tracks mains) (capacity : Int) :
    (host.remembering capacity).Tracks fun s => mains s.host where
  mainComponent id s := htracks.mainComponent id s.host
  defaults id s := by
    have hasked : mains (host.defaults id s.host).2 = mains s.host := htracks.defaults id s.host
    cases hfound : s.recent.find? id with
    | some known => rw [remembering_defaults_of_known hfound]
    | none =>
      rw [remembering_defaults_of_unknown hfound]
      cases (host.defaults id s.host).1 with
      | error cause => exact hasked
      | ok defaults =>
        by_cases hroom : capacity ≤ 0
        · simp only [if_pos hroom]
          exact hasked
        · simp only [if_neg hroom]
          exact hasked

end Host

namespace Task

variable {mains : σ → List String}

/-- The task asks about the main components of these ids, in this order, whatever it is told. -/
def AsksFor (mains : σ → List String) (task : Task σ α) (ids : List String) : Prop :=
  ∀ p : Progress σ, mains (task p).2.host = ids.reverse ++ mains p.host

theorem asksFor_pure (a : α) : (pure a : Task σ α).AsksFor mains [] := fun _ => rfl

theorem asksFor_report_pure (event : Event) (a : α) :
    (report event >>= fun _ => pure a : Task σ α).AsksFor mains [] :=
  fun _ => rfl

theorem asksFor_ask_mainComponent {host : Host σ} (htracks : host.Tracks mains) (id : String) :
    (ask (host.mainComponent id)).AsksFor mains [id] :=
  fun p => htracks.mainComponent id p.host

theorem asksFor_ask_defaults {host : Host σ} (htracks : host.Tracks mains) (id : String) :
    (ask (host.defaults id)).AsksFor mains [] :=
  fun p => htracks.defaults id p.host

theorem AsksFor.bind {task : Task σ α} {next : α → Task σ β} {ids later : List String}
    (htask : task.AsksFor mains ids) (hnext : ∀ a, (next a).AsksFor mains later) :
    (task >>= next).AsksFor mains (ids ++ later) := by
  intro p
  rw [bind_apply, hnext, htask, List.reverse_append, List.append_assoc]

/-- What comes after a task may ask for nothing more. -/
theorem AsksFor.bind_nil {task : Task σ α} {next : α → Task σ β} {ids : List String}
    (htask : task.AsksFor mains ids) (hnext : ∀ a, (next a).AsksFor mains []) :
    (task >>= next).AsksFor mains ids :=
  List.append_nil ids ▸ htask.bind hnext

theorem AsksFor.mapM {f : α → Task σ β} {ids : α → List String} {l : List α}
    (hf : ∀ a, (f a).AsksFor mains (ids a)) : (l.mapM f).AsksFor mains (l.flatMap ids) := by
  induction l with
  | nil => exact asksFor_pure []
  | cons a l ih =>
    rw [List.mapM_cons, List.flatMap_cons]
    exact (hf a).bind fun b => ih.bind_nil fun bs => asksFor_pure _

/-- Asking from memory is asking. -/
theorem AsksFor.withMemory {task : Task (Remembering σ) α} {ids : List String}
    (htask : task.AsksFor (fun s => mains s.host) ids) : task.withMemory.AsksFor mains ids :=
  fun p => htask { host := { host := p.host }, events := p.events }

/-- The task asks about the main components of some of these ids, in this order. -/
def AsksAtMost (mains : σ → List String) (task : Task σ α) (ids : List String) : Prop :=
  ∀ p : Progress σ, ∃ asked, asked <+ ids ∧ mains (task p).2.host = asked.reverse ++ mains p.host

theorem AsksFor.asksAtMost {task : Task σ α} {ids : List String} (htask : task.AsksFor mains ids) :
    task.AsksAtMost mains ids :=
  fun p => ⟨ids, .refl _, htask p⟩

theorem AsksAtMost.bind {task : Task σ α} {next : α → Task σ β} {ids later : List String}
    (htask : task.AsksAtMost mains ids) (hnext : ∀ a, (next a).AsksAtMost mains later) :
    (task >>= next).AsksAtMost mains (ids ++ later) := by
  intro p
  obtain ⟨asked, hless, hasked⟩ := htask p
  obtain ⟨asked', hless', hasked'⟩ := hnext (task p).1 (task p).2
  refine ⟨asked ++ asked', hless.append hless', ?_⟩
  rw [bind_apply, hasked', hasked, List.reverse_append, List.append_assoc]

theorem AsksAtMost.bind_nil {task : Task σ α} {next : α → Task σ β} {ids : List String}
    (htask : task.AsksAtMost mains ids) (hnext : ∀ a, (next a).AsksAtMost mains []) :
    (task >>= next).AsksAtMost mains ids :=
  List.append_nil ids ▸ htask.bind hnext

theorem AsksAtMost.foldlM {f : β → α → Task σ β} {ids : α → List String}
    (hf : ∀ b a, (f b a).AsksAtMost mains (ids a)) (l : List α) (b : β) :
    (l.foldlM f b).AsksAtMost mains (l.flatMap ids) := by
  induction l generalizing b with
  | nil => exact (asksFor_pure b).asksAtMost
  | cons a l ih =>
    rw [List.foldlM_cons, List.flatMap_cons]
    exact (hf b a).bind ih

theorem AsksAtMost.withMemory {task : Task (Remembering σ) α} {ids : List String}
    (htask : task.AsksAtMost (fun s => mains s.host) ids) : task.withMemory.AsksAtMost mains ids :=
  fun p => htask { host := { host := p.host }, events := p.events }

end Task

namespace Attempt

variable {mains : σ → List String}

/-- The attempt asks about the main components of some of these ids, in this order, before it ends
or fails. -/
def AsksAtMost (mains : σ → List String) (attempt : Attempt σ α) (ids : List String) : Prop :=
  attempt.run.AsksAtMost mains ids

theorem asksAtMost_pure (a : α) : (pure a : Attempt σ α).AsksAtMost mains [] :=
  (Task.asksFor_pure (Except.ok a)).asksAtMost

theorem asksAtMost_lift (outcome : Except Failure α) :
    (liftM outcome : Attempt σ α).AsksAtMost mains [] :=
  (Task.asksFor_pure outcome).asksAtMost

theorem asksAtMost_report (event : Event) : (report event : Attempt σ Unit).AsksAtMost mains [] :=
  (Task.asksFor_report_pure event (Except.ok ())).asksAtMost

/-- What comes after a failure asks for nothing. -/
theorem AsksAtMost.bind {attempt : Attempt σ α} {next : α → Attempt σ β} {ids later : List String}
    (hattempt : attempt.AsksAtMost mains ids) (hnext : ∀ a, (next a).AsksAtMost mains later) :
    (attempt >>= next).AsksAtMost mains (ids ++ later) := by
  rw [AsksAtMost, ExceptT.run_bind]
  refine Task.AsksAtMost.bind hattempt fun outcome => ?_
  cases outcome with
  | ok a => exact hnext a
  | error cause => exact fun p => ⟨[], List.nil_sublist _, rfl⟩

theorem AsksAtMost.bind_nil {attempt : Attempt σ α} {next : α → Attempt σ β} {ids : List String}
    (hattempt : attempt.AsksAtMost mains ids) (hnext : ∀ a, (next a).AsksAtMost mains []) :
    (attempt >>= next).AsksAtMost mains ids :=
  List.append_nil ids ▸ hattempt.bind hnext

theorem AsksAtMost.nil_bind {attempt : Attempt σ α} {next : α → Attempt σ β} {ids : List String}
    (hattempt : attempt.AsksAtMost mains []) (hnext : ∀ a, (next a).AsksAtMost mains ids) :
    (attempt >>= next).AsksAtMost mains ids :=
  hattempt.bind hnext

theorem asksAtMost_absorb {question : StateM σ (Except Failure α)} {ids : List String}
    (hquestion : (Task.ask question).AsksFor mains ids) (event : Failure → Event) :
    (absorb event (ask question)).AsksAtMost mains ids := by
  refine Task.AsksAtMost.bind_nil hquestion.asksAtMost fun outcome => ?_
  cases outcome with
  | ok answer => exact (Task.asksFor_pure _).asksAtMost
  | error cause => exact (Task.asksFor_report_pure _ _).asksAtMost

theorem AsksAtMost.withMemory {attempt : Attempt (Remembering σ) α} {ids : List String}
    (hattempt : attempt.AsksAtMost (fun s => mains s.host) ids) :
    attempt.withMemory.AsksAtMost mains ids :=
  Task.AsksAtMost.withMemory hattempt

end Attempt

end LayerMarkup
