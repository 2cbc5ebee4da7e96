import LayerMarkup.Proofs.Host.Simulation

/-!
# Which defaults are remembered

A host is called for the defaults of components, one call after another, and its answers are
remembered (`Host.askAll`).  With room for `n` answers, those of the `n` most recently used
components are remembered, where a component is used by every call that is answered with defaults.
Only the others are asked for, and the answer to a call is what the host gave last for the id.  A
failure is passed on and leaves nothing behind.

* `CallOutcome` — all that one call can do.
* `IsExact` — what is true of the remembered answers, after any calls.
* `askAll_exact` — both together.  If the answers of the host depend on the ids only, remembering
  them changes none, and more room never makes for another question.
-/

namespace LayerMarkup

variable {σ τ α : Type}

section Lists

variable [BEq α] [LawfulBEq α]

/-- Repetitions are dropped in the same way before and after a selection of items. -/
theorem eraseDups_filter (p : α → Bool) (l : List α) :
    (l.filter p).eraseDups = l.eraseDups.filter p := by
  induction hlength : l.length using Nat.strongRecOn generalizing l with
  | ind n ih =>
    cases l with
    | nil => rfl
    | cons a l =>
      have hshorter : (l.filter fun b => !b == a).length < n := by
        have hle := List.length_filter_le (fun b => !b == a) l
        rw [List.length_cons] at hlength
        omega
      have hrest := ih _ hshorter (l.filter fun b => !b == a) rfl
      rw [List.filter_filter] at hrest
      rw [List.eraseDups_cons]
      cases hp : p a with
      | true =>
        rw [List.filter_cons_of_pos hp, List.filter_cons_of_pos hp, List.eraseDups_cons, ← hrest,
          List.filter_filter]
        simp only [Bool.and_comm]
      | false =>
        have hskip : ¬ p a = true := by simp [hp]
        rw [List.filter_cons_of_neg hskip, List.filter_cons_of_neg hskip, ← hrest]
        congr 1
        refine List.filter_congr fun b _ => ?_
        -- An item that is selected is not the one that is not.
        by_cases hb : b = a
        · rw [hb, hp, Bool.false_and]
        · simp [hb]

theorem nodup_eraseDups (l : List α) : l.eraseDups.Nodup := by
  induction l with
  | nil => exact List.nodup_nil
  | cons a l ih =>
    rw [List.eraseDups_cons, eraseDups_filter, List.nodup_cons]
    exact ⟨by simp, ih.filter _⟩

/-- Of distinct items the first few without a certain one can be told from one item more than
that. -/
theorem take_filter_take {a : α} {l : List α} (hdistinct : l.Nodup) (n : Nat) :
    ((l.take (n + 1)).filter fun b => !b == a).take n = (l.filter fun b => !b == a).take n := by
  induction l generalizing n with
  | nil => rfl
  | cons b l ih =>
    obtain ⟨hb, hdistinct⟩ := List.nodup_cons.mp hdistinct
    rw [List.take_succ_cons]
    by_cases hba : b = a
    · subst hba
      have hall : l.filter (fun c => !c == b) = l := by
        refine List.filter_eq_self.mpr fun c hc => ?_
        have hne : c ≠ b := fun heq => hb (heq ▸ hc)
        simp [hne]
      have hfirst : (l.take n).filter (fun c => !c == b) = l.take n := by
        refine List.filter_eq_self.mpr fun c hc => ?_
        have hne : c ≠ b := fun heq => hb (heq ▸ List.mem_of_mem_take hc)
        simp [hne]
      rw [List.filter_cons_of_neg (by simp), List.filter_cons_of_neg (by simp), hall, hfirst,
        List.take_take, Nat.min_self]
    · rw [List.filter_cons_of_pos (by simp [hba]), List.filter_cons_of_pos (by simp [hba])]
      cases n with
      | zero => rfl
      | succ n => rw [List.take_succ_cons, List.take_succ_cons, ih hdistinct]

end Lists

/-- A call for the defaults of a component: its id and what was said to it. -/
abbrev DefaultsCall := String × Except Failure (Mapping Json)

namespace DefaultsCall

/-- The defaults that were given in answer to calls, by id. -/
def given (calls : List DefaultsCall) : List (String × Mapping Json) :=
  calls.filterMap fun call => call.2.toOption.map (call.1, ·)

/-- The distinct ids for which defaults were given.  If the calls are newest first, the id that was
used most recently comes first. -/
def used (calls : List DefaultsCall) : List String := ((given calls).map Prod.fst).eraseDups

variable {id : String} {known : Mapping Json} {calls : List DefaultsCall}

@[simp] theorem given_cons_ok : given ((id, .ok known) :: calls) = (id, known) :: given calls := rfl

/-- An id that is used comes before all others. -/
theorem used_cons_ok :
    used ((id, .ok known) :: calls) = id :: (used calls).filter fun other => !other == id := by
  rw [used, given_cons_ok, List.map_cons, List.eraseDups_cons, eraseDups_filter, used]

theorem nodup_used (calls : List DefaultsCall) : (used calls).Nodup := nodup_eraseDups _

end DefaultsCall

namespace Host

open DefaultsCall

/-- The host that also keeps what it says when it is called for defaults, newest first. -/
def heard (host : Host σ) : Host (σ × List DefaultsCall) where
  mainComponent id := fun (s, said) =>
    let (answer, t) := host.mainComponent id s
    (answer, t, said)
  defaults id := fun (s, said) =>
    let (answer, t) := host.defaults id s
    (answer, t, (id, answer) :: said)

/-- Calls for the defaults of components, one after another.  They are given newest first, and so
are the answers to them. -/
def callEach (host : Host τ) : List String → StateM τ (List DefaultsCall)
  | [] => pure []
  | id :: earlier => do
    let calls ← host.callEach earlier
    let answer ← host.defaults id
    return (id, answer) :: calls

theorem callEach_cons (host : Host τ) (id : String) (earlier : List String) (s : τ) :
    host.callEach (id :: earlier) s =
      ((id, (host.defaults id (host.callEach earlier s).2).1) :: (host.callEach earlier s).1,
        (host.defaults id (host.callEach earlier s).2).2) := rfl

/-- Calls where defaults are remembered, nothing being remembered at first: the answers to them, and
the state after them, in which the host has kept what it said itself. -/
def askAll (host : Host σ) (capacity : Int) (s : σ) (ids : List String) :
    List DefaultsCall × Remembering (σ × List DefaultsCall) :=
  (host.heard.remembering capacity).callEach ids { host := (s, []) }

theorem askAll_cons (host : Host σ) (capacity : Int) (s : σ) (id : String) (ids : List String) :
    (host.askAll capacity s (id :: ids)).2 =
      ((host.heard.remembering capacity).defaults id (host.askAll capacity s ids).2).2 := rfl

end Host

namespace Recent

theorem find?_eq_none_iff {recent : Recent} {id : String} :
    recent.find? id = none ↔ id ∉ recent.map Prod.fst := by
  induction recent with
  | nil => simp [find?]
  | cons entry rest ih =>
    obtain ⟨k, answer⟩ := entry
    by_cases hk : k = id
    · simp [find?, hk]
    · simp [find?, hk, ih, Ne.symm hk]

theorem keys_remember (recent : Recent) (n : Nat) (id : String) (answer : Mapping Json) :
    (recent.remember n id answer).map Prod.fst =
      (id :: (recent.map Prod.fst).filter fun other => !other == id).take n := by
  rw [remember, List.map_take, List.map_cons, without, List.filter_map]
  rfl

end Recent

namespace Host

open DefaultsCall

/-- All that a call for the defaults of an id can do, where there is room for `n` answers: the
answer is known, the host fails, or the host gives one. -/
inductive CallOutcome (host : Host σ) (n : Nat) (id : String)
    (now : Remembering (σ × List DefaultsCall)) (answer : Except Failure (Mapping Json))
    (next : Remembering (σ × List DefaultsCall)) : Prop
  | known (known : Mapping Json) (hfound : now.recent.find? id = some known)
      (hanswer : answer = .ok known)
      (hnext : next = { host := now.host, recent := now.recent.remember n id known })
  | failed (e : Failure) (hunknown : now.recent.find? id = none)
      (hsaid : (host.defaults id now.host.1).1 = .error e) (hanswer : answer = .error e)
      (hnext : next = { host := ((host.defaults id now.host.1).2, (id, .error e) :: now.host.2)
                        recent := now.recent })
  | given (known : Mapping Json) (hunknown : now.recent.find? id = none)
      (hsaid : (host.defaults id now.host.1).1 = .ok known) (hanswer : answer = .ok known)
      (hnext : next = { host := ((host.defaults id now.host.1).2, (id, .ok known) :: now.host.2)
                        recent := now.recent.remember n id known })

theorem call_outcome (host : Host σ) {capacity : Int} (hroom : 0 < capacity) (id : String)
    (now : Remembering (σ × List DefaultsCall)) :
    let memory := host.heard.remembering capacity
    CallOutcome host capacity.toNat id now (memory.defaults id now).1 (memory.defaults id now).2 := by
  intro memory
  have hsome : ¬ capacity ≤ 0 := by omega
  have hheard : host.heard.defaults id now.host =
      ((host.defaults id now.host.1).1, (host.defaults id now.host.1).2,
        (id, (host.defaults id now.host.1).1) :: now.host.2) := rfl
  cases hfound : now.recent.find? id with
  | some known =>
    have hcall : memory.defaults id now = _ := remembering_defaults_of_known hfound
    exact .known known hfound (by rw [hcall]) (by rw [hcall])
  | none =>
    have hcall : memory.defaults id now = _ := remembering_defaults_of_unknown hfound
    rw [hheard] at hcall
    cases hsaid : (host.defaults id now.host.1).1 with
    | error e =>
      simp only [hsaid] at hcall
      exact .failed e hfound hsaid (by rw [hcall]) (by rw [hcall])
    | ok known =>
      simp only [hsaid, hsome, if_false] at hcall
      exact .given known hfound hsaid (by rw [hcall]) (by rw [hcall])

/-- The answers of the most recently used ids are remembered, and each of them is what the host gave
for the id when it was last asked for it and did not fail. -/
structure IsExact (n : Nat) (calls : List DefaultsCall) (now : Remembering (σ × List DefaultsCall)) :
    Prop where
  ids : now.recent.map Prod.fst = (used calls).take n
  given : ∀ id known, now.recent.find? id = some known →
    (given now.host.2).lookup id = some known

section Calls

variable {host : Host σ} {n : Nat} {id : String} {calls : List DefaultsCall}
  {now next : Remembering (σ × List DefaultsCall)} {answer : Except Failure (Mapping Json)}

theorem IsExact.find?_eq_none_iff (hexact : IsExact n calls now) :
    now.recent.find? id = none ↔ id ∉ (used calls).take n := by
  rw [Recent.find?_eq_none_iff, hexact.ids]

/-- An id that is used now is remembered before all others. -/
theorem IsExact.keys_remember (hexact : IsExact (n + 1) calls now) (known : Mapping Json) :
    (now.recent.remember (n + 1) id known).map Prod.fst =
      (used ((id, .ok known) :: calls)).take (n + 1) := by
  rw [Recent.keys_remember, hexact.ids, used_cons_ok, List.take_succ_cons, List.take_succ_cons,
    take_filter_take (nodup_used calls)]

/-- Every call leaves the remembered answers as they should be. -/
theorem IsExact.call (hroom : 0 < n) (hexact : IsExact n calls now)
    (houtcome : CallOutcome host n id now answer next) :
    IsExact n ((id, answer) :: calls) next := by
  obtain ⟨n, rfl⟩ : ∃ k, n = k + 1 := ⟨n - 1, by omega⟩
  cases houtcome with
  | known known hfound hanswer hnext =>
    rw [hanswer, hnext]
    refine ⟨hexact.keys_remember known, fun other found hother => ?_⟩
    rcases Recent.find?_remember hother with ⟨rfl, rfl⟩ | hbefore
    · exact hexact.given other found hfound
    · exact hexact.given other found hbefore
  | failed e _ _ hanswer hnext =>
    rw [hanswer, hnext]
    exact ⟨hexact.ids, hexact.given⟩
  | given known hunknown _ hanswer hnext =>
    rw [hanswer, hnext]
    refine ⟨hexact.keys_remember known, fun other found hother => ?_⟩
    rw [given_cons_ok]
    rcases Recent.find?_remember hother with ⟨rfl, rfl⟩ | hbefore
    · exact List.lookup_cons_self
    · -- The id was asked for because it was not known, so this is another one.
      have hne : other ≠ id := by
        rintro rfl
        rw [hunknown] at hbefore
        cases hbefore
      rw [List.lookup_cons, beq_false_of_ne hne]
      exact hexact.given other found hbefore

/-- After any calls, the remembered answers are as they should be. -/
theorem isExact_askAll (host : Host σ) {capacity : Int} (hroom : 0 < capacity) (s : σ)
    (ids : List String) :
    IsExact capacity.toNat (host.askAll capacity s ids).1 (host.askAll capacity s ids).2 := by
  induction ids with
  | nil => exact ⟨List.take_nil.symm, fun _ _ hfound => by cases hfound⟩
  | cons id ids ih => exact ih.call (by omega) (host.call_outcome hroom id _)

/-- What is true of a call for the defaults of an id after other calls. -/
structure CallIsExact (host : Host σ) (n : Nat) (calls : List DefaultsCall)
    (now : Remembering (σ × List DefaultsCall)) (id : String)
    (answer : Except Failure (Mapping Json)) (next : Remembering (σ × List DefaultsCall)) : Prop where
  /-- The host is not asked for an id that is among the most recently used, and there is an
  answer. -/
  known : id ∈ (used calls).take n → next.host = now.host ∧ ∃ known, answer = .ok known
  /-- The host is asked for any other id, and what it says is passed on. -/
  asked : id ∉ (used calls).take n → answer = (host.defaults id now.host.1).1 ∧
    next.host = ((host.defaults id now.host.1).2, (id, answer) :: now.host.2)
  /-- An answer is what the host gave when it was last asked for the id and did not fail. -/
  given : ∀ known, answer = .ok known → (DefaultsCall.given next.host.2).lookup id = some known
  /-- A failure leaves nothing behind. -/
  unchanged : ∀ e, answer = .error e → next.recent = now.recent

theorem IsExact.callIsExact (hexact : IsExact n calls now)
    (houtcome : CallOutcome host n id now answer next) :
    CallIsExact host n calls now id answer next := by
  cases houtcome with
  | known known hfound hanswer hnext =>
    have hmem : id ∈ (used calls).take n := by
      refine Decidable.not_not.mp fun hnone => ?_
      rw [hexact.find?_eq_none_iff.mpr hnone] at hfound
      cases hfound
    rw [hanswer, hnext]
    refine ⟨fun _ => ⟨rfl, known, rfl⟩, fun hnone => absurd hmem hnone, ?_, by simp⟩
    rintro _ ⟨⟩
    exact hexact.given id known hfound
  | failed e hunknown hsaid hanswer hnext =>
    have hnone := hexact.find?_eq_none_iff.mp hunknown
    rw [hanswer, hnext]
    exact ⟨fun hmem => absurd hmem hnone, fun _ => ⟨hsaid.symm, rfl⟩, by simp, fun _ _ => rfl⟩
  | given known hunknown hsaid hanswer hnext =>
    have hnone := hexact.find?_eq_none_iff.mp hunknown
    rw [hanswer, hnext]
    refine ⟨fun hmem => absurd hmem hnone, fun _ => ⟨hsaid.symm, rfl⟩, ?_, by simp⟩
    rintro _ ⟨⟩
    exact List.lookup_cons_self

/-- The remembered answers and the state of the host, without what the host has kept of its own. -/
def unheard (now : Remembering (σ × List DefaultsCall)) : Remembering σ :=
  { host := now.host.1, recent := now.recent }

/-- That a host keeps what it says changes none of it. -/
theorem simulates_heard (host : Host σ) : host.heard.Simulates (fun s t => s.1 = t) host :=
  simulates_of_beside (fun _ _ => ⟨rfl, rfl⟩) fun _ _ => ⟨rfl, rfl⟩

/-- Calls are answered alike by hosts of which one simulates the other. -/
theorem Simulates.callEach {R : σ → τ → Prop} {host : Host σ} {other : Host τ}
    (hsimulates : host.Simulates R other) {s : σ} {t : τ} (hstates : R s t) (ids : List String) :
    (host.callEach ids s).1 = (other.callEach ids t).1 ∧
      R (host.callEach ids s).2 (other.callEach ids t).2 := by
  induction ids with
  | nil => exact ⟨rfl, hstates⟩
  | cons id ids ih =>
    obtain ⟨hcalls, hafter⟩ := ih
    obtain ⟨hanswer, hnext⟩ := hsimulates.defaults id _ _ hafter
    rw [callEach_cons, callEach_cons, hcalls, hanswer]
    exact ⟨rfl, hnext⟩

theorem callEach_unheard (host : Host σ) (capacity : Int) (s : σ) (ids : List String) :
    (host.remembering capacity).callEach ids { host := s } =
      ((host.askAll capacity s ids).1, unheard (host.askAll capacity s ids).2) := by
  have hsimulates := host.simulates_heard.remembering capacity
  obtain ⟨hcalls, hhost, hrecent⟩ :=
    hsimulates.callEach (s := { host := (s, []) }) (t := { host := s }) ⟨rfl, rfl⟩ ids
  rw [askAll, hcalls, unheard, hhost, hrecent]
  rfl

/-- Where the answers of the host are settled, every call is answered by the host's answer. -/
theorem callEach_of_follows {host : Host τ} {Good : τ → Prop} {answers : Answers}
    (hfollows : host.Follows Good answers) {s : τ} (hgood : Good s) (ids : List String) :
    (host.callEach ids s).1 = ids.map (fun id => (id, answers.defaults id)) ∧
      Good (host.callEach ids s).2 := by
  induction ids with
  | nil => exact ⟨rfl, hgood⟩
  | cons id ids ih =>
    obtain ⟨hcalls, hafter⟩ := ih
    obtain ⟨hanswer, hnext⟩ := hfollows.defaults id _ hafter
    rw [callEach_cons]
    exact ⟨by rw [List.map_cons, ← hcalls, ← hanswer], hnext⟩

theorem DependsOnId.heard (hanswers : host.DependsOnId) : host.heard.DependsOnId :=
  fun id s t => hanswers id s.1 t.1

theorem calls_askAll (hanswers : host.DependsOnId) {capacity : Int} (hroom : 0 < capacity) (s : σ)
    (ids : List String) :
    (host.askAll capacity s ids).1 = ids.map fun id => (id, (host.defaults id s).1) := by
  have hfollows := (hanswers.heard.follows (s, [])).remembering capacity
  rw [Answers.remembered_of_pos hroom] at hfollows
  exact (callEach_of_follows hfollows ⟨trivial, fun _ _ hfound => by cases hfound⟩ ids).1

/-- With more room, the host is asked some of the questions that it is asked with less. -/
theorem said_sublist (hanswers : host.DependsOnId) {capacity larger : Int} (hroom : 0 < capacity)
    (hle : capacity ≤ larger) (s : σ) (ids : List String) :
    ((host.askAll larger s ids).2.host.2).Sublist (host.askAll capacity s ids).2.host.2 := by
  have hmore : 0 < larger := by omega
  induction ids with
  | nil => exact List.nil_sublist _
  | cons id ids ih =>
    have hcalls : (host.askAll larger s ids).1 = (host.askAll capacity s ids).1 := by
      rw [calls_askAll hanswers hmore, calls_askAll hanswers hroom]
    have hless := (host.isExact_askAll hroom s ids).callIsExact (host.call_outcome hroom id _)
    have hlarger := (host.isExact_askAll hmore s ids).callIsExact (host.call_outcome hmore id _)
    rw [hcalls] at hlarger
    rw [askAll_cons, askAll_cons]
    by_cases hknown : id ∈ (used (host.askAll capacity s ids).1).take capacity.toNat
    · -- What is among the first few is among the first ones of a greater number.
      have hsubset := List.take_subset_take_left (used (host.askAll capacity s ids).1)
        (Int.toNat_le_toNat hle)
      rw [(hless.known hknown).1, (hlarger.known (hsubset hknown)).1]
      exact ih
    · rw [(hless.asked hknown).2]
      by_cases hknown' : id ∈ (used (host.askAll capacity s ids).1).take larger.toNat
      · rw [(hlarger.known hknown').1]
        exact ih.cons _
      · have hsame := (hanswers id (host.askAll larger s ids).2.host.1
          (host.askAll capacity s ids).2.host.1).2
        rw [(hlarger.asked hknown').2, (hlarger.asked hknown').1, (hless.asked hknown).1, hsame]
        exact ih.cons_cons _

/-- After any calls, the answers of the most recently used ids are remembered, as many as there is
room for, and the next call is what it should be, whatever the host does.  If the answers of the
host depend on the ids only, every call is answered by the host's answer, and with more room the
host is asked some of the same questions. -/
theorem askAll_exact (host : Host σ) {capacity : Int} (hroom : 0 < capacity) (s : σ)
    (ids : List String) :
    let calls := (host.askAll capacity s ids).1
    let now := (host.askAll capacity s ids).2
    let memory := host.heard.remembering capacity
    (host.remembering capacity).callEach ids { host := s } = (calls, unheard now) ∧
      now.recent.map Prod.fst = (used calls).take capacity.toNat ∧
      now.recent.length = min capacity.toNat (used calls).length ∧
      (∀ id, CallIsExact host capacity.toNat calls now id
        (memory.defaults id now).1 (memory.defaults id now).2) ∧
      (host.DependsOnId → calls = ids.map (fun id => (id, (host.defaults id s).1)) ∧
        ∀ larger, capacity ≤ larger →
          ((host.askAll larger s ids).2.host.2).Sublist now.host.2) := by
  intro calls now memory
  have hexact : IsExact capacity.toNat calls now := host.isExact_askAll hroom s ids
  refine ⟨host.callEach_unheard capacity s ids, hexact.ids, ?_, fun id => ?_, fun hanswers => ⟨?_, ?_⟩⟩
  · rw [← List.length_map (f := Prod.fst), hexact.ids, List.length_take]
  · exact hexact.callIsExact (host.call_outcome hroom id now)
  · exact calls_askAll hanswers hroom s ids
  · exact fun larger hle => said_sublist hanswers hroom hle s ids

end Calls

/-- A host that counts the questions for defaults and fails at the third. -/
def countingHost : Host Nat where
  mainComponent id := fun asked => (.error (.lookup id "Main component unavailable"), asked)
  defaults id := fun asked =>
    (if asked = 2 then .error (.lookup id "Defaults unavailable")
      else .ok (.ofList [("asked", .int asked)]), asked + 1)

/-- With room for two answers: the second call for `a` is answered from memory, the failure of the
first call for `c` leaves `a` and `b` remembered, and its success forgets `b`, which is asked for
again. -/
theorem askAll_exact_countingHost :
    let called := countingHost.askAll 2 0 ["b", "c", "c", "a", "b", "a"]
    let next := (countingHost.heard.remembering 2).defaults "a" called.2
    (0 : Int) < 2 ∧
      (called.1.map fun call => call.2.toOption.isSome) = [true, true, false, true, true, true] ∧
      called.2.host.2.map Prod.fst = ["b", "c", "c", "b", "a"] ∧
      used called.1 = ["b", "c", "a"] ∧
      called.2.recent.map Prod.fst = (used called.1).take 2 ∧
      CallIsExact countingHost 2 called.1 called.2 "a" next.1 next.2 := by
  have hroom : (0 : Int) < 2 := by decide
  obtain ⟨-, hremembered, -, hcall, -⟩ :=
    askAll_exact countingHost hroom 0 ["b", "c", "c", "a", "b", "a"]
  exact ⟨hroom, by decide +kernel, by decide +kernel, by decide +kernel, hremembered, hcall "a"⟩

end Host

end LayerMarkup
