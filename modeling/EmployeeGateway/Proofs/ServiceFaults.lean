import EmployeeGateway.Service

/-!
# The faults the service lets through

Over an upstream whose calls may return anything or fail with anything (any
state machine in `StateM σ`), every operation of the service ends with a fault
of four kinds only (`Escapes`):

* the exhaustion fault of one of its retry runs, a service fault caused by a
  retried failure, whose message is the rate-limit text or
  `Failed to <activity> after <n> attempts` for one of its activities;
* a not-found fault with one of its own messages, built from its argument;
* a fault of the upstream that is not retried, unchanged;
* the fault of a backoff.

In particular no upstream fault and no rate-limit refusal ever leaves the
service (`Escapes.not_upstream`), and no text of an upstream fault or of an
envelope's status reaches a service fault. The main statement is
`Service.faults_escape`.

`Always x Q` says that every result `x` gives, from any state, satisfies `Q`;
it is pushed through the operations one combinator at a time, and through a
retry run by induction on its attempts (`attempts_faults`).
-/

namespace EmployeeGateway

variable {σ : Type}

/-! ## Results of stateful actions -/

/-- Every result `x` gives, from any state, satisfies `Q`. -/
def Always {α : Type} (x : StateM σ α) (Q : α → Prop) : Prop := ∀ s, Q (x.run s).1

/-- A result that is either a value or a fault `P` allows. -/
def FaultIn {α : Type} (P : Fault → Prop) : Except Fault α → Prop
  | .ok _ => True
  | .error f => P f

@[simp] theorem faultIn_ok {α : Type} (P : Fault → Prop) (a : α) : FaultIn P (.ok a) := trivial

@[simp] theorem faultIn_error {α : Type} (P : Fault → Prop) (f : Fault) :
    FaultIn P (.error f : Except Fault α) ↔ P f := Iff.rfl

theorem always_pure {α : Type} {a : α} {Q : α → Prop} (h : Q a) : Always (pure a : StateM σ α) Q :=
  fun _ => h

theorem always_bind {α β : Type} {x : StateM σ α} {f : α → StateM σ β} {Q : β → Prop}
    (h : Always x fun a => Always (f a) Q) : Always (x >>= f) Q :=
  fun s => h s (x.run s).2

theorem always_map {α β : Type} {x : StateM σ α} {f : α → β} {Q : β → Prop}
    (h : Always x fun a => Q (f a)) : Always (f <$> x) Q :=
  fun s => h s

theorem Always.imp {α : Type} {x : StateM σ α} {R Q : α → Prop} (hx : Always x R)
    (hq : ∀ a, R a → Q a) : Always x Q :=
  fun s => hq _ (hx s)

/-- A continuation that hands a fault on unchanged, after an action that
fails only as `P` allows, fails only as `P` allows if it does so from every
value. -/
theorem always_bind_ok {α β : Type} {P : Fault → Prop} {x : StateM σ (Except Fault α)}
    {g : Except Fault α → StateM σ (Except Fault β)} (hx : Always x (FaultIn P))
    (herr : ∀ f, g (.error f) = pure (.error f)) (hok : ∀ a, Always (g (.ok a)) (FaultIn P)) :
    Always (x >>= g) (FaultIn P) := by
  refine always_bind (hx.imp fun r hr => ?_)
  cases r with
  | error f => rw [herr]; exact always_pure hr
  | ok a => exact hok a

theorem FaultIn.imp {α : Type} {P P' : Fault → Prop} {r : Except Fault α} (h : FaultIn P r)
    (hp : ∀ f, P f → P' f) : FaultIn P' r := by
  cases r with
  | ok a => trivial
  | error f => exact hp f h

/-! ## Faults of a backoff -/

/-- Is the fault an upstream fault? A rate-limit refusal is one. -/
def Fault.isUpstream : Fault → Bool
  | .upstream .. => true
  | .rateLimited _ => true
  | _ => false

/-- A backoff fails only with the fault of a power: an overflow or a division
by zero. -/
theorem Policy.backoff_fault {p : Policy} {j : Int} {f : Fault} (h : p.backoff j = .error f) :
    ∃ e : PowerFault, f = e.toFault := by
  unfold Policy.backoff at h
  split at h
  · next e _ => exact ⟨e, by cases h; rfl⟩
  · cases h

theorem Policy.backoff_fault_not_upstream {p : Policy} {j : Int} {f : Fault}
    (h : p.backoff j = .error f) : f.isUpstream = false := by
  obtain ⟨e, rfl⟩ := Policy.backoff_fault h
  cases e <;> rfl

theorem Policy.backoff_fault_ne_service {p : Policy} {j : Int} {f : Fault}
    (h : p.backoff j = .error f) (m : String) (c : Option Fault) : f ≠ .service m c := by
  obtain ⟨e, rfl⟩ := Policy.backoff_fault h
  cases e <;> simp [PowerFault.toFault]

/-! ## A retry run -/

namespace Retry

/-- The faults a run can end with when its action fails only as `P` allows:
the exhaustion fault after a retried failure, a failure that is not retried,
or the fault of a backoff. -/
def RunFault (p : Policy) (activity : String) (P : Fault → Prop) (f : Fault) : Prop :=
  (∃ g, P g ∧ g.isRetryable = true ∧ f = exhausted p activity g) ∨
    (P f ∧ f.isRetryable = false) ∨ ∃ j, p.backoff j = .error f

variable {α : Type} (sleep : Binary64 → StateM σ Unit) (p : Policy) (activity : String)
  (action : StateM σ (Except Fault α)) (P : Fault → Prop)

/-- A run whose action fails only as `P` allows ends only with a `RunFault`. -/
theorem attempts_faults (h : Always action (FaultIn P)) (left : Nat) :
    ∀ attempt, Always (attempts sleep p activity action (left + 1) attempt)
      (FaultIn (RunFault p activity P)) := by
  induction left with
  | zero =>
    intro attempt
    rw [attempts]
    refine always_bind (h.imp fun r hr => ?_)
    cases r with
    | ok a => exact always_pure trivial
    | error f =>
      by_cases hf : f.isRetryable = true
      · simp only [hf, Bool.not_true, Bool.false_eq_true, if_false, if_true]
        exact always_pure (Or.inl ⟨f, hr, hf, rfl⟩)
      · simp only [Bool.not_eq_true] at hf
        simp only [hf, Bool.not_false, if_true]
        exact always_pure (Or.inr (Or.inl ⟨hr, hf⟩))
  | succ left ih =>
    intro attempt
    rw [attempts]
    refine always_bind (h.imp fun r hr => ?_)
    cases r with
    | ok a => exact always_pure trivial
    | error f =>
      by_cases hf : f.isRetryable = true
      · simp only [hf, Bool.not_true, Bool.false_eq_true, if_false, Nat.add_one_ne_zero]
        cases hb : p.backoff attempt with
        | error g => exact always_pure (Or.inr (Or.inr ⟨attempt, hb⟩))
        | ok d => exact always_bind fun _ => ih (attempt + 1)
      · simp only [Bool.not_eq_true] at hf
        simp only [hf, Bool.not_false, if_true]
        exact always_pure (Or.inr (Or.inl ⟨hr, hf⟩))

theorem run_faults (h : Always action (FaultIn P)) :
    Always (run sleep p activity action) (FaultIn (RunFault p activity P)) := by
  obtain ⟨n, hn⟩ : ∃ n, p.maxAttempts = n + 1 := ⟨p.maxAttempts - 1, by have := p.attempts_pos; omega⟩
  rw [run, hn]
  exact attempts_faults sleep p activity action P h n 1

end Retry

/-! ## What the service lets through -/

/-- Does some call of the upstream, from some state, fail with `f`? -/
def Upstream.Raises (u : Upstream (StateM σ)) (f : Fault) : Prop :=
  (∃ s, (u.listAll.run s).1 = .error f) ∨ (∃ r s, ((u.create r).run s).1 = .error f) ∨
    ∃ n s, ((u.deleteByName n).run s).1 = .error f

namespace Service

variable (sv : Service (StateM σ))

/-- The faults an operation of the service may end with, given the activities
it retries and its own not-found messages. -/
structure Escapes (activities notFound : List String) (f : Fault) : Prop where
  /-- No upstream fault, rate-limit refusals included. -/
  not_upstream : f.isUpstream = false
  /-- A service fault is the exhaustion of a run, caused by a retried failure. -/
  exhausted : ∀ m c, f = .service m c → ∃ g, c = some g ∧ g.isRetryable = true ∧
    (m = "Rate limit exceeded. Please try again later." ∨
      ∃ a ∈ activities, m = "Failed to " ++ a ++ " after " ++ toString sv.policy.maxAttempts ++ " attempts")
  /-- Any other fault is one of the operation's not-found faults, a fault of the
  upstream that is not retried, or the fault of a backoff. -/
  other : (∀ m c, f ≠ .service m c) →
    (∃ m ∈ notFound, f = .notFound m) ∨ (f.isRetryable = false ∧ sv.upstream.Raises f) ∨
      ∃ j, sv.policy.backoff j = .error f

variable {sv}

theorem Escapes.mono {acts acts' nf nf' : List String} {f : Fault} (h : Escapes sv acts nf f)
    (hacts : ∀ a ∈ acts, a ∈ acts') (hnf : ∀ m ∈ nf, m ∈ nf') : Escapes sv acts' nf' f where
  not_upstream := h.not_upstream
  exhausted m c hf := by
    obtain ⟨g, hc, hg, hm⟩ := h.exhausted m c hf
    refine ⟨g, hc, hg, hm.imp_right ?_⟩
    rintro ⟨a, ha, rfl⟩
    exact ⟨a, hacts a ha, rfl⟩
  other hf := by
    rcases h.other hf with ⟨m, hm, rfl⟩ | hu
    · exact .inl ⟨m, hnf m hm, rfl⟩
    · exact .inr hu

theorem escapes_notFound {acts nf : List String} {m : String} (hm : m ∈ nf) :
    Escapes sv acts nf (.notFound m) where
  not_upstream := rfl
  exhausted _ _ h := by cases h
  other _ := .inl ⟨m, hm, rfl⟩

/-- A fault of a retry run whose action fails only with the upstream's faults
or with retried ones is one the operation may let through. -/
theorem escapes_of_runFault {acts nf : List String} {a : String} (ha : a ∈ acts) {f : Fault}
    (h : Retry.RunFault sv.policy a (fun g => sv.upstream.Raises g ∨ g.isRetryable = true) f) :
    Escapes sv acts nf f := by
  rcases h with ⟨g, -, hg, rfl⟩ | ⟨hp, hf⟩ | ⟨j, hj⟩
  · -- the run's attempts are spent
    have hex : ∃ m, Retry.exhausted sv.policy a g = .service m (some g) ∧
        (m = "Rate limit exceeded. Please try again later." ∨
          m = "Failed to " ++ a ++ " after " ++ toString sv.policy.maxAttempts ++ " attempts") := by
      unfold Retry.exhausted
      split
      · exact ⟨_, rfl, .inl rfl⟩
      · exact ⟨_, rfl, .inr rfl⟩
    obtain ⟨m, he, hm⟩ := hex
    rw [he]
    refine ⟨rfl, fun m' c hf => ?_, fun hne => absurd rfl (hne m (some g))⟩
    cases hf
    exact ⟨g, rfl, hg, hm.imp_right fun h => ⟨a, ha, h⟩⟩
  · -- a failure of the action that is not retried: the upstream's own
    have hr : sv.upstream.Raises f := hp.resolve_right (by simp [hf])
    refine ⟨?_, fun m c h => ?_, fun _ => .inr (.inl ⟨hf, hr⟩)⟩
    · cases f <;> simp_all [Fault.isRetryable, Fault.isUpstream]
    · subst h
      simp [Fault.isRetryable] at hf
  · exact ⟨Policy.backoff_fault_not_upstream hj,
      fun m c h => absurd h (Policy.backoff_fault_ne_service hj m c),
      fun _ => .inr (.inr ⟨j, hj⟩)⟩

/-- A run over an action that fails only with the upstream's faults or with
retried ones lets through only what an operation of the activity may. -/
theorem run_escapes {α : Type} {acts nf : List String} {a : String} (ha : a ∈ acts)
    {action : StateM σ (Except Fault α)}
    (h : Always action (FaultIn fun g => sv.upstream.Raises g ∨ g.isRetryable = true)) :
    Always (Retry.run sv.sleep sv.policy a action) (FaultIn (Escapes sv acts nf)) :=
  (Retry.run_faults sv.sleep sv.policy a action _ h).imp fun _ hr =>
    hr.imp fun _ hf => escapes_of_runFault ha hf

/-- An upstream call whose answer is then checked fails only with the
upstream's faults or with the retried faults of the check. -/
theorem checked_call_faults {β γ : Type} (call : StateM σ (Except Fault β))
    (check : Except Fault β → Except Fault γ)
    (hcall : ∀ s f, (call.run s).1 = .error f → sv.upstream.Raises f)
    (hcheck : ∀ r f, check r = .error f → r = .error f ∨ f.isRetryable = true) :
    Always (check <$> call) (FaultIn fun g => sv.upstream.Raises g ∨ g.isRetryable = true) := by
  refine always_map fun s => ?_
  show FaultIn _ (check (call.run s).1)
  cases hc : check (call.run s).1 with
  | ok _ => trivial
  | error f =>
    rcases hcheck _ f hc with hr | hr
    · exact .inl (hcall s f hr)
    · exact .inr hr

theorem listingData_error {r : Except Fault (Envelope (List Employee))} {f : Fault}
    (h : listingData r = .error f) : r = .error f ∨ f.isRetryable = true := by
  unfold listingData at h
  split at h
  · exact .inl (by cases h; rfl)
  · split at h
    · cases h
    · cases h
      exact .inr rfl

theorem createdData_error {r : Except Fault (Envelope Employee)} {f : Fault}
    (h : createdData r = .error f) : r = .error f ∨ f.isRetryable = true := by
  unfold createdData at h
  split at h
  · exact .inl (by cases h; rfl)
  · split at h
    · cases h
    · cases h
      exact .inr rfl

theorem deleteConfirmed_error {r : Except Fault (Envelope Value)} {f : Fault}
    (h : deleteConfirmed r = .error f) : r = .error f ∨ f.isRetryable = true := by
  unfold deleteConfirmed at h
  split at h
  · exact .inl (by cases h; rfl)
  · split at h
    · cases h
    · cases h
      exact .inr rfl

/-! ## The operations -/

theorem allEmployees_escapes {nf : List String} :
    Always sv.allEmployees (FaultIn (Escapes sv ["fetch employees"] nf)) :=
  run_escapes (List.mem_singleton_self _)
    (checked_call_faults sv.upstream.listAll listingData (fun s _ h => .inl ⟨s, h⟩)
      fun _ _ => listingData_error)

theorem searchByName_escapes (query : String) :
    Always (sv.searchByName query)
      (FaultIn (Escapes sv ["fetch employees"] ["No employees found with name containing: " ++ query])) := by
  unfold searchByName
  refine always_bind_ok allEmployees_escapes (fun _ => rfl) fun es => ?_
  dsimp only
  split
  · exact always_pure (escapes_notFound (List.mem_singleton_self _))
  · exact always_pure trivial

theorem findEmployee_escapes (test : Employee → Bool) (shown : String) :
    Always (sv.findEmployee test shown)
      (FaultIn (Escapes sv ["fetch employees"] ["No employee found with id: " ++ shown])) := by
  unfold findEmployee
  refine always_bind_ok allEmployees_escapes (fun _ => rfl) fun es => ?_
  dsimp only
  split
  · exact always_pure trivial
  · exact always_pure (escapes_notFound (List.mem_singleton_self _))

theorem highestSalary_escapes :
    Always sv.highestSalary
      (FaultIn (Escapes sv ["fetch employees"] ["No employees found to determine highest salary"])) := by
  unfold highestSalary
  refine always_bind_ok allEmployees_escapes (fun _ => rfl) fun es => ?_
  dsimp only
  split
  · exact always_pure trivial
  · exact always_pure (escapes_notFound (List.mem_singleton_self _))

theorem topTenNames_escapes : Always sv.topTenNames (FaultIn (Escapes sv ["fetch employees"] [])) := by
  unfold topTenNames
  refine always_bind_ok allEmployees_escapes (fun _ => rfl) fun es => ?_
  exact always_pure trivial

theorem createEmployee_escapes (request : NewEmployee) :
    Always (sv.createEmployee request) (FaultIn (Escapes sv ["create employee"] [])) :=
  run_escapes (List.mem_singleton_self _)
    (checked_call_faults (sv.upstream.create request) createdData
      (fun s _ h => .inr (.inl ⟨request, s, h⟩)) fun _ _ => createdData_error)

theorem removeById_escapes (id : String) :
    Always (sv.removeById id)
      (FaultIn (Escapes sv ["fetch employees", "delete employee " ++ id] ["No employee found with id: " ++ id])) := by
  unfold removeById
  -- the lookup's faults are among the operation's, whose activities add the delete
  have hfind : Always (sv.employeeById id) (FaultIn (Escapes sv ["fetch employees", "delete employee " ++ id]
      ["No employee found with id: " ++ id])) :=
    (findEmployee_escapes _ id).imp fun _ hr => hr.imp fun _ h => h.mono (by simp) fun _ h => h
  refine always_bind_ok hfind (fun _ => rfl) fun e => ?_
  dsimp only
  -- the delete runs under its own activity, after the employee is found
  have hdel : Always (Retry.run sv.sleep sv.policy ("delete employee " ++ id)
      (deleteConfirmed <$> sv.upstream.deleteByName e.name))
      (FaultIn (Escapes sv ["fetch employees", "delete employee " ++ id]
        ["No employee found with id: " ++ id])) :=
    run_escapes (by simp) (checked_call_faults (sv.upstream.deleteByName e.name) deleteConfirmed
      (fun s _ h => .inr (.inr ⟨e.name, s, h⟩)) fun _ _ => deleteConfirmed_error)
  refine always_bind_ok hdel (fun _ => rfl) fun u => ?_
  exact always_pure trivial

/-- **What the service lets through.** Over any upstream and policy, each
operation, when it fails, ends with the exhaustion fault of one of its own
retry runs (rate-limit text or `Failed to <activity> after <n> attempts`), one
of its own not-found faults, an upstream fault that is not retried, or the
fault of a backoff, and never with an upstream fault or a rate-limit refusal. -/
theorem faults_escape (query id : String) (request : NewEmployee) :
    Always sv.allEmployees (FaultIn (Escapes sv ["fetch employees"] [])) ∧
    Always (sv.searchByName query)
      (FaultIn (Escapes sv ["fetch employees"] ["No employees found with name containing: " ++ query])) ∧
    Always (sv.employeeById id)
      (FaultIn (Escapes sv ["fetch employees"] ["No employee found with id: " ++ id])) ∧
    Always sv.highestSalary
      (FaultIn (Escapes sv ["fetch employees"] ["No employees found to determine highest salary"])) ∧
    Always sv.topTenNames (FaultIn (Escapes sv ["fetch employees"] [])) ∧
    Always (sv.createEmployee request) (FaultIn (Escapes sv ["create employee"] [])) ∧
    Always (sv.removeById id)
      (FaultIn (Escapes sv ["fetch employees", "delete employee " ++ id] ["No employee found with id: " ++ id])) :=
  ⟨allEmployees_escapes, searchByName_escapes query, findEmployee_escapes _ id, highestSalary_escapes,
    topTenNames_escapes, createEmployee_escapes request, removeById_escapes id⟩

end Service

end EmployeeGateway
