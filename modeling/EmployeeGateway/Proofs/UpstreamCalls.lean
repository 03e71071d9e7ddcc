import EmployeeGateway.Service
import EmployeeGateway.Proofs.RetryRun

/-!
# The calls an operation makes to the upstream

To see which calls an operation makes, the upstream is wrapped so that each
call is logged with the reply it got (`Upstream.logged`); the waits between
attempts log nothing. The upstream itself is any state machine.

A retry run over an action that logs one entry per call logs one entry per
attempt: at most as many as the policy allows, every one but the last the
entry of a retried failure, and the run ends as the last attempt's outcome
says (`Retry.run_logged`, with `Retry.Ends`).

The main statement is `Service.removeById_calls`: a removal first runs one
listing under the retry policy, and only that; when the listing fails, or
names nobody with the id, nothing else is called; otherwise every further
call deletes the name of the first employee with the id, one to
`maxAttempts` of them, the calls stop at the first confirmed delete, the
employee is returned exactly when a delete was confirmed, and otherwise the
removal fails as the retry run of `delete employee <id>` does.
-/

namespace EmployeeGateway

/-- A call made to the upstream, with the reply it got. -/
inductive UpstreamCall where
  | listAll (reply : Except Fault (Envelope (List Employee)))
  | create (request : NewEmployee) (reply : Except Fault (Envelope Employee))
  | deleteByName (name : String) (reply : Except Fault (Envelope Value))
  | checkConnection (reply : Except Fault Bool)

namespace UpstreamCall

/-- Is the call a listing? -/
def isListing : UpstreamCall → Bool
  | .listAll _ => true
  | _ => false

/-- Is the call a delete that the upstream confirmed? -/
def confirmsDelete : UpstreamCall → Bool
  | .deleteByName _ (.ok env) => Service.confirms env
  | _ => false

/-- A delete is confirmed exactly when the service takes its reply as
done. -/
theorem confirmsDelete_iff (name : String) (r : Except Fault (Envelope Value)) :
    (deleteByName name r).confirmsDelete = true ↔ Service.deleteConfirmed r = .ok () := by
  cases r with
  | error f => simp [confirmsDelete, Service.deleteConfirmed]
  | ok env =>
    cases h : Service.confirms env <;> simp [confirmsDelete, Service.deleteConfirmed, h]

end UpstreamCall

/-! ## A logged upstream -/

section Logged

variable {σ : Type}

/-- Actions on a state with the log of upstream calls beside it. -/
abbrev Logged (σ : Type) := StateM (σ × List UpstreamCall)

/-- An action on the state that logs nothing. -/
def Logged.lift {α : Type} (x : StateM σ α) : Logged σ α :=
  modifyGet fun q => ((x.run q.1).1, ((x.run q.1).2, q.2))

/-- An action on the state whose result is logged as a call. -/
def Logged.call {α : Type} (x : StateM σ α) (entry : α → UpstreamCall) : Logged σ α :=
  modifyGet fun q => ((x.run q.1).1, ((x.run q.1).2, q.2 ++ [entry (x.run q.1).1]))

/-- The upstream with every call logged. -/
def Upstream.logged (u : Upstream (StateM σ)) : Upstream (Logged σ) where
  configured := Logged.lift u.configured
  listAll := Logged.call u.listAll .listAll
  create request := Logged.call (u.create request) (.create request)
  deleteByName name := Logged.call (u.deleteByName name) (.deleteByName name)
  checkConnection := Logged.call u.checkConnection .checkConnection

/-- The service over the logged upstream; its waits log nothing. -/
def Service.logged (sv : Service (StateM σ)) : Service (Logged σ) :=
  ⟨sv.upstream.logged, sv.policy, fun d => Logged.lift (sv.sleep d)⟩

end Logged

/-! ## Runs that log one entry per attempt -/

namespace Retry

/-- How a run ends when its attempt `n`, the last it made, failed with `f`:
a retried failure on the last attempt allowed gives the exhaustion fault,
one before it ends with the fault of the backoff that stopped the run, and
a failure that is not retried ends it unchanged. -/
def Fails {α : Type} (p : Policy) (activity : String) (n : Nat) (f : Fault) (r : Except Fault α) :
    Prop :=
  if f.isRetryable then
    (n = p.maxAttempts ∧ r = .error (exhausted p activity f)) ∨
      (n < p.maxAttempts ∧ ∃ g, p.backoff n = .error g ∧ r = .error g)
  else r = .error f

/-- How a run ends when its attempt `n`, the last it made, had outcome `o`. -/
def Ends {α : Type} (p : Policy) (activity : String) (n : Nat) (o r : Except Fault α) : Prop :=
  match o with
  | .ok a => r = .ok a
  | .error f => Fails p activity n f r

section Fails

variable {α : Type} {p : Policy} {activity : String} {n : Nat} {f : Fault}

theorem Fails.exhausted (hf : f.isRetryable = true) (hn : n = p.maxAttempts) :
    Fails p activity n f (.error (exhausted p activity f) : Except Fault α) := by
  rw [Fails, if_pos hf]
  exact .inl ⟨hn, rfl⟩

theorem Fails.backoff {g : Fault} (hf : f.isRetryable = true) (hn : n < p.maxAttempts)
    (hb : p.backoff n = .error g) : Fails p activity n f (.error g : Except Fault α) := by
  rw [Fails, if_pos hf]
  exact .inr ⟨hn, g, hb, rfl⟩

theorem Fails.not_retried (hf : ¬ f.isRetryable = true) :
    Fails p activity n f (.error f : Except Fault α) := by
  rw [Fails, if_neg hf]

end Fails

/-- A failure ends a run with a fault, whatever the type of its values. -/
theorem Fails.map {α β : Type} {p : Policy} {activity : String} {n : Nat} {f : Fault}
    {r : Except Fault α} (h : Fails p activity n f r) (g : α → β) : Fails p activity n f (r.map g) := by
  unfold Fails at *
  by_cases hf : f.isRetryable = true
  · rw [if_pos hf] at h ⊢
    rcases h with ⟨hn, rfl⟩ | ⟨hn, e, he, rfl⟩
    · exact .inl ⟨hn, rfl⟩
    · exact .inr ⟨hn, e, he, rfl⟩
  · rw [if_neg hf] at h ⊢
    subst h
    rfl

theorem Fails.ne_ok {α : Type} {p : Policy} {activity : String} {n : Nat} {f : Fault}
    {r : Except Fault α} (h : Fails p activity n f r) (a : α) : r ≠ .ok a := by
  unfold Fails at h
  split at h
  · rcases h with ⟨-, rfl⟩ | ⟨-, e, -, rfl⟩ <;> exact fun h => by cases h
  · subst h
    exact fun h => by cases h

section Log

variable {σ E α : Type} (sleep : Binary64 → StateM σ Unit) (p : Policy) (activity : String)
  (action : StateM σ (Except Fault α)) (log : σ → List E) (entry : σ → E)

/-- A run from `s` with attempts numbered from `attempt`, at most `bound` of
them, ended with `r`, having logged the entries of the states `ss ++ [t]` its
attempts started from: each attempt from `ss` failed and was retried, and the
run ended as the outcome of the attempt from `t` says. -/
def Logs (attempt bound : Nat) (s : σ) (r : Except Fault α × σ) : Prop :=
  ∃ ss t, log r.2 = log s ++ (ss ++ [t]).map entry ∧ ss.length < bound ∧
    (∀ u ∈ ss, ∃ f, (action.run u).1 = .error f ∧ f.isRetryable = true) ∧
    Ends p activity (attempt + ss.length) (action.run t).1 r.1

variable {sleep p activity action log entry}

/-- A run that stops at its first attempt logged that attempt alone. -/
theorem Logs.stop (hact : ∀ s, log (action.run s).2 = log s ++ [entry s]) {attempt bound : Nat}
    {s : σ} {r : Except Fault α} (hb : 0 < bound) (h : Ends p activity attempt (action.run s).1 r) :
    Logs p activity action log entry attempt bound s (r, (action.run s).2) :=
  ⟨[], s, by simpa using hact s, hb, by simp, h⟩

/-- A run that stops at a failed first attempt logged that attempt alone. -/
theorem Logs.fail (hact : ∀ s, log (action.run s).2 = log s ++ [entry s]) {attempt bound : Nat}
    {s : σ} {f : Fault} {r : Except Fault α} (hb : 0 < bound) (hout : (action.run s).1 = .error f)
    (h : Fails p activity attempt f r) :
    Logs p activity action log entry attempt bound s (r, (action.run s).2) :=
  Logs.stop hact hb (by rw [hout]; exact h)

/-- A retried attempt adds its entry in front of the entries of the rest of
the run. -/
theorem Logs.retry (hact : ∀ s, log (action.run s).2 = log s ++ [entry s]) {attempt bound : Nat}
    {s s' : σ} {f : Fault} {r : Except Fault α × σ} (hf : (action.run s).1 = .error f)
    (hretry : f.isRetryable = true) (hs' : log s' = log (action.run s).2)
    (h : Logs p activity action log entry (attempt + 1) bound s' r) :
    Logs p activity action log entry attempt (bound + 1) s r := by
  obtain ⟨ss, t, hlog, hlen, hfailed, hends⟩ := h
  refine ⟨s :: ss, t, ?_, by simp; omega, ?_, ?_⟩
  · rw [hlog, hs', hact, List.append_assoc]
    rfl
  · intro u hu
    rcases List.mem_cons.mp hu with rfl | hu
    · exact ⟨f, hf, hretry⟩
    · exact hfailed u hu
  · have hn : attempt + (s :: ss).length = attempt + 1 + ss.length := by
      simp only [List.length_cons]
      omega
    rw [hn]
    exact hends

variable (sleep p activity action log entry)

/-- The attempts from `attempt` on, `left + 1` of them allowed and the last
allowed being `maxAttempts`, log one entry per attempt and end as the last
attempt's outcome says. -/
theorem attempts_logged (hact : ∀ s, log (action.run s).2 = log s ++ [entry s])
    (hsleep : ∀ d s, log ((sleep d).run s).2 = log s) (left : Nat) :
    ∀ attempt s, attempt + left = p.maxAttempts →
      Logs p activity action log entry attempt (left + 1) s
        ((attempts sleep p activity action (left + 1) attempt).run s) := by
  induction left with
  | zero =>
    -- the last attempt allowed: its outcome ends the run
    intro attempt s hbudget
    rw [attempts_run]
    cases hout : (action.run s).1 with
    | ok a => exact Logs.stop hact Nat.one_pos (by rw [hout]; rfl)
    | error f =>
      dsimp only
      by_cases hf : f.isRetryable = true
      · rw [if_neg (by simp [hf]), if_pos rfl]
        exact Logs.fail hact Nat.one_pos hout (Fails.exhausted hf (by omega))
      · rw [if_pos (by simpa using hf)]
        exact Logs.fail hact Nat.one_pos hout (Fails.not_retried hf)
  | succ left ih =>
    intro attempt s hbudget
    rw [attempts_run]
    cases hout : (action.run s).1 with
    | ok a => exact Logs.stop hact (Nat.succ_pos _) (by rw [hout]; rfl)
    | error f =>
      dsimp only
      by_cases hf : f.isRetryable = true
      · simp only [hf, Bool.not_true, Bool.false_eq_true, if_false, Nat.add_one_ne_zero]
        cases hb : p.backoff attempt with
        | error g =>
          -- the backoff stops the run after this attempt
          exact Logs.fail hact (Nat.succ_pos _) hout (Fails.backoff hf (by omega) hb)
        | ok d =>
          -- the run sleeps and goes on with one attempt less
          exact Logs.retry hact hout hf (hsleep d _)
            (ih (attempt + 1) ((sleep d).run (action.run s).2).2 (by omega))
      · rw [if_pos (by simpa using hf)]
        exact Logs.fail hact (Nat.succ_pos _) hout (Fails.not_retried hf)

/-- A run logs one entry per attempt, at most `maxAttempts` of them; each but
the last is the entry of a retried failure, and the run ends as the last
attempt's outcome says. -/
theorem run_logged (hact : ∀ s, log (action.run s).2 = log s ++ [entry s])
    (hsleep : ∀ d s, log ((sleep d).run s).2 = log s) (s : σ) :
    Logs p activity action log entry 1 p.maxAttempts s ((run sleep p activity action).run s) := by
  obtain ⟨n, hn⟩ : ∃ n, p.maxAttempts = n + 1 := ⟨p.maxAttempts - 1, by have := p.attempts_pos; omega⟩
  rw [run, hn]
  exact attempts_logged sleep p activity action log entry hact hsleep n 1 s (by omega)

end Log

end Retry

/-! ## A removal -/

namespace Service

variable {σ : Type} (sv : Service (StateM σ))

/-- The listing's call, logged with its reply. -/
def listingEntry (q : σ × List UpstreamCall) : UpstreamCall :=
  .listAll (sv.upstream.listAll.run q.1).1

/-- The delete's call for `name`, logged with its reply. -/
def deleteEntry (name : String) (q : σ × List UpstreamCall) : UpstreamCall :=
  .deleteByName name ((sv.upstream.deleteByName name).run q.1).1

@[simp] theorem logged_policy : sv.logged.policy = sv.policy := rfl

/-- A logged delete attempt that failed was not confirmed. -/
theorem deleteEntry_not_confirmed {name : String} {q : σ × List UpstreamCall} {f : Fault}
    (h : ((deleteConfirmed <$> sv.logged.upstream.deleteByName name).run q).1 = .error f) :
    (sv.deleteEntry name q).confirmsDelete = false := by
  have h' : deleteConfirmed ((sv.upstream.deleteByName name).run q.1).1 = .error f := h
  cases hc : (sv.deleteEntry name q).confirmsDelete with
  | false => rfl
  | true =>
    rw [deleteEntry, UpstreamCall.confirmsDelete_iff, h'] at hc
    cases hc

/-- The listing run logs only listings. -/
theorem allEmployees_logged (q : σ × List UpstreamCall) :
    ∃ calls, (sv.logged.allEmployees.run q).2.2 = q.2 ++ calls ∧ ∀ c ∈ calls, c.isListing = true := by
  obtain ⟨ss, t, hlog, -⟩ := Retry.run_logged sv.logged.sleep sv.policy "fetch employees"
    (listingData <$> sv.logged.upstream.listAll) Prod.snd sv.listingEntry (fun _ => rfl)
    (fun _ _ => rfl) q
  refine ⟨_, hlog, fun c hc => ?_⟩
  obtain ⟨u, -, rfl⟩ := List.mem_map.mp hc
  rfl

/-- The delete run of a removal logs one to `maxAttempts` deletes of the
name; none but the last was confirmed, and the run ends as the last one's
outcome says. -/
theorem delete_logged (name activity : String) (q : σ × List UpstreamCall) :
    ∃ ss t,
      ((Retry.run sv.logged.sleep sv.policy activity
        (deleteConfirmed <$> sv.logged.upstream.deleteByName name)).run q).2.2 =
        q.2 ++ (ss ++ [t]).map (sv.deleteEntry name) ∧
      ss.length < sv.policy.maxAttempts ∧
      (∀ u ∈ ss, (sv.deleteEntry name u).confirmsDelete = false) ∧
      Retry.Ends sv.policy activity (ss.length + 1)
        (deleteConfirmed ((sv.upstream.deleteByName name).run t.1).1)
        ((Retry.run sv.logged.sleep sv.policy activity
          (deleteConfirmed <$> sv.logged.upstream.deleteByName name)).run q).1 := by
  obtain ⟨ss, t, hlog, hlen, hfailed, hends⟩ := Retry.run_logged sv.logged.sleep sv.policy activity
    (deleteConfirmed <$> sv.logged.upstream.deleteByName name) Prod.snd (sv.deleteEntry name)
    (fun _ => rfl) (fun _ _ => rfl) q
  refine ⟨ss, t, hlog, hlen, fun u hu => ?_, by rw [Nat.add_comm]; exact hends⟩
  obtain ⟨f, hf, -⟩ := hfailed u hu
  exact deleteEntry_not_confirmed sv hf

/-- After deletes of `e`'s name from the states `ss ++ [t]`, none from `ss`
confirmed, the removal returns `e` exactly when one of them confirmed: the
run ends with a value exactly when the last one did. -/
theorem returns_iff_confirmed {activity : String} {n : Nat} (e : Employee)
    {ss : List (σ × List UpstreamCall)} {t : σ × List UpstreamCall} {d : Except Fault Unit}
    (hnc : ∀ u ∈ ss, (sv.deleteEntry e.name u).confirmsDelete = false)
    (hends : Retry.Ends sv.policy activity n
      (deleteConfirmed ((sv.upstream.deleteByName e.name).run t.1).1) d) :
    d.map (fun _ => e) = .ok e ↔ ∃ c ∈ (ss ++ [t]).map (sv.deleteEntry e.name), c.confirmsDelete = true := by
  cases hout : deleteConfirmed ((sv.upstream.deleteByName e.name).run t.1).1 with
  | ok u =>
    have hd : d = .ok u := by rw [hout] at hends; exact hends
    refine ⟨fun _ => ⟨sv.deleteEntry e.name t, by simp, ?_⟩, fun _ => by rw [hd]; rfl⟩
    rw [deleteEntry, UpstreamCall.confirmsDelete_iff, hout]
  | error f =>
    have hfails : Retry.Fails sv.policy activity n f d := by
      rw [hout] at hends
      exact hends
    refine ⟨fun h => absurd h ((hfails.map _).ne_ok e), fun h => ?_⟩
    obtain ⟨c, hc, hconf⟩ := h
    obtain ⟨u, hu, rfl⟩ := List.mem_map.mp hc
    rcases List.mem_append.mp hu with hu | hu
    · rw [hnc u hu] at hconf
      cases hconf
    · rw [List.mem_singleton] at hu
      subst hu
      rw [deleteEntry, UpstreamCall.confirmsDelete_iff, hout] at hconf
      cases hconf

/-- The delete run of a removal of `e`, from any state: its calls, added to
the log, are one to `maxAttempts` deletes of `e`'s name, none but the last
confirmed; the removal returns `e` exactly when one was confirmed, and when
the last failed it ends as a run of the activity ends after that failure. -/
theorem delete_calls (e : Employee) (activity : String) (q : σ × List UpstreamCall) :
    let d := (Retry.run sv.logged.sleep sv.policy activity
      (deleteConfirmed <$> sv.logged.upstream.deleteByName e.name)).run q
    ∃ rest, d.2.2 = q.2 ++ rest ∧ rest ≠ [] ∧ rest.length ≤ sv.policy.maxAttempts ∧
      (∀ c ∈ rest, ∃ r, c = .deleteByName e.name r) ∧
      (∀ c ∈ rest.dropLast, c.confirmsDelete = false) ∧
      (d.1.map (fun _ => e) = .ok e ↔ ∃ c ∈ rest, c.confirmsDelete = true) ∧
      ∀ r f, rest.getLast? = some (.deleteByName e.name r) → deleteConfirmed r = .error f →
        Retry.Fails sv.policy activity rest.length f (d.1.map fun _ => e) := by
  intro d
  obtain ⟨ss, t, hlog, hlen, hnc, hends⟩ := sv.delete_logged e.name activity q
  refine ⟨(ss ++ [t]).map (sv.deleteEntry e.name), hlog, by simp, by simp; omega, ?_, ?_,
    sv.returns_iff_confirmed e hnc hends, ?_⟩
  · intro c hc
    obtain ⟨u, -, rfl⟩ := List.mem_map.mp hc
    exact ⟨_, rfl⟩
  · intro c hc
    rw [List.map_append, List.map_singleton, List.dropLast_concat] at hc
    obtain ⟨u, hu, rfl⟩ := List.mem_map.mp hc
    exact hnc u hu
  · -- the last call logged is the delete from `t`
    intro r f hlast hr
    rw [List.map_append, List.map_singleton, List.getLast?_concat, Option.some.injEq,
      deleteEntry, UpstreamCall.deleteByName.injEq] at hlast
    rw [hlast.2, hr] at hends
    have hlen' : ((ss ++ [t]).map (sv.deleteEntry e.name)).length = ss.length + 1 := by simp
    rw [hlen']
    exact Retry.Fails.map hends _

/-- **The calls of a removal.** Over any upstream, a removal first runs the
listing under the retry policy, and that run's calls, all listings, start
its log. If the listing fails, the removal fails the same way; if nobody
listed has the id, it is not found; in both cases nothing else is called.
Otherwise, with `e` the first listed employee with the id, the rest of the
log is one to `maxAttempts` deletes of `e`'s name; none but the last was
confirmed; the removal returns `e` exactly when one was; and when the last
delete failed, the removal ends as a run of `delete employee <id>` ends after
that failure. -/
theorem removeById_calls (id : String) (s : σ) :
    let look := sv.logged.allEmployees.run (s, [])
    let run := (sv.logged.removeById id).run (s, [])
    (∀ c ∈ look.2.2, c.isListing = true) ∧
      ∃ rest, run.2.2 = look.2.2 ++ rest ∧
        (∀ f, look.1 = .error f → run.1 = .error f ∧ rest = []) ∧
        (∀ L, look.1 = .ok L → (∀ x ∈ L, x.id ≠ id) →
          run.1 = .error (.notFound ("No employee found with id: " ++ id)) ∧ rest = []) ∧
        (∀ L e, look.1 = .ok L → L.find? (·.id == id) = some e →
          rest ≠ [] ∧ rest.length ≤ sv.policy.maxAttempts ∧
          (∀ c ∈ rest, ∃ r, c = .deleteByName e.name r) ∧
          (∀ c ∈ rest.dropLast, c.confirmsDelete = false) ∧
          (run.1 = .ok e ↔ ∃ c ∈ rest, c.confirmsDelete = true) ∧
          ∀ r f, rest.getLast? = some (.deleteByName e.name r) → deleteConfirmed r = .error f →
            Retry.Fails sv.policy ("delete employee " ++ id) rest.length f run.1) := by
  dsimp only
  obtain ⟨calls, hlook, hlisting⟩ := sv.allEmployees_logged (s, [])
  -- the removal is the lookup on the listing's result, then the delete run
  rw [removeById_run, employeeById, findEmployee_run, logged_policy]
  rcases hrun : sv.logged.allEmployees.run (s, []) with ⟨r, q⟩
  have hq : q.2 = calls := by simpa [hrun] using hlook
  refine ⟨fun c hc => hlisting c (by rw [← hq]; exact hc), ?_⟩
  cases r with
  | error f =>
    refine ⟨[], ?_, ?_, ?_, ?_⟩
    · simp
    · intro f' hf'
      cases hf'
      exact ⟨rfl, rfl⟩
    · intro _ hL
      cases hL
    · intro _ _ hL
      cases hL
  | ok L =>
    cases hfirst : L.find? (·.id == id) with
    | none =>
      dsimp only
      rw [hfirst]
      refine ⟨[], ?_, ?_, ?_, ?_⟩
      · simp
      · intro _ hf
        cases hf
      · intro _ _ _
        exact ⟨rfl, rfl⟩
      · intro L' e hL hfirst'
        cases hL
        rw [hfirst] at hfirst'
        cases hfirst'
    | some e =>
      dsimp only
      rw [hfirst]
      obtain ⟨rest, hlog, hcalls⟩ := sv.delete_calls e ("delete employee " ++ id) q
      refine ⟨rest, hlog, ?_, ?_, ?_⟩
      · intro _ hf
        cases hf
      · -- the first employee with the id is listed
        intro L' hL hnone
        cases hL
        exact absurd (by simpa using List.find?_some hfirst) (hnone e (List.mem_of_find?_eq_some hfirst))
      · intro L' e' hL hfirst'
        cases hL
        rw [hfirst] at hfirst'
        cases hfirst'
        exact hcalls

end Service

end EmployeeGateway
