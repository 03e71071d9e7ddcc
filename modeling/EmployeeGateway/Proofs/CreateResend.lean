import EmployeeGateway.Proofs.RetryRun
import EmployeeGateway.Client.Connection
import EmployeeGateway.Service

/-!
# When a create is sent again

`Service.createEmployee` over the HTTP client (`Connection.upstream`) sends
the create as a `POST` and tries again after the answers it cannot use. The
upstream is a script: the `n`-th request sent gets the exchange `script n`,
and the wire records each request with its exchange.

For every policy, connection and script of exchanges a session can give
(a transport failure, or a status with a body that does or does not read as
JSON), a create sends at most `maxAttempts` requests, all the same `POST`,
and every one of them but the last was answered in a way the service cannot
use (`Unusable`):

* a transport failure, or a status outside `200 ..< 300` (429 among them);
* a success whose body is not JSON or could not be read;
* a success whose body is not the envelope of an employee, or whose
  envelope has no data.

A success whose envelope holds an employee is therefore always the last
answer, and the create returns that employee. The last three kinds are
successes of the upstream all the same: a create it has processed is sent
again after them (`create_resent_after_success`).

The main statement is `Service.create_resends_only_after_unusable`; the run
is taken apart by `attempts_log`, which follows any action that logs one
entry per attempt.
-/

namespace EmployeeGateway

/-! ## Runs that log one entry per attempt -/

namespace Retry

/-- The entries `es` a run logged, ending with result `r`: at least one and at
most `bound`, each the entry of some state, each but the last the entry of a
retried fault, and a value in the last one the run's result. -/
def RunLog {σ E α : Type} (entry : σ → E) (out : E → Except Fault α) (bound : Nat) (es : List E)
    (r : Except Fault α) : Prop :=
  es ≠ [] ∧ (∀ e ∈ es, ∃ s, e = entry s) ∧ es.length ≤ bound ∧
    (∀ e ∈ es.dropLast, ∃ f, out e = .error f ∧ f.isRetryable = true) ∧
    ∀ e a, es.getLast? = some e → out e = .ok a → r = .ok a

section Log

variable {σ E α : Type} {entry : σ → E} {out : E → Except Fault α}

/-- A run that stops at its first attempt logged that attempt's entry. -/
theorem RunLog.single (s : σ) {bound : Nat} {r : Except Fault α} (hb : 1 ≤ bound)
    (hr : ∀ a, out (entry s) = .ok a → r = .ok a) : RunLog entry out bound [entry s] r := by
  refine ⟨List.cons_ne_nil _ _, fun e he => ⟨s, List.mem_singleton.mp he⟩, by simpa using hb,
    by simp, ?_⟩
  intro e a he ha
  simp only [List.getLast?_singleton, Option.some.injEq] at he
  subst he
  exact hr a ha

/-- A retried attempt adds its entry in front of the entries of the rest of
the run. -/
theorem RunLog.cons (s : σ) {bound : Nat} {es : List E} {r : Except Fault α} {f : Fault}
    (h : RunLog entry out bound es r) (hf : out (entry s) = .error f) (hretry : f.isRetryable = true) :
    RunLog entry out (bound + 1) (entry s :: es) r := by
  obtain ⟨hne, hentries, hlen, hbad, hlast⟩ := h
  refine ⟨List.cons_ne_nil _ _, ?_, by simp; omega, ?_, ?_⟩
  · intro e he
    rcases List.mem_cons.mp he with rfl | he
    · exact ⟨s, rfl⟩
    · exact hentries e he
  · intro e he
    rw [List.dropLast_cons_of_ne_nil hne, List.mem_cons] at he
    rcases he with rfl | he
    · exact ⟨f, hf, hretry⟩
    · exact hbad e he
  · intro e a he ha
    rw [List.getLast?_cons_of_ne_nil hne] at he
    exact hlast e a he ha

variable (sleep : Binary64 → StateM σ Unit) (p : Policy) (activity : String)
  (action : StateM σ (Except Fault α)) (log : σ → List E) (entry out)

/-- A run of an action that, from any state, logs one entry and ends as that
entry says logs the entries of its attempts, one per attempt allowed at
most, each but the last the entry of a retried fault, and ends with the value
of a last entry that holds one. -/
theorem attempts_log (hact : ∀ s, log (action.run s).2 = log s ++ [entry s] ∧
      (action.run s).1 = out (entry s))
    (hsleep : ∀ d s, log ((sleep d).run s).2 = log s) (left : Nat) :
    ∀ attempt s, ∃ es,
      log ((attempts sleep p activity action (left + 1) attempt).run s).2 = log s ++ es ∧
      RunLog entry out (left + 1) es ((attempts sleep p activity action (left + 1) attempt).run s).1 := by
  induction left with
  | zero =>
    -- the last attempt logs its entry and ends the run
    intro attempt s
    obtain ⟨hlog, hout⟩ := hact s
    rw [attempts_run, hout]
    cases hr : out (entry s) with
    | ok a => exact ⟨[entry s], hlog, RunLog.single s (Nat.le_refl _) fun a' ha' => by rw [hr] at ha'; exact ha'⟩
    | error f =>
      refine ⟨[entry s], ?_, RunLog.single s (Nat.le_refl _) fun a ha => by rw [hr] at ha; cases ha⟩
      dsimp only
      split
      · exact hlog
      · rw [if_pos rfl]
        exact hlog
  | succ left ih =>
    intro attempt s
    obtain ⟨hlog, hout⟩ := hact s
    rw [attempts_run, hout]
    cases hr : out (entry s) with
    | ok a => exact ⟨[entry s], hlog, RunLog.single s (by omega) fun a' ha' => by rw [hr] at ha'; exact ha'⟩
    | error f =>
      -- a fault ends the run with its entry alone, unless it is retried after its delay
      have hstop : ∀ r : Except Fault α, RunLog entry out (left + 1 + 1) [entry s] r :=
        fun r => RunLog.single s (by omega) fun a ha => by rw [hr] at ha; cases ha
      dsimp only
      by_cases hf : f.isRetryable = true
      · simp only [hf, Bool.not_true, Bool.false_eq_true, if_false, Nat.add_one_ne_zero]
        cases hb : p.backoff attempt with
        | error g => exact ⟨[entry s], hlog, hstop _⟩
        | ok d =>
          dsimp only
          obtain ⟨es, hlog', hes⟩ := ih (attempt + 1) ((sleep d).run (action.run s).2).2
          refine ⟨entry s :: es, ?_, hes.cons s hr hf⟩
          rw [hlog', hsleep, hlog, List.append_assoc, List.singleton_append]
      · simp only [Bool.not_eq_true] at hf
        simp only [hf, Bool.not_false, if_true]
        exact ⟨[entry s], hlog, hstop _⟩

end Log

end Retry

/-! ## A scripted upstream -/

/-- What went over the wire: each request sent, with the exchange the
upstream gave for it. -/
abbrev Wire := List (Request × Exchange)

/-- The session whose `n`-th request (counted from zero) gets the exchange
`script n`, both recorded on the wire. -/
def Wire.session (script : Nat → Exchange) : Session (StateM Wire) := fun r =>
  modifyGet fun w => (script w.length, w ++ [(r, script w.length)])

namespace Exchange

/-- A value passes a change of error type unchanged. -/
@[simp] theorem mapError_ok {ε ε' α : Type} (f : ε → ε') (a : α) :
    (Except.ok a : Except ε α).mapError f = .ok a := rfl

/-- The exchanges a session can give: a transport failure, or a status with
a body that reads as JSON, is not JSON, or fails in transport while read. -/
def Possible : Exchange → Prop
  | .failed f => f.isTransport = true
  | .answered _ (.ok _) => True
  | .answered _ (.error f) => f.isUndecodable = true ∨ f.isTransport = true

/-- An answer to a create that the service cannot use. -/
inductive Unusable : Exchange → Prop
  /-- Sending failed in transport. -/
  | transport {k : TransportKind} {msg : Option String} : Unusable (.failed (.transport k msg))
  /-- A status outside `200 ..< 300`, a rate-limit refusal among them. -/
  | status {status : Int} {body : Except Fault Value} :
      isSuccess status = false → Unusable (.answered status body)
  /-- The body is not JSON. -/
  | notJson {status : Int} {f : Fault} : f.isUndecodable = true → Unusable (.answered status (.error f))
  /-- Reading the body failed in transport. -/
  | readFailed {status : Int} {k : TransportKind} {msg : Option String} :
      Unusable (.answered status (.error (.transport k msg)))
  /-- The body is not the envelope of an employee. -/
  | notEnvelope {status : Int} {v : Value} {r : Invalid} :
      Envelope.validateEmployee v = .error r → Unusable (.answered status (.ok v))
  /-- The envelope has no data. -/
  | noData {status : Int} {v : Value} {st : Option String} :
      Envelope.validateEmployee v = .ok ⟨none, st⟩ → Unusable (.answered status (.ok v))

/-- A success whose body is the envelope of the employee `e`. -/
def Acknowledges (ex : Exchange) (e : Employee) : Prop :=
  ∃ status v st, ex = .answered status (.ok v) ∧ isSuccess status = true ∧
    Envelope.validateEmployee v = .ok ⟨some e, st⟩

/-- A success status is never the rate-limit refusal. -/
theorem not_refused_of_success {status : Int} (hs : isSuccess status = true) :
    (status == 429) = false := by
  simp only [isSuccess, Bool.and_eq_true, decide_eq_true_eq] at hs
  simp only [beq_eq_false_iff_ne, ne_eq]
  omega

/-- What the service makes of an answer to its create: the employee, or the
fault the attempt ends with. -/
def created (url : String) (ex : Exchange) : Except Fault Employee :=
  Service.createdData ((ex.receive "POST" url).bind fun v =>
    (Envelope.validateEmployee v).mapError Connection.envelopeFault)

/-- An answer that ends the attempt with a fault is one the service cannot
use. -/
theorem unusable_of_created_error {url : String} {ex : Exchange} {f : Fault} (hp : ex.Possible)
    (h : created url ex = .error f) : ex.Unusable := by
  cases ex with
  | failed g =>
    cases g <;> simp [Possible, Fault.isTransport] at hp
    exact .transport
  | answered status body =>
    by_cases hs : isSuccess status = true
    · have h429 := not_refused_of_success hs
      cases body with
      | ok v =>
        cases hv : Envelope.validateEmployee v with
        | error r => exact .notEnvelope hv
        | ok env =>
          obtain ⟨data, st⟩ := env
          cases data with
          | none => exact .noData hv
          | some e =>
            simp [created, receive, h429, hs, hv, Except.bind, Service.createdData] at h
      | error g =>
        rcases hp with hu | ht
        · exact .notJson hu
        · cases g <;> simp [Fault.isTransport] at ht
          exact .readFailed
    · exact .status (by simpa using hs)

/-- An answer that acknowledges an employee ends the attempt with it. -/
theorem created_of_acknowledges {url : String} {ex : Exchange} {e : Employee}
    (h : ex.Acknowledges e) : created url ex = .ok e := by
  obtain ⟨status, v, st, rfl, hs, hv⟩ := h
  have h429 := not_refused_of_success hs
  simp [created, receive, h429, hs, hv, Except.bind, Service.createdData]

theorem Unusable.not_acknowledges {ex : Exchange} (h : ex.Unusable) (e : Employee) :
    ¬ ex.Acknowledges e := by
  rintro ⟨status, v, st, rfl, hs, hv⟩
  cases h with
  | status hs' => rw [hs] at hs'; cases hs'
  | notEnvelope hv' => rw [hv] at hv'; cases hv'
  | noData hv' => rw [hv] at hv'; cases hv'

end Exchange

/-! ## A create over the client -/

namespace Service

variable (p : Policy) (c : Connection) (script : Nat → Exchange) (request : NewEmployee)

/-- The service over the client on a scripted wire; its waits take no part in
the exchanges. -/
def onWire : Service (StateM Wire) := ⟨Connection.upstream (Wire.session script) c, p, fun _ => pure ()⟩

@[simp] theorem onWire_policy : (onWire p c script).policy = p := rfl

@[simp] theorem onWire_sleep : (onWire p c script).sleep = fun _ => pure () := rfl

/-- The request a create sends. -/
def createRequest : Request := ⟨"POST", c.baseUrl, .seconds c.timeoutSeconds, some request.toValue⟩

/-- One attempt of a create on a set-up connection sends the create and
records the exchange it gets. -/
theorem create_attempt (hc : c.initialized = true) (w : Wire) :
    (createdData <$> (onWire p c script).upstream.create request).run w =
      (Exchange.created c.baseUrl (script w.length), w ++ [(createRequest c request, script w.length)]) := by
  simp [onWire, Connection.upstream, Connection.create, Connection.fetch, Connection.send, hc,
    Wire.session, Exchange.created, createRequest]
  rfl

/-- On a connection that is not set up, a create sends nothing. -/
theorem create_attempt_closed (hc : c.initialized = false) (w : Wire) :
    (createdData <$> (onWire p c script).upstream.create request).run w =
      (.error Connection.notInitializedFault, w) := by
  simp [onWire, Connection.upstream, Connection.create, Connection.fetch, Connection.send, hc]
  rfl

/-- **A create is sent again only after an answer the service cannot use.**
Over any policy, connection and script of exchanges a session can give, a
create sends at most `maxAttempts` requests, all the same `POST`; every one
but the last got an answer the service cannot use, which acknowledged no
employee; and a last answer that acknowledges an employee is what the create
returns. -/
theorem create_resends_only_after_unusable (hscript : ∀ n, (script n).Possible) :
    let run := ((onWire p c script).createEmployee request).run []
    run.2.length ≤ p.maxAttempts ∧
      (∀ x ∈ run.2, x.1 = ⟨"POST", c.baseUrl, .seconds c.timeoutSeconds, some request.toValue⟩) ∧
      (∀ x ∈ run.2.dropLast, x.2.Unusable ∧ ∀ e, ¬ x.2.Acknowledges e) ∧
      ∀ x e, run.2.getLast? = some x → x.2.Acknowledges e → run.1 = .ok e := by
  obtain ⟨n, hn⟩ : ∃ n, p.maxAttempts = n + 1 := ⟨p.maxAttempts - 1, by have := p.attempts_pos; omega⟩
  cases hc : c.initialized with
  | false =>
    -- nothing is sent: the first attempt fails before the wire, and that fault is not retried
    have hrun : ((onWire p c script).createEmployee request).run [] =
        (.error Connection.notInitializedFault, []) := by
      rw [createEmployee, Retry.run, onWire_policy, hn, Retry.attempts_run,
        create_attempt_closed p c script request hc]
      rfl
    simp [hrun]
  | true =>
    obtain ⟨es, hlog, -, hentries, hlen, hbad, hlast⟩ :=
      Retry.attempts_log (fun w => (createRequest c request, script w.length))
        (fun x => Exchange.created c.baseUrl x.2) (fun _ => pure ()) p "create employee" _ id
        (fun w => by rw [create_attempt p c script request hc w]; exact ⟨rfl, rfl⟩)
        (fun _ _ => rfl) n 1 []
    simp only [id, List.nil_append] at hlog
    simp only [createEmployee, Retry.run, onWire_policy, onWire_sleep, hn]
    rw [hlog]
    -- every entry on the wire is the create with the exchange it got
    have hpossible : ∀ x ∈ es, x.1 = createRequest c request ∧ x.2.Possible := by
      intro x hx
      obtain ⟨w, rfl⟩ := hentries x hx
      exact ⟨rfl, hscript _⟩
    refine ⟨by omega, fun x hx => (hpossible x hx).1, fun x hx => ?_, fun x e hx he => ?_⟩
    · obtain ⟨f, hf, -⟩ := hbad x hx
      have hu := Exchange.unusable_of_created_error (hpossible x (List.dropLast_subset _ hx)).2 hf
      exact ⟨hu, hu.not_acknowledges⟩
    · exact hlast x e hx (Exchange.created_of_acknowledges he)

/-- A script of a success without data, then a success with the employee:
both are exchanges a session can give, and the create sends at most three
requests. -/
theorem create_resends_only_after_unusable_two_answers :
    let script : Nat → Exchange := fun n =>
      if n = 0 then .answered 200 (.ok (.obj [("data", .null)]))
      else .answered 201 (.ok (.obj [("data", .obj [("id", .str "generated-1"),
        ("employee_name", .str "Ann Lee"), ("employee_salary", .int 100)])]))
    let c : Connection := ⟨true, "http://upstream/api/v1/employee", Policy.thirty⟩
    let request : NewEmployee := ⟨"Ann Lee", 100, 30, "Engineer", by decide, by decide, by decide⟩
    (∀ n, (script n).Possible) ∧
      (((onWire Policy.standard c script).createEmployee request).run []).2.length ≤ 3 := by
  intro script c request
  have hscript : ∀ n, (script n).Possible := by
    intro n
    by_cases hn : n = 0 <;> simp [script, hn, Exchange.Possible]
  exact ⟨hscript, (create_resends_only_after_unusable Policy.standard c script request hscript).1⟩

set_option maxRecDepth 100000 in
/-- A create answered 200 with an envelope without data is sent again: the
upstream answered with a success, which may well have created the employee,
and a second `POST` follows it. -/
theorem create_resent_after_success :
    let script : Nat → Exchange := fun n =>
      if n = 0 then .answered 200 (.ok (.obj [("data", .null)]))
      else .answered 201 (.ok (.obj [("data", .obj [("id", .str "generated-1"),
        ("employee_name", .str "Ann Lee"), ("employee_salary", .int 100)])]))
    let c : Connection := ⟨true, "http://upstream/api/v1/employee", Policy.thirty⟩
    let request : NewEmployee := ⟨"Ann Lee", 100, 30, "Engineer", by decide, by decide, by decide⟩
    (((onWire Policy.standard c script).createEmployee request).run []).2.map Prod.snd =
      [.answered 200 (.ok (.obj [("data", .null)])), script 1] := by
  intro script c request
  rfl

end Service

end EmployeeGateway
