import EmployeeGateway.Proofs.CreateResend
import EmployeeGateway.Proofs.ServiceFaults

/-!
# One exchange of the client

Each data operation of the client (`Connection.listAll`, `Connection.create`,
`Connection.deleteByName`) sends one request over a session and reads the
exchange the session gives: a transport failure while the session opens or
sends, or a status with a body that reads as JSON, is not JSON, or fails in
transport while read (`Exchange.Possible`). Over a session that gives such an
exchange `x` to every request, an operation on a connection that is not set
up fails with the runtime fault and sends nothing; on a set-up one it sends
exactly one request, to the base URL with the connection's timeout and the
operation's method and body, and its result reads `x` as `Exchange.Reads`
says:

* it is a value exactly when the status is a success, the body is JSON and
  validates as the operation's envelope, and the value is that envelope;
* otherwise it is one upstream fault, a rate-limit refusal exactly when the
  status is 429;
* the fault carries the status exactly when the status is not a success
  (429 included) or the success's body is not JSON;
* it carries no status exactly when sending or reading failed in transport,
  that failure being its cause, or the body is not the envelope, the
  validation report being its cause.

The 429 check comes before the success range, and a body that fails to read
in transport is told apart from one that is not JSON, so each exchange falls
in exactly one case (`reads_receive`). The main statement is
`Connection.operations_read_exchange`; `Connection.listAll_refusal_carries_status`
shows that a refusal carries its status 429.
-/

namespace EmployeeGateway

namespace Exchange

variable {α : Type}

/-- The result `r` of an operation that got the exchange `x` and validates
the body with `validate`, read off `x`. -/
structure Reads (x : Exchange) (validate : Value → Except Invalid α) (r : Except Fault α) : Prop where
  ok_iff : ∀ a, r = .ok a ↔ ∃ s b, x = .answered s (.ok b) ∧ isSuccess s = true ∧ validate b = .ok a
  upstream : ∀ u, r = .error u → u.isUpstream = true
  rateLimited_iff : ∀ u, r = .error u → (u.isRateLimited = true ↔ ∃ body, x = .answered 429 body)
  status_iff : ∀ u, r = .error u → ∀ s,
    (u.status? = some s ↔ ∃ body, x = .answered s body ∧
      (isSuccess s = false ∨ ∃ f, body = .error f ∧ f.isUndecodable = true))
  statusless_iff : ∀ u, r = .error u →
    (u.status? = none ↔
      (∃ f, f.isTransport = true ∧ u.cause? = some f ∧
        (x = .failed f ∨ ∃ s, x = .answered s (.error f) ∧ isSuccess s = true ∧ f.isUndecodable = false)) ∨
      ∃ s b report, x = .answered s (.ok b) ∧ isSuccess s = true ∧ validate b = .error report ∧
        u.cause? = some (.invalid report))

/-- A fault reads the exchange when it is the one fault the exchange leads
to. -/
theorem Reads.of_error {x : Exchange} {validate : Value → Except Invalid α} {u : Fault}
    (hok : ∀ s b a, x = .answered s (.ok b) → isSuccess s = true → validate b ≠ .ok a)
    (hup : u.isUpstream = true)
    (hrate : u.isRateLimited = true ↔ ∃ body, x = .answered 429 body)
    (hstatus : ∀ s, u.status? = some s ↔ ∃ body, x = .answered s body ∧
      (isSuccess s = false ∨ ∃ f, body = .error f ∧ f.isUndecodable = true))
    (hnone : u.status? = none ↔
      (∃ f, f.isTransport = true ∧ u.cause? = some f ∧
        (x = .failed f ∨ ∃ s, x = .answered s (.error f) ∧ isSuccess s = true ∧ f.isUndecodable = false)) ∨
      ∃ s b report, x = .answered s (.ok b) ∧ isSuccess s = true ∧ validate b = .error report ∧
        u.cause? = some (.invalid report)) :
    Reads x validate (.error u) where
  ok_iff a := by
    refine ⟨fun h => (by cases h), fun h => ?_⟩
    obtain ⟨s, b, hx, hs, hv⟩ := h
    exact absurd hv (hok s b a hx hs)
  upstream u' h := by cases h; exact hup
  rateLimited_iff u' h := by cases h; exact hrate
  status_iff u' h := by cases h; exact hstatus
  statusless_iff u' h := by cases h; exact hnone

theorem isSuccess_429 : isSuccess 429 = false := by decide

/-- A fault passes a change of error type as its image. -/
@[simp] theorem mapError_error {ε ε' α : Type} (f : ε → ε') (e : ε) :
    (Except.error e : Except ε α).mapError f = .error (f e) := rfl

/-- What an operation makes of the exchange: the body read as JSON, then
validated as its envelope. -/
def received (x : Exchange) (method url : String) (validate : Value → Except Invalid α) :
    Except Fault α :=
  (x.receive method url).bind fun v => (validate v).mapError Connection.envelopeFault

/-! ## Each way an exchange can go -/

section Cases

variable {method url : String} {validate : Value → Except Invalid α}

/-- A transport failure before any answer gives an upstream fault without
status, caused by that failure. -/
theorem reads_failed (k : TransportKind) (m : Option String) :
    Reads (.failed (.transport k m)) validate (received (.failed (.transport k m)) method url validate) :=
  Reads.of_error (fun _ _ _ hx => by cases hx) rfl
    (by simp [Fault.escalate, Fault.isRateLimited])
    (by simp [Fault.escalate, Fault.status?])
    (by simp [Fault.escalate, Fault.status?, Fault.cause?, Fault.isTransport])

/-- The refusal is checked before anything else, whatever the body. -/
theorem reads_refused (body : Except Fault Value) :
    Reads (.answered 429 body) validate (received (.answered 429 body) method url validate) :=
  Reads.of_error (fun _ _ _ hx hs => by cases hx; simp [isSuccess_429] at hs) rfl
    (by simp [Fault.isRateLimited]) (by simp [Fault.status?, and_assoc, isSuccess_429])
    (by simp [Fault.status?, Fault.cause?])

variable {s : Int} (h429 : s ≠ 429)
include h429

theorem beq_429_false : (s == 429) = false := by simpa using h429

/-- A status outside the success range gives an upstream fault carrying it,
without cause; the body is not read. -/
theorem reads_status (hs : isSuccess s = false) (body : Except Fault Value) :
    Reads (.answered s body) validate (received (.answered s body) method url validate) := by
  have hr : received (.answered s body) method url validate =
      .error (.upstream (method ++ " " ++ url ++ " returned " ++ toString s) (some s) none) := by
    simp [received, receive, beq_429_false h429, hs, Except.bind]
  rw [hr]
  exact Reads.of_error (fun _ _ _ hx hs' => by cases hx; simp [hs] at hs') rfl
    (by simp [Fault.isRateLimited, h429]) (by simp [Fault.status?, and_assoc, hs])
    (by simp only [Fault.status?, Fault.cause?, reduceCtorEq, false_iff]; simp_all)

variable (hs : isSuccess s = true)
include hs

/-- A success whose body is JSON gives the envelope it validates as, or an
upstream fault without status caused by the validation report. -/
theorem reads_json (b : Value) :
    Reads (.answered s (.ok b)) validate (received (.answered s (.ok b)) method url validate) := by
  cases hv : validate b with
  | ok a =>
    have hr : received (.answered s (.ok b)) method url validate = .ok a := by
      simp [received, receive, beq_429_false h429, hs, hv, Except.bind]
    rw [hr]
    refine ⟨fun a' => ?_, fun u h => (by cases h), fun u h => (by cases h), fun u h => (by cases h),
      fun u h => (by cases h)⟩
    simp [and_assoc, hs, hv]
  | error report =>
    have hr : received (.answered s (.ok b)) method url validate =
        .error (Connection.envelopeFault report) := by
      simp [received, receive, beq_429_false h429, hs, hv, Except.bind]
    rw [hr]
    exact Reads.of_error (fun _ _ _ hx _ => by cases hx; simp [hv]) rfl
      (by simp [Connection.envelopeFault, Fault.isRateLimited, h429])
      (by simp [Connection.envelopeFault, Fault.status?, hs])
      (by simp [Connection.envelopeFault, Fault.status?, Fault.cause?, and_assoc, hs, hv])

/-- A success whose body is not JSON gives an upstream fault carrying the
status, caused by the reading failure. -/
theorem reads_notJson {f : Fault} (hu : f.isUndecodable = true) :
    Reads (.answered s (.error f)) validate (received (.answered s (.error f)) method url validate) := by
  have hr : received (.answered s (.error f)) method url validate =
      .error (.upstream (method ++ " " ++ url ++ " returned a non-JSON body") (some s) (some f)) := by
    simp [received, receive, beq_429_false h429, hs, hu, Except.bind]
  rw [hr]
  refine Reads.of_error (fun _ _ _ hx => by cases hx) rfl (by simp [Fault.isRateLimited, h429])
    (by simp [Fault.status?, and_assoc, hu]) ⟨fun h => (by cases h), ?_⟩
  -- the one transport failure on offer is the reading failure, which is not JSON
  rintro (⟨g, -, -, hx | ⟨s', hx, -, hgu⟩⟩ | ⟨s', b, r, hx, -⟩)
  · cases hx
  · cases hx
    rw [hu] at hgu
    cases hgu
  · cases hx

/-- A success whose body failed to read in transport gives an upstream fault
without status, caused by that failure. -/
theorem reads_readFailed (k : TransportKind) (m : Option String)
    (hu : (Fault.transport k m).isUndecodable = false) :
    Reads (.answered s (.error (.transport k m))) validate
      (received (.answered s (.error (.transport k m))) method url validate) := by
  have hr : received (.answered s (.error (.transport k m))) method url validate =
      .error (Fault.escalate method url (.transport k m)) := by
    simp [received, receive, beq_429_false h429, hs, hu, Except.bind]
  rw [hr]
  refine Reads.of_error (fun _ _ _ hx => by cases hx) rfl
    (by simp [Fault.escalate, Fault.isRateLimited, h429])
    (by simp [Fault.escalate, Fault.status?, and_assoc, hs, hu]) ?_
  simp only [Fault.escalate, Fault.status?, Fault.cause?, true_iff]
  exact .inl ⟨_, rfl, rfl, .inr ⟨s, rfl, hs, hu⟩⟩

end Cases

/-- Every exchange a session can give leads to the result `Reads` describes:
the cases follow the order in which the client looks at the exchange. -/
theorem reads_receive {x : Exchange} (hx : x.Possible) (method url : String)
    (validate : Value → Except Invalid α) : Reads x validate (received x method url validate) := by
  cases x with
  | failed f =>
    obtain ⟨k, m, rfl⟩ : ∃ k m, f = .transport k m := by
      cases f <;> simp [Possible, Fault.isTransport] at hx
      exact ⟨_, _, rfl⟩
    exact reads_failed k m
  | answered s body =>
    by_cases h429 : s = 429
    · subst h429
      exact reads_refused body
    · cases hs : isSuccess s
      · exact reads_status h429 hs body
      · cases body with
        | ok b => exact reads_json h429 hs b
        | error f =>
          cases hu : f.isUndecodable
          · -- a body that is JSON-readable in kind but failed: a transport failure
            obtain ⟨k, m, rfl⟩ : ∃ k m, f = .transport k m := by
              cases f <;> simp [Possible, Fault.isTransport, hu] at hx
              exact ⟨_, _, rfl⟩
            exact reads_readFailed h429 hs k m hu
          · exact reads_notJson h429 hs hu

end Exchange

namespace Connection

variable {α : Type} (c : Connection) (x : Exchange) (method : String) (body : Option Value)
  (validate : Value → Except Invalid α)

/-- What one operation of the client did over a session that gives `x`:
`run` is its result and the requests it sent, each with its exchange. On a
connection that is not set up it fails with the runtime fault and sends
nothing; on a set-up one it sends the one request `method` with `body` to the
base URL, and its result reads `x`. -/
def Answers (run : Except Fault α × Wire) : Prop :=
  (c.initialized = false → run = (.error (.runtime "EmployeeApiClient not initialized"), [])) ∧
    (c.initialized = true →
      run.2 = [(⟨method, c.baseUrl, .seconds c.timeoutSeconds, body⟩, x)] ∧ x.Reads validate run.1)

/-- A set-up connection sends the one request and reads its exchange. -/
theorem fetch_run_initialized (hc : c.initialized = true) :
    (c.fetch (Wire.session fun _ => x) method body validate).run [] =
      (x.received method c.baseUrl validate, [(⟨method, c.baseUrl, .seconds c.timeoutSeconds, body⟩, x)]) := by
  simp [fetch, send, hc, Wire.session, Exchange.received]
  rfl

/-- A connection that is not set up sends nothing. -/
theorem fetch_run_closed (hc : c.initialized = false) :
    (c.fetch (Wire.session fun _ => x) method body validate).run [] = (.error notInitializedFault, []) := by
  simp [fetch, send, hc]
  rfl

theorem fetch_answers (hx : x.Possible) :
    Answers c x method body validate ((c.fetch (Wire.session fun _ => x) method body validate).run []) := by
  refine ⟨fun hc => fetch_run_closed c x method body validate hc, fun hc => ?_⟩
  rw [fetch_run_initialized c x method body validate hc]
  exact ⟨rfl, Exchange.reads_receive hx method c.baseUrl validate⟩

/-- **One exchange per operation.** Over a session that gives any exchange a
session can give, listing, creating and deleting by name each fail with the
runtime fault and send nothing on a connection that is not set up; on a
set-up one each sends exactly its one request (a `GET` without body, a
`POST` of the new employee, a `DELETE` of the name) to the base URL, and
returns the envelope exactly when the status is a success whose body is JSON
and validates, and otherwise fails with one upstream fault whose class,
status and cause follow from where the exchange failed. -/
theorem operations_read_exchange (hx : x.Possible) (request : NewEmployee) (name : String) :
    Answers c x "GET" none Envelope.validateList ((c.listAll (Wire.session fun _ => x)).run []) ∧
      Answers c x "POST" (some request.toValue) Envelope.validateEmployee
        ((c.create (Wire.session fun _ => x) request).run []) ∧
      Answers c x "DELETE" (some (.obj [("name", .str name)])) Envelope.validateBool
        ((c.deleteByName (Wire.session fun _ => x) name).run []) :=
  ⟨fetch_answers c x _ _ _ hx, fetch_answers c x _ _ _ hx, fetch_answers c x _ _ _ hx⟩

/-- A set-up connection and a 200 answer with an empty listing: an exchange a
session can give, and each operation answers it as described. -/
theorem operations_read_exchange_listing :
    let c : Connection := ⟨true, "http://upstream/api/v1/employee", Policy.thirty⟩
    let x : Exchange := .answered 200 (.ok (.obj [("data", .arr []), ("status", .str "ok")]))
    let request : NewEmployee := ⟨"Ann Lee", 100, 30, "Engineer", by decide, by decide, by decide⟩
    x.Possible ∧
      (Answers c x "GET" none Envelope.validateList ((c.listAll (Wire.session fun _ => x)).run []) ∧
        Answers c x "POST" (some request.toValue) Envelope.validateEmployee
          ((c.create (Wire.session fun _ => x) request).run []) ∧
        Answers c x "DELETE" (some (.obj [("name", .str "Ann Lee")])) Envelope.validateBool
          ((c.deleteByName (Wire.session fun _ => x) "Ann Lee").run [])) := by
  intro c x request
  have hx : x.Possible := trivial
  exact ⟨hx, operations_read_exchange c x hx request "Ann Lee"⟩

/-- A listing refused with 429 fails with the rate-limit refusal, and that
fault carries the status 429. -/
theorem listAll_refusal_carries_status :
    let c : Connection := ⟨true, "http://upstream/api/v1/employee", Policy.thirty⟩
    ((c.listAll (Wire.session fun _ => .answered 429 (.ok (.obj [])))).run []).1 =
        .error (.rateLimited Fault.rateLimitMessage) ∧
      (Fault.rateLimited Fault.rateLimitMessage).status? = some 429 := by
  intro c
  exact ⟨rfl, rfl⟩

end Connection

end EmployeeGateway
