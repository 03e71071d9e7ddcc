import EmployeeGateway.Client.Script

/-!
# The lifecycle of the connection

A scripted client starts closed, and each call may set its connection up or
close it; every other call leaves the connection as it is
(`ClientCall.perform_state`). Which connection a history of calls leaves is
said here without the set-up function: the connection is closed unless some
set-up since the last close was given settings with a base URL that is not
empty, and then it is set up from the first such settings, with their URL
less its trailing slashes and with their timeout (`ClientCall.governing`,
`ClientCall.governed`).

The main statement is `ClientCall.performAll_lifecycle`: at each step of any
script the connection is the one the calls so far govern; a closed connection
has an empty URL and zero seconds; a set-up URL is the settings' URL less its
trailing slashes, never ends in a slash, and is empty exactly when the
settings' URL is made only of slashes; a set-up on a set-up connection changes
nothing. Since emptiness is tested before the slashes go, a URL of slashes
alone sets the connection up with an empty URL (`setUp_slash_url_empty`).
-/

namespace EmployeeGateway

namespace Connection

/-! ## Trailing slashes -/

section Slashes

variable (s : String)

theorem withoutTrailingSlashes_toList :
    (withoutTrailingSlashes s).toList = (s.toList.reverse.dropWhile (· == '/')).reverse :=
  String.toList_ofList

/-- Only trailing slashes are taken off. -/
theorem toList_eq_withoutTrailingSlashes_append :
    ∃ k, s.toList = (withoutTrailingSlashes s).toList ++ List.replicate k '/' := by
  -- the slashes taken off, read from the end
  let kept := s.toList.reverse.takeWhile (· == '/')
  have hslash : kept.reverse = List.replicate kept.length '/' :=
    List.eq_replicate_iff.mpr ⟨List.length_reverse, fun c hc => by
      simpa using List.all_eq_true.mp List.all_takeWhile c (List.mem_reverse.mp hc)⟩
  refine ⟨kept.length, ?_⟩
  calc s.toList = (kept ++ s.toList.reverse.dropWhile (· == '/')).reverse := by
        rw [List.takeWhile_append_dropWhile, List.reverse_reverse]
    _ = (withoutTrailingSlashes s).toList ++ kept.reverse := by
        rw [List.reverse_append, withoutTrailingSlashes_toList]
    _ = (withoutTrailingSlashes s).toList ++ List.replicate kept.length '/' := by
        rw [hslash]

/-- What is left does not end in a slash. -/
theorem withoutTrailingSlashes_getLast? :
    (withoutTrailingSlashes s).toList.getLast? ≠ some '/' := by
  rw [withoutTrailingSlashes_toList, List.getLast?_reverse]
  have hhead := List.head?_dropWhile_not (· == '/') s.toList.reverse
  intro hlast
  rw [hlast] at hhead
  simp at hhead

/-- Nothing is left exactly when the text is made only of slashes. -/
theorem withoutTrailingSlashes_eq_empty_iff :
    withoutTrailingSlashes s = "" ↔ ∀ c ∈ s.toList, c = '/' := by
  obtain ⟨k, hk⟩ := toList_eq_withoutTrailingSlashes_append s
  constructor
  · intro hempty c hc
    rw [hk, hempty] at hc
    exact List.eq_of_mem_replicate (by simpa using hc)
  · intro hslash
    -- a last character left would be a character of the text, hence a slash
    rw [String.ext_iff]
    cases hleft : (withoutTrailingSlashes s).toList.reverse with
    | nil => simpa using hleft
    | cons c rest =>
      have hc : c ∈ s.toList := by
        rw [hk]
        exact List.mem_append_left _ (List.mem_reverse.mp (hleft ▸ List.mem_cons_self))
      have hlast : (withoutTrailingSlashes s).toList.getLast? = some c := by
        rw [← List.head?_reverse, hleft]
        rfl
      exact absurd (hslash c hc ▸ hlast) (withoutTrailingSlashes_getLast? s)

end Slashes

end Connection

namespace ClientCall

/-! ## What one call does to the connection -/

/-- The settings a call sets the connection up with: those of a set-up whose
settings are accepted. -/
def setUpSettings? : ClientCall → Option Settings
  | .setUp v =>
    match Settings.construct v with
    | .ok s => some s
    | .error _ => none
  | _ => none

/-- Whether a call closes the connection. -/
def closes : ClientCall → Bool
  | .close => true
  | _ => false

theorem closes_of_setUpSettings? {call : ClientCall} {s : Settings}
    (h : call.setUpSettings? = some s) : call.closes = false := by
  cases call <;> first | rfl | cases h

/-- A close closes the connection, a set-up with accepted settings sets it up
from them, and every other call leaves it as it is. -/
theorem perform_state (c : Connection) (call : ClientCall) :
    (perform c call).state =
      if call.closes then Connection.closed
      else match call.setUpSettings? with
        | some s => c.setUp s
        | none => c := by
  cases call with
  | setUp v =>
    cases hv : Settings.construct v <;> simp [perform, setUpSettings?, closes, hv]
  | close => rfl
  | listAll reply => rfl
  | checkConnection reply => rfl
  | create v reply =>
    simp only [perform]
    split <;> rfl
  | deleteByName v reply =>
    simp only [perform]
    split <;> rfl
  | unknown name => rfl

/-! ## The connection a history governs -/

/-- The calls of a history since its last close. -/
def sinceLastClose (h : List ClientCall) : List ClientCall :=
  (h.reverse.takeWhile (!·.closes)).reverse

/-- The settings that govern the connection after a history: those of the
first set-up since the last close whose base URL is not empty. -/
def governing (h : List ClientCall) : Option Settings :=
  ((sinceLastClose h).filterMap setUpSettings?).find? (!·.baseUrl.isEmpty)

/-- The connection a history leaves: closed without governing settings, and
set up from them otherwise. -/
def governed (h : List ClientCall) : Connection :=
  match governing h with
  | none => Connection.closed
  | some s => ⟨true, Connection.withoutTrailingSlashes s.baseUrl, s.timeoutSeconds⟩

section History

variable (h : List ClientCall) {call : ClientCall}

theorem governed_nil : governed [] = Connection.closed := rfl

theorem sinceLastClose_append_of_closes (hc : call.closes = true) :
    sinceLastClose (h ++ [call]) = [] := by
  simp [sinceLastClose, hc]

theorem sinceLastClose_append (hc : call.closes = false) :
    sinceLastClose (h ++ [call]) = sinceLastClose h ++ [call] := by
  simp [sinceLastClose, hc]

theorem governing_append_of_closes (hc : call.closes = true) : governing (h ++ [call]) = none := by
  rw [governing, sinceLastClose_append_of_closes h hc]
  rfl

/-- A call that neither closes nor sets up changes no governing settings. -/
theorem governing_append_of_none (hc : call.closes = false) (hs : call.setUpSettings? = none) :
    governing (h ++ [call]) = governing h := by
  rw [governing, sinceLastClose_append h hc, List.filterMap_append]
  simp [hs, governing]

/-- A set-up governs only if nothing governed before and its URL is not
empty. -/
theorem governing_append_of_setUp {s : Settings} (hs : call.setUpSettings? = some s) :
    governing (h ++ [call]) =
      (governing h).or (if s.baseUrl.isEmpty then none else some s) := by
  rw [governing, sinceLastClose_append h (closes_of_setUpSettings? hs), List.filterMap_append,
    List.find?_append]
  cases hempty : s.baseUrl.isEmpty <;> simp [hs, hempty, governing]

/-- One call keeps the connection the one its history governs. -/
theorem perform_governed (call : ClientCall) :
    (perform (governed h) call).state = governed (h ++ [call]) := by
  rw [perform_state]
  cases hc : call.closes with
  | true => simp [governed, governing_append_of_closes h hc]
  | false =>
    cases hs : call.setUpSettings? with
    | none => simp [governed, governing_append_of_none h hc hs]
    | some s =>
      simp only [Bool.false_eq_true, if_false]
      rw [governed, governed, governing_append_of_setUp h hs]
      cases governing h with
      | some g => rfl
      | none =>
        -- a closed connection is set up exactly by settings with a URL
        cases hempty : s.baseUrl.isEmpty <;> simp [Connection.setUp, Connection.closed, hempty]

/-- The connections of a run are those the history so far governs, one
call at a time. -/
theorem performAll_governed (rest : List ClientCall) :
    (performAll rest (governed h)).map (·.state) =
      (List.range rest.length).map fun i => governed (h ++ rest.take (i + 1)) := by
  induction rest generalizing h with
  | nil => rfl
  | cons call rest ih =>
    rw [performAll, List.map_cons, perform_governed, ih, List.length_cons, List.range_succ_eq_map,
      List.map_cons, List.map_map]
    simp only [List.take_succ_cons, List.take_zero, List.append_assoc, List.singleton_append]
    rfl

theorem governed_not_initialized (hinit : (governed h).initialized = false) :
    governed h = Connection.closed := by
  unfold governed at hinit ⊢
  cases hg : governing h with
  | none => rfl
  | some s =>
    rw [hg] at hinit
    cases hinit

end History

/-- A set-up on a set-up connection changes nothing. -/
theorem perform_setUp_of_initialized {c : Connection} (hinit : c.initialized = true) (v : Value) :
    (perform c (.setUp v)).state = c := by
  rw [perform_state]
  cases (setUp v).setUpSettings? with
  | none => rfl
  | some s => simp [closes, Connection.setUp, hinit]

/-! ## The lifecycle -/

/-- **The lifecycle of the connection.** At each step of any script from a
closed connection, the connection is the one the calls so far govern. A
connection that is not set up has an empty URL and zero seconds. A connection
set up by governing settings has their timeout and their URL less its
trailing slashes: that URL never ends in a slash, and it is empty exactly
when the settings' URL is made only of slashes. A set-up on a set-up
connection changes nothing. -/
theorem performAll_lifecycle (calls : List ClientCall) :
    (performAll calls Connection.closed).map (·.state) =
        (List.range calls.length).map (fun i => governed (calls.take (i + 1))) ∧
      (∀ h, (governed h).initialized = false →
        (governed h).baseUrl = "" ∧ (governed h).timeoutSeconds = Binary64.zero false) ∧
      (∀ h s, governing h = some s →
        (governed h).initialized = true ∧ (governed h).timeoutSeconds = s.timeoutSeconds ∧
        (∃ k, s.baseUrl.toList = (governed h).baseUrl.toList ++ List.replicate k '/') ∧
        (governed h).baseUrl.toList.getLast? ≠ some '/' ∧
        ((governed h).baseUrl = "" ↔ ∀ c ∈ s.baseUrl.toList, c = '/')) ∧
      ∀ c v, c.initialized = true → (perform c (.setUp v)).state = c := by
  refine ⟨?_, ?_, ?_, fun c v hinit => perform_setUp_of_initialized hinit v⟩
  · simpa [governed_nil] using performAll_governed [] calls
  · intro h hinit
    rw [governed_not_initialized h hinit]
    exact ⟨rfl, rfl⟩
  · intro h s hs
    rw [governed, hs]
    exact ⟨rfl, rfl, Connection.toList_eq_withoutTrailingSlashes_append s.baseUrl,
      Connection.withoutTrailingSlashes_getLast? s.baseUrl,
      Connection.withoutTrailingSlashes_eq_empty_iff s.baseUrl⟩

/-- The first URL since the last close that is not empty sets the connection
up; its trailing slashes go. -/
example :
    let url := fun u : String => setUp (.obj [("EMPLOYEE_API_BASE_URL", .str u)])
    (performAll [url "", url "http://a//", url "http://b", .close, url "http://c/"]
      Connection.closed).map (·.state.baseUrl) = ["", "http://a", "http://a", "", "http://c"] := by
  decide

/-- A base URL of one slash is not empty, so it sets a closed connection up,
with the empty URL. -/
theorem setUp_slash_url_empty :
    let c := (perform Connection.closed (.setUp (.obj [("EMPLOYEE_API_BASE_URL", .str "/")]))).state
    c.initialized = true ∧ c.baseUrl = "" := by
  decide

end ClientCall

end EmployeeGateway
