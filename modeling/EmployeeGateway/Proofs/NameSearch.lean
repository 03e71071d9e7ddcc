import EmployeeGateway.Service
import EmployeeGateway.Sandbox
import EmployeeGateway.Text.Upper
import Mathlib

/-!
# Searching employees by name

`Service.searchByName q` keeps the listed employees whose lowercased name
contains the lowercased query. Three facts about text carry what that means:

* the finder `Text.occursIn` answers exactly the library's infix relation
  (`occursInChars_iff_isInfix`);
* lowercasing is context free except at a capital sigma, so a piece without
  one is lowercased in place whatever surrounds it
  (`lowerChars_append_of_noSigma`, `flatMap_lowerChar_infix_lower`);
* every character lowercasing produces is its own lowercase
  (`lowerChars_fixed`): the simple mapping never sends a code point to one it
  maps again, which a check over the table of runs settles once
  (`lowerRunsStable_eq_true`, `lowerCode_stable`).

The main statement is `Service.searchByName_returns_matches`: over a listing
`L`, the search returns the employees of `L`, in order, whose lowercased name
has the lowercased query as a contiguous piece, and is not found exactly when
there are none; a name holding the lowercased query literally is always among
them, and so is a name holding the query itself when the query has no capital
sigma. `Service.searchByName_misses_sigma_and_upper` shows that the query
itself with a capital sigma, or its uppercase, can be missed: `ΑΣ` lowercases
to `ας` while `Σ` lowercases to `σ`, and `ß` uppercases to `SS`, whose
lowercase `ss` does not hold `ß`.
-/

namespace EmployeeGateway

namespace Text

/-! ## Finding text -/

/-- The finder answers exactly whether the needle is a contiguous piece of the
text. -/
theorem occursInChars_iff_isInfix (needle hay : List Char) :
    occursInChars needle hay = true ↔ needle <:+: hay := by
  induction hay with
  | nil => simp [occursInChars, List.isEmpty_iff]
  | cons c cs ih =>
    rw [occursInChars, Bool.or_eq_true, ih, List.isPrefixOf_iff_prefix, List.infix_cons_iff]

theorem occursIn_iff_isInfix (needle haystack : String) :
    occursIn needle haystack = true ↔ needle.toList <:+: haystack.toList :=
  occursInChars_iff_isInfix _ _

/-! ## Lowercasing piece by piece -/

theorem lower_toList (s : String) : (lower s).toList = lowerChars [] s.toList :=
  String.toList_ofList

/-- Lowercasing one character, the capital sigma by its surroundings. -/
theorem lowerChars_cons (before : List Char) (c : Char) (rest : List Char) :
    lowerChars before (c :: rest) =
      (if c.toNat == 0x3A3 then [if finalSigma before rest then Char.ofNat 0x3C2 else Char.ofNat 0x3C3]
        else lowerChar c) ++ lowerChars (c :: before) rest := rfl

/-- The lowercase of `A ++ R` is some text followed by the lowercase of `R`
with `A` passed. -/
theorem lowerChars_append (A : List Char) :
    ∀ before R, ∃ P, lowerChars before (A ++ R) = P ++ lowerChars (A.reverse ++ before) R := by
  induction A with
  | nil => exact fun before R => ⟨[], rfl⟩
  | cons c A ih =>
    intro before R
    obtain ⟨P, hP⟩ := ih (c :: before) R
    rw [List.cons_append, lowerChars_cons, hP, List.reverse_cons, List.append_assoc,
      List.singleton_append]
    exact ⟨_, (List.append_assoc _ _ _).symm⟩

/-- A piece with no capital sigma is lowercased character by character,
whatever surrounds it. -/
theorem lowerChars_append_of_noSigma {x : List Char} (hx : ∀ c ∈ x, c.toNat ≠ 0x3A3) :
    ∀ before R, lowerChars before (x ++ R) = x.flatMap lowerChar ++ lowerChars (x.reverse ++ before) R := by
  induction x with
  | nil => exact fun before R => rfl
  | cons c x ih =>
    intro before R
    have hc : (c.toNat == 0x3A3) = false := by simpa using hx c List.mem_cons_self
    rw [List.cons_append, lowerChars_cons, if_neg (by simp [hc]),
      ih (fun d hd => hx d (List.mem_cons_of_mem c hd)), List.flatMap_cons, List.reverse_cons,
      List.append_assoc, List.append_assoc]
    rfl

/-- A piece `x` of a text, with no capital sigma, leaves its character by
character lowercase as a piece of the text's lowercase. -/
theorem flatMap_lowerChar_infix_lower {x : List Char} (hx : ∀ c ∈ x, c.toNat ≠ 0x3A3) {s : String}
    (h : x <:+: s.toList) : x.flatMap lowerChar <:+: (lower s).toList := by
  obtain ⟨A, B, hAB⟩ := h
  obtain ⟨P, hP⟩ := lowerChars_append A [] (x ++ B)
  refine ⟨P, lowerChars (x.reverse ++ (A.reverse ++ [])) B, ?_⟩
  rw [lower_toList, ← hAB, List.append_assoc A x B, hP, lowerChars_append_of_noSigma hx,
    List.append_assoc]

/-- A text with no capital sigma is lowercased character by character. -/
theorem lower_toList_of_noSigma {s : String} (h : ∀ c ∈ s.toList, c.toNat ≠ 0x3A3) :
    (lower s).toList = s.toList.flatMap lowerChar := by
  have hs := lowerChars_append_of_noSigma h [] []
  rw [List.append_nil] at hs
  rw [lower_toList, hs, lowerChars, List.append_nil]

/-! ## The table of runs maps no code point twice -/

/-- Does run `r` map the code point `c`? -/
def CaseRun.maps (r : CaseRun) (c : Nat) : Bool :=
  r.first ≤ c && c ≤ r.last && (c - r.first) % r.step == 0

/-- The code points run `r` maps to avoid those run `r'` maps: the ranges are
apart, or both runs step by two from opposite parities, or `r` maps a single
code point to one `r'` does not map. -/
def CaseRun.imagesAvoid (r r' : CaseRun) : Bool :=
  let lo : Int := r.first + r.delta
  let hi : Int := r.last + r.delta
  hi < r'.first || r'.last < lo || (r.step == 2 && r'.step == 2 && (lo - r'.first) % 2 == 1) ||
    (lo == hi && !r'.maps lo.toNat)

/-- The code points run `r` maps to are characters, none of them `İ` or an
ASCII capital. -/
def CaseRun.imagesPlain (r : CaseRun) : Bool :=
  let lo : Int := r.first + r.delta
  let hi : Int := r.last + r.delta
  0 ≤ lo && (hi < 65 || (90 < lo && hi < 0x130) || (0x130 < lo && hi < 0xD800) ||
    (0xDFFF < lo && hi < 0x110000))

/-- Every run's images are plain and avoid every run. -/
def lowerRunsStable : Bool := lowerRuns.all fun r => r.imagesPlain && lowerRuns.all r.imagesAvoid

theorem lowerRunsStable_eq_true : lowerRunsStable = true := by decide +kernel

theorem lowerCode_eq (c : Nat) :
    lowerCode c =
      if c < 128 then (if 65 ≤ c && c ≤ 90 then c + 32 else c)
      else
        match lowerRuns.find? (·.maps c) with
        | some r => (c + r.delta).toNat
        | none => c := rfl

section Images

variable {r : CaseRun} {c : Nat}

theorem CaseRun.maps_iff : r.maps c = true ↔ r.first ≤ c ∧ c ≤ r.last ∧ (c - r.first) % r.step = 0 := by
  simp [CaseRun.maps, and_assoc]

/-- The image of a mapped code point lies between the images of the run's
ends. -/
theorem CaseRun.image_bounds (hc : r.maps c = true) :
    (r.first : Int) + r.delta ≤ c + r.delta ∧ (c : Int) + r.delta ≤ r.last + r.delta := by
  obtain ⟨h₁, h₂, -⟩ := CaseRun.maps_iff.mp hc
  omega

/-- A run whose images avoid `r'` maps no code point into `r'`. -/
theorem CaseRun.maps_image_false {r' : CaseRun} (h : r.imagesAvoid r' = true) (hc : r.maps c = true)
    (hlo : 0 ≤ (r.first : Int) + r.delta) : r'.maps (c + r.delta).toNat = false := by
  obtain ⟨h₁, h₂, hstep⟩ := CaseRun.maps_iff.mp hc
  have himage : (((c : Int) + r.delta).toNat : Int) = c + r.delta := Int.toNat_of_nonneg (by omega)
  rw [Bool.eq_false_iff]
  intro hm
  obtain ⟨h₁', h₂', hstep'⟩ := CaseRun.maps_iff.mp hm
  simp only [CaseRun.imagesAvoid, Bool.or_eq_true, Bool.and_eq_true, decide_eq_true_eq, beq_iff_eq,
    Bool.not_eq_true'] at h
  rcases h with ((hapart | hapart) | ⟨⟨hs, hs'⟩, hodd⟩) | ⟨hsingle, hnot⟩
  · omega
  · omega
  · -- both runs step by two, so the image keeps the parity of `lo`
    rw [hs] at hstep
    rw [hs'] at hstep'
    omega
  · -- a run with one image maps `c` to that image
    have hcfirst : c = r.first := by omega
    subst hcfirst
    rw [hm] at hnot
    exact absurd hnot (by decide)

end Images

theorem toNat_ofNat_of_valid {n : Nat} (h : n.isValidChar) : (Char.ofNat n).toNat = n := by
  rw [Char.ofNat, dif_pos h]
  rfl

/-- The simple lowercase of a character other than `İ` is a character other
than `İ` whose simple lowercase is itself. -/
theorem lowerCode_stable {n : Nat} (hv : n.isValidChar) (hn : n ≠ 0x130) :
    (lowerCode n).isValidChar ∧ lowerCode n ≠ 0x130 ∧ lowerCode (lowerCode n) = lowerCode n := by
  by_cases hascii : n < 128
  · -- ASCII capitals go to small letters, which stay
    have hm : lowerCode n = if 65 ≤ n && n ≤ 90 then n + 32 else n := by
      rw [lowerCode_eq, if_pos hascii]
    by_cases hcap : 65 ≤ n ∧ n ≤ 90
    · have hm' : lowerCode n = n + 32 := by simp [hm, hcap]
      have hfix : lowerCode (n + 32) = n + 32 := by
        rw [lowerCode_eq, if_pos (by omega)]
        simp only [Bool.and_eq_true, decide_eq_true_eq]
        rw [if_neg (by omega)]
      rw [hm', hfix]
      refine ⟨?_, by omega, rfl⟩
      unfold Nat.isValidChar
      omega
    · have hm' : lowerCode n = n := by simpa [hm] using hcap
      rw [hm', hm']
      exact ⟨hv, hn, rfl⟩
  · cases hfind : lowerRuns.find? (·.maps n) with
    | none =>
      have hm' : lowerCode n = n := by rw [lowerCode_eq, if_neg hascii, hfind]
      rw [hm', hm']
      exact ⟨hv, hn, rfl⟩
    | some r =>
      have hm' : lowerCode n = (n + r.delta).toNat := by rw [lowerCode_eq, if_neg hascii, hfind]
      have hr : r ∈ lowerRuns := List.mem_of_find?_eq_some hfind
      have hmaps : r.maps n = true := by simpa using List.find?_some hfind
      have hstable := List.all_eq_true.mp lowerRunsStable_eq_true r hr
      simp only [Bool.and_eq_true, List.all_eq_true] at hstable
      obtain ⟨hplain, havoid⟩ := hstable
      have hbounds := CaseRun.image_bounds hmaps
      simp only [CaseRun.imagesPlain, Bool.and_eq_true, Bool.or_eq_true, decide_eq_true_eq] at hplain
      obtain ⟨hlo, hrange⟩ := hplain
      have himage : (((n : Int) + r.delta).toNat : Int) = n + r.delta := Int.toNat_of_nonneg (by omega)
      rw [hm']
      refine ⟨?_, by omega, ?_⟩
      · unfold Nat.isValidChar
        omega
      · -- the image is mapped by no run, and is no ASCII capital
        rw [lowerCode_eq]
        split
        · simp only [Bool.and_eq_true, decide_eq_true_eq]
          rw [if_neg (by omega)]
        · have hnone : lowerRuns.find? (·.maps (n + r.delta).toNat) = none :=
            List.find?_eq_none.mpr fun r' hr' => by
              simpa using CaseRun.maps_image_false (havoid r' hr') hmaps hlo
          rw [hnone]

/-- Every character of a character's lowercase is its own lowercase. -/
theorem lowerChar_lowerChar (c : Char) : ∀ y ∈ lowerChar c, lowerChar y = [y] := by
  intro y hy
  unfold lowerChar at hy
  split at hy
  · -- `İ` lowercases to `i` and a combining dot above, both fixed
    simp only [List.mem_cons, List.not_mem_nil, or_false] at hy
    rcases hy with rfl | rfl <;> decide
  · next hne =>
    rw [List.mem_singleton] at hy
    subst hy
    have hn : c.toNat ≠ 0x130 := by simpa using hne
    obtain ⟨hv, hm, hfix⟩ := lowerCode_stable (show Nat.isValidChar c.toNat from c.valid) hn
    rw [lowerChar, toNat_ofNat_of_valid hv, hfix, if_neg (by simpa using hm)]

/-- Every character lowercasing produces is its own lowercase. -/
theorem lowerChars_fixed (s : List Char) : ∀ before, ∀ y ∈ lowerChars before s, lowerChar y = [y] := by
  induction s with
  | nil => intro before y hy; cases hy
  | cons c rest ih =>
    intro before y hy
    rw [lowerChars_cons, List.mem_append] at hy
    rcases hy with hy | hy
    · split at hy
      · -- the two sigmas are lowercase already
        split at hy <;>
          · rw [List.mem_singleton] at hy
            subst hy
            decide
      · exact lowerChar_lowerChar c y hy
    · exact ih (c :: before) y hy

/-- A lowercase text holds no capital sigma. -/
theorem lower_noSigma (s : String) : ∀ y ∈ (lower s).toList, y.toNat ≠ 0x3A3 := by
  intro y hy hsigma
  have hfix := lowerChars_fixed s.toList [] y (by rwa [← lower_toList])
  have hy : y = Char.ofNat 0x3A3 := by rw [← hsigma, Char.ofNat_toNat]
  rw [hy] at hfix
  exact absurd hfix (by decide)

/-- A lowercase text is lowercased to itself, character by character. -/
theorem flatMap_lowerChar_lower (s : String) : (lower s).toList.flatMap lowerChar = (lower s).toList := by
  have hfix : ∀ y ∈ (lower s).toList, lowerChar y = [y] := by
    rw [lower_toList]
    exact lowerChars_fixed s.toList []
  rw [List.flatMap_congr hfix, List.flatMap_singleton']

/-- A text without the capital sigma character has no code point `3A3`. -/
theorem noSigma_of_not_mem {q : String} (h : 'Σ' ∉ q.toList) : ∀ c ∈ q.toList, c.toNat ≠ 0x3A3 := by
  intro c hc hsigma
  have hc' : c = 'Σ' := by rw [← Char.ofNat_toNat c, hsigma]
  exact h (hc' ▸ hc)

end Text

namespace Service

variable {σ : Type} (sv : Service (StateM σ)) (s : σ)

/-- The search is read off the listing the retry run returns. -/
theorem searchByName_run (query : String) :
    ((sv.searchByName query).run s).1 =
      (sv.allEmployees.run s).1.bind fun es =>
        match matching query es with
        | [] => .error (.notFound ("No employees found with name containing: " ++ query))
        | hits => .ok hits := by
  rw [searchByName, run_bind]
  cases (sv.allEmployees.run s).1 with
  | error f => rfl
  | ok es =>
    dsimp only [Except.bind]
    cases matching query es <;> rfl

/-- Over a listing the retry run serves, the search answers with the matches,
or is not found when there are none. -/
theorem searchByName_of_listing {L : List Employee} (query : String)
    (hL : (sv.allEmployees.run s).1 = .ok L) :
    ((sv.searchByName query).run s).1 =
      if matching query L = [] then .error (.notFound ("No employees found with name containing: " ++ query))
      else .ok (matching query L) := by
  rw [searchByName_run, hL]
  dsimp only [Except.bind]
  split
  · next hnil => rw [hnil, if_pos rfl]
  · next hits hne => rw [if_neg (by simpa using hne)]

/-- The matches are the employees whose lowercased name has the lowercased
query as a contiguous piece. -/
theorem matching_eq_filter (query : String) (es : List Employee) :
    matching query es =
      es.filter fun e => decide ((Text.lower query).toList <:+: (Text.lower e.name).toList) := by
  unfold matching
  dsimp only
  congr 1
  funext e
  rw [Bool.eq_iff_iff, decide_eq_true_iff, Text.occursIn_iff_isInfix]

/-- **Search by name.** Over a listing `L`, the search returns the employees
of `L`, in listing order, whose lowercased name holds the lowercased query as
a contiguous piece, and is not found exactly when there are none. Every
employee whose name holds the lowercased query literally is returned, and so
is every one whose name holds the query itself when the query has no capital
sigma. -/
theorem searchByName_returns_matches (L : List Employee) (q : String)
    (hL : (sv.allEmployees.run s).1 = .ok L) :
    ((sv.searchByName q).run s).1 =
        (if L.filter (fun e => decide ((Text.lower q).toList <:+: (Text.lower e.name).toList)) = []
          then .error (.notFound ("No employees found with name containing: " ++ q))
          else .ok (L.filter fun e => decide ((Text.lower q).toList <:+: (Text.lower e.name).toList))) ∧
      (∀ e ∈ L, (Text.lower q).toList <:+: e.name.toList →
        e ∈ L.filter fun e => decide ((Text.lower q).toList <:+: (Text.lower e.name).toList)) ∧
      (∀ e ∈ L, 'Σ' ∉ q.toList → q.toList <:+: e.name.toList →
        e ∈ L.filter fun e => decide ((Text.lower q).toList <:+: (Text.lower e.name).toList)) := by
  refine ⟨by rw [searchByName_of_listing sv s q hL, matching_eq_filter], ?_, ?_⟩
  · -- the lowercased query is its own lowercase and holds no capital sigma
    intro e he hlit
    have hpiece := Text.flatMap_lowerChar_infix_lower (Text.lower_noSigma q) hlit
    rw [Text.flatMap_lowerChar_lower] at hpiece
    exact List.mem_filter.mpr ⟨he, decide_eq_true hpiece⟩
  · intro e he hsigma hlit
    have hq := Text.noSigma_of_not_mem hsigma
    have hpiece := Text.flatMap_lowerChar_infix_lower hq hlit
    rw [← Text.lower_toList_of_noSigma hq] at hpiece
    exact List.mem_filter.mpr ⟨he, decide_eq_true hpiece⟩

/-- Two employees listed by the in-memory upstream; the search for `ann`
finds the one whose name holds it in another case. -/
theorem searchByName_returns_matches_ann :
    let ann : Employee := ⟨"e1", "Ann Lee", 10, none, none, none, by decide⟩
    let bo : Employee := ⟨"e2", "Bo", 20, none, none, none, by decide⟩
    let s : Sandbox := ⟨{ Memory.empty with employees := [ann, bo] }, []⟩
    let sv := Sandbox.service Policy.standard
    (sv.allEmployees.run s).1 = .ok [ann, bo] ∧
      (((sv.searchByName "ann").run s).1 =
          (if [ann, bo].filter (fun e => decide ((Text.lower "ann").toList <:+: (Text.lower e.name).toList)) = []
            then .error (.notFound ("No employees found with name containing: " ++ "ann"))
            else .ok ([ann, bo].filter fun e => decide ((Text.lower "ann").toList <:+: (Text.lower e.name).toList))) ∧
        (∀ e ∈ [ann, bo], (Text.lower "ann").toList <:+: e.name.toList →
          e ∈ [ann, bo].filter fun e => decide ((Text.lower "ann").toList <:+: (Text.lower e.name).toList)) ∧
        (∀ e ∈ [ann, bo], 'Σ' ∉ "ann".toList → "ann".toList <:+: e.name.toList →
          e ∈ [ann, bo].filter fun e => decide ((Text.lower "ann").toList <:+: (Text.lower e.name).toList))) := by
  intro ann bo s sv
  have hL : (sv.allEmployees.run s).1 = .ok [ann, bo] := rfl
  exact ⟨hL, searchByName_returns_matches sv s _ "ann" hL⟩

/-- The query itself, with a capital sigma, and the uppercase of a query can
occur literally in a name the search does not return: `ΑΣ` holds `Σ`, and
`SS` holds the uppercase of `ß`. -/
theorem searchByName_misses_sigma_and_upper :
    let alpha : Employee := ⟨"e1", "ΑΣ", 1, none, none, none, by decide⟩
    let esses : Employee := ⟨"e2", "SS", 1, none, none, none, by decide⟩
    let sv := Sandbox.service Policy.standard
    "Σ".toList <:+: alpha.name.toList ∧
      ((sv.searchByName "Σ").run ⟨{ Memory.empty with employees := [alpha] }, []⟩).1 =
        .error (.notFound "No employees found with name containing: Σ") ∧
      (Text.upper "ß").toList <:+: esses.name.toList ∧
      ((sv.searchByName "ß").run ⟨{ Memory.empty with employees := [esses] }, []⟩).1 =
        .error (.notFound "No employees found with name containing: ß") := by
  intro alpha esses sv
  -- the listing is served as it is, and neither lowercased name holds the lowercased query
  have hα : (sv.allEmployees.run ⟨{ Memory.empty with employees := [alpha] }, []⟩).1 = .ok [alpha] := rfl
  have hs : (sv.allEmployees.run ⟨{ Memory.empty with employees := [esses] }, []⟩).1 = .ok [esses] := rfl
  have hαmiss : (matching "Σ" [alpha]).isEmpty = true := by decide +kernel
  have hsmiss : (matching "ß" [esses]).isEmpty = true := by decide +kernel
  refine ⟨by decide, ?_, by decide, ?_⟩
  · rw [searchByName_of_listing sv _ "Σ" hα, if_pos (List.isEmpty_iff.mp hαmiss)]
    rfl
  · rw [searchByName_of_listing sv _ "ß" hs, if_pos (List.isEmpty_iff.mp hsmiss)]
    rfl

end Service

end EmployeeGateway
