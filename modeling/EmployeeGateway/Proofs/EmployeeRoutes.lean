import EmployeeGateway.Http.Route

/-!
# Where the employee paths are routed

The route table is tried in order, and a request goes to the first route whose
pattern captures its path and whose methods include its method. For every
non-empty segment `s` without `/`:

* a `GET` of `/api/v1/employee/s` goes to the employee with id `s`, unless `s`
  names one of the two fixed employee paths, `highestSalary` or
  `topTenHighestEarningEmployeeNames`, which are tried first. A fixed path
  also matches itself followed by one line feed, so `highestSalary\n` and
  `topTenHighestEarningEmployeeNames\n` go to the fixed endpoints too
  (`get_fixed_path_newline`);
* a `DELETE` of `/api/v1/employee/s` goes to the removal of `s` for every `s`,
  the two fixed names included: no route before the removal takes a `DELETE`;
* a `GET` of `/api/v1/employee/search/s` goes to the search for `s`.

The main statement is `employee_paths_dispatch`. It rests on what each kind of
pattern captures of a path `p ++ s` (`capture?_fixed_of_not_prefix`,
`capture?_fixed_extend`, `capture?_segment_append`, `capture?_segment_extend`)
and on how `fullMatch` passes over a route that does not fully match and
takes a fixed or parameter route after a shared prefix
(`fullMatch_cons_fixed_extend`, `fullMatch_cons_segment`).
-/

namespace EmployeeGateway

namespace PathPattern

/-! ## What a pattern captures after a prefix -/

/-- A fixed pattern captures exactly itself and itself followed by a line feed. -/
theorem capture?_fixed (f path : String) :
    (fixed f).capture? path = if path = f ∨ path = f ++ "\n" then some "" else none := by
  simp [capture?]

theorem append_ne_of_not_prefix {p f : String} (s : String) (h : ¬p.toList <+: f.toList) :
    p ++ s ≠ f := by
  intro heq
  apply h
  rw [← heq, String.toList_append]
  exact List.prefix_append _ _

/-- A fixed path that does not start with `p` captures nothing that does. -/
theorem capture?_fixed_of_not_prefix {p f : String} (s : String) (h : ¬p.toList <+: f.toList)
    (hn : ¬p.toList <+: (f ++ "\n").toList) : (fixed f).capture? (p ++ s) = none := by
  rw [capture?_fixed, if_neg]
  rintro (heq | heq)
  · exact append_ne_of_not_prefix s h heq
  · exact append_ne_of_not_prefix s hn heq

/-- After a shared prefix, a fixed path captures its own rest and that rest
followed by a line feed. -/
theorem capture?_fixed_extend (p t s : String) :
    (fixed (p ++ t)).capture? (p ++ s) = if s = t ∨ s = t ++ "\n" then some "" else none := by
  simp only [capture?_fixed, String.append_assoc, String.append_right_inj]

/-- A parameter segment after its prefix is captured whole when it is not
empty and holds no `/`. -/
theorem capture?_segment_append (p s : String) (hs : s ≠ "") (hslash : '/' ∉ s.toList) :
    (segment p).capture? (p ++ s) = some s := by
  have hpre : p.toList.isPrefixOf (p ++ s).toList = true := by
    rw [List.isPrefixOf_iff_prefix, String.toList_append]
    exact List.prefix_append _ _
  have hrest : (p ++ s).toList.drop p.length = s.toList := by
    rw [String.toList_append, ← String.length_toList, List.drop_left]
  have hne : s.toList.isEmpty = false := by
    rw [Bool.eq_false_iff, ne_eq, List.isEmpty_iff]
    intro h
    exact hs (String.toList_inj.mp (by simpa using h))
  have hfree : s.toList.contains '/' = false := by
    rw [Bool.eq_false_iff, ne_eq, List.contains_iff_mem]
    exact hslash
  simp only [capture?, hpre, hrest, hne, hfree, if_true, Bool.not_false, Bool.and_self,
    String.ofList_toList]

/-- A parameter pattern whose prefix goes past `p` by a text holding `/`
captures nothing after `p` that holds no `/`: its prefix would have to start
the rest, and bring its `/` with it. -/
theorem capture?_segment_extend (p t s : String) (ht : '/' ∈ t.toList) (hslash : '/' ∉ s.toList) :
    (segment (p ++ t)).capture? (p ++ s) = none := by
  have hnot : (p ++ t).toList.isPrefixOf (p ++ s).toList = false := by
    rw [Bool.eq_false_iff, ne_eq, List.isPrefixOf_iff_prefix, String.toList_append,
      String.toList_append, List.prefix_append_right_inj]
    intro hpre
    exact hslash (hpre.subset ht)
  simp only [capture?, hnot, Bool.false_eq_true, if_false]

end PathPattern

/-! ## Passing over the routes -/

section FullMatch

variable {method path : String} {r : Route} (rs : List Route)

/-- A route whose pattern does not capture the path is passed over. -/
theorem fullMatch_cons_of_capture?_none (h : r.pattern.capture? path = none) :
    fullMatch method path (r :: rs) = fullMatch method path rs := by
  simp [fullMatch, Route.fit, h]

/-- A route that does not take the method is passed over, whatever it captures. -/
theorem fullMatch_cons_of_not_method (h : r.methods.contains method = false) :
    fullMatch method path (r :: rs) = fullMatch method path rs := by
  have hm : method ∉ r.methods := by
    intro hm
    rw [List.contains_iff_mem.mpr hm] at h
    cases h
  cases hc : r.pattern.capture? path <;> simp [fullMatch, Route.fit, hc, hm]

/-- A route that takes the method and captures the path is the match. -/
theorem fullMatch_cons_of_capture? {s : String} (h : r.pattern.capture? path = some s)
    (hm : r.methods.contains method = true) :
    fullMatch method path (r :: rs) = some (r.endpoint s) := by
  simp [fullMatch, Route.fit, h, List.contains_iff_mem.mp hm]

/-- A fixed route after a shared prefix `p` is the match for `p ++ s` when `s`
is its rest, or its rest followed by a line feed, and is passed over
otherwise. -/
theorem fullMatch_cons_fixed_extend {ms : List String} {p t s : String} {e : Endpoint}
    (hm : ms.contains method = true) :
    fullMatch method (p ++ s) (⟨ms, .fixed (p ++ t), fun _ => e⟩ :: rs) =
      if s = t ∨ s = t ++ "\n" then some e else fullMatch method (p ++ s) rs := by
  by_cases h : s = t ∨ s = t ++ "\n"
  · have hc : (PathPattern.fixed (p ++ t)).capture? (p ++ s) = some "" := by
      rw [PathPattern.capture?_fixed_extend, if_pos h]
    rw [if_pos h, fullMatch_cons_of_capture? rs hc hm]
  · rw [if_neg h]
    refine fullMatch_cons_of_capture?_none rs ?_
    rw [PathPattern.capture?_fixed_extend, if_neg h]

/-- A parameter route after its prefix `p` is the match for `p ++ s`, with
`s` as the parameter, when it takes the method and `s` is a non-empty
segment without `/`. -/
theorem fullMatch_cons_segment {ms : List String} {p s : String} {f : String → Endpoint}
    (hm : ms.contains method = true) (hs : s ≠ "") (hslash : '/' ∉ s.toList) :
    fullMatch method (p ++ s) (⟨ms, .segment p, f⟩ :: rs) = some (f s) :=
  fullMatch_cons_of_capture? rs (PathPattern.capture?_segment_append p s hs hslash) hm

end FullMatch

theorem dispatch_of_fullMatch {method path : String} {e : Endpoint}
    (h : fullMatch method path Route.table = some e) : dispatch method path = .endpoint e := by
  simp [dispatch, h]

/-! ## The employee paths -/

section EmployeePaths

open PathPattern

variable (s : String) (hs : s ≠ "") (hslash : '/' ∉ s.toList)
include hs hslash

/-- The fixed employee routes are tried before the id route, each taking its
own name and that name followed by a line feed. -/
theorem dispatch_get_employee :
    dispatch "GET" (Route.employeePath ++ "/" ++ s) =
      .endpoint (if s = "highestSalary" ∨ s = "highestSalary\n" then .highestSalary
        else if s = "topTenHighestEarningEmployeeNames" ∨ s = "topTenHighestEarningEmployeeNames\n"
          then .topTenNames
        else .byId s) := by
  apply dispatch_of_fullMatch
  have hsearch : Route.employeePath ++ "/search/" = Route.employeePath ++ "/" ++ "search/" := by
    decide
  have hhigh : Route.employeePath ++ "/highestSalary" =
      Route.employeePath ++ "/" ++ "highestSalary" := by decide
  have htop : Route.employeePath ++ "/topTenHighestEarningEmployeeNames" =
      Route.employeePath ++ "/" ++ "topTenHighestEarningEmployeeNames" := by decide
  -- the routes outside the employee prefix, and the search route, capture nothing here
  simp +decide only [Route.table, hsearch, hhigh, htop, fullMatch_cons_of_capture?_none,
    capture?_fixed_of_not_prefix, capture?_segment_extend, hslash, not_false_eq_true]
  have hlf : "highestSalary" ++ "\n" = "highestSalary\n" := by decide
  have hlf' : "topTenHighestEarningEmployeeNames" ++ "\n" = "topTenHighestEarningEmployeeNames\n" := by
    decide
  rw [fullMatch_cons_fixed_extend _ (by decide), fullMatch_cons_fixed_extend _ (by decide),
    fullMatch_cons_segment _ (by decide) hs hslash, hlf, hlf', apply_ite some, apply_ite some]

theorem dispatch_delete_employee :
    dispatch "DELETE" (Route.employeePath ++ "/" ++ s) = .endpoint (.removeById s) := by
  apply dispatch_of_fullMatch
  -- no route before the removal takes a `DELETE`, whatever it captures
  simp (disch := decide) only [Route.table, fullMatch_cons_of_not_method]
  exact fullMatch_cons_segment _ (by decide) hs hslash

theorem dispatch_search_employee :
    dispatch "GET" (Route.employeePath ++ "/search/" ++ s) = .endpoint (.search s) := by
  apply dispatch_of_fullMatch
  -- every route before the search route is fixed outside the search prefix
  simp +decide only [Route.table, fullMatch_cons_of_capture?_none, capture?_fixed_of_not_prefix]
  exact fullMatch_cons_segment _ (by decide) hs hslash

end EmployeePaths

/-- **Routing of the employee paths.** For a non-empty segment `s` without
`/`: a `GET` of `employeePath/s` goes to the employee with id `s` unless `s` is
one of the two fixed employee names, alone or followed by a line feed; a
`DELETE` of it goes to the removal of `s`, whatever `s` is; and a `GET` of
`employeePath/search/s` goes to the search for `s`. -/
theorem employee_paths_dispatch (s : String) (hs : s ≠ "") (hslash : '/' ∉ s.toList) :
    dispatch "GET" (Route.employeePath ++ "/" ++ s) =
      .endpoint (if s = "highestSalary" ∨ s = "highestSalary\n" then .highestSalary
        else if s = "topTenHighestEarningEmployeeNames" ∨ s = "topTenHighestEarningEmployeeNames\n"
          then .topTenNames
        else .byId s) ∧
    dispatch "DELETE" (Route.employeePath ++ "/" ++ s) = .endpoint (.removeById s) ∧
    dispatch "GET" (Route.employeePath ++ "/search/" ++ s) = .endpoint (.search s) :=
  ⟨dispatch_get_employee s hs hslash, dispatch_delete_employee s hs hslash,
    dispatch_search_employee s hs hslash⟩

/-- The fixed name `highestSalary` is read for a `GET` and an id for a `DELETE`. -/
theorem employee_paths_dispatch_highestSalary :
    "highestSalary" ≠ "" ∧ '/' ∉ "highestSalary".toList ∧
      dispatch "GET" (Route.employeePath ++ "/" ++ "highestSalary") = .endpoint .highestSalary ∧
      dispatch "DELETE" (Route.employeePath ++ "/" ++ "highestSalary") =
        .endpoint (.removeById "highestSalary") := by
  obtain ⟨hget, hdelete, -⟩ := employee_paths_dispatch "highestSalary" (by decide) (by decide)
  exact ⟨by decide, by decide, hget, hdelete⟩

/-- A segment that is a fixed name followed by a line feed is no id for a
`GET`: it is neither fixed name exactly, yet the fixed route takes it. -/
theorem get_fixed_path_newline :
    "highestSalary\n" ≠ "" ∧ '/' ∉ "highestSalary\n".toList ∧
      "highestSalary\n" ≠ "highestSalary" ∧ "highestSalary\n" ≠ "topTenHighestEarningEmployeeNames" ∧
      dispatch "GET" (Route.employeePath ++ "/" ++ "highestSalary\n") = .endpoint .highestSalary := by
  decide

end EmployeeGateway
