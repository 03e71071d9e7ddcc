import EmployeeGateway.Proofs.TopEarners

/-!
# The highest salary and the head of the ranking

`Service.highestSalary` folds the listing with `max`; `Service.topTenNames`
sorts it stably by salary, highest first. The two read the same ranking head
by different routes, and they agree:

* the fold is the greatest salary of the listing (`topSalary_eq_max?`);
* the employee the ranking puts first is the earliest one of the listing
  earning that salary: it ranks before every other tagged employee
  (`earliestTop_ranksBefore`), and a strictly ordered list starts with the
  element that ranks before all the others (`head?_of_ranksBefore_all`).

The main statement is `Service.highestSalary_agrees_with_topTenNames`: over
a listing `L` served to both operations, an empty `L` gives the not-found
fault on one side and no names on the other; otherwise the highest salary is
the maximum of `L`'s salaries and the first name is that of the earliest
employee of `L` who earns it.
-/

namespace EmployeeGateway

namespace Service

/-! ## The greatest salary -/

/-- The fold of `topSalary` is the maximum of the listing's salaries. -/
theorem topSalary_eq_max? (es : List Employee) : topSalary es = (es.map (·.salary)).max? := by
  cases es with
  | nil => rfl
  | cons e es => simp only [topSalary, List.map_cons, List.max?_cons', List.foldl_map]

section Runs

variable {σ : Type} (sv : Service (StateM σ)) (s : σ)

/-- Over a listing the retry run serves, the highest salary is the greatest
salary of the listing, or is not found when the listing is empty. -/
theorem highestSalary_of_listing {L : List Employee} (hL : (sv.allEmployees.run s).1 = .ok L) :
    (sv.highestSalary.run s).1 =
      match (L.map (·.salary)).max? with
      | some n => .ok n
      | none => .error (.notFound "No employees found to determine highest salary") := by
  rw [highestSalary, run_bind, hL, ← topSalary_eq_max?]
  dsimp only [Except.bind]
  cases topSalary L <;> rfl

end Runs

/-! ## The head of the ranking -/

/-- A list strictly ordered by the ranking starts with the element that ranks
before every other one. -/
theorem head?_of_ranksBefore_all {R : List (Employee × Nat)} {a : Employee × Nat}
    (hrank : R.Pairwise RanksBefore) (ha : a ∈ R) (hall : ∀ b ∈ R, b ≠ a → RanksBefore a b) :
    R.head? = some a := by
  cases R with
  | nil => cases ha
  | cons b R =>
    by_cases hba : b = a
    · rw [hba]; rfl
    · -- `a` lies further on, so `b` ranks before it and it before `b`
      have haR : a ∈ R := (List.mem_cons.mp ha).resolve_left (Ne.symm hba)
      have hb_a : RanksBefore b a := (List.pairwise_cons.mp hrank).1 a haR
      exact absurd (hall b List.mem_cons_self hba) hb_a.asymm

/-- The earliest employee earning the greatest salary `top`, tagged with its
position, ranks before every other tagged employee of the listing. -/
theorem earliestTop_ranksBefore {L : List Employee} {top : Int} {e : Employee}
    (hmax : ∀ x ∈ L, x.salary ≤ top) (hfind : L.find? (·.salary == top) = some e) :
    ∃ i, (e, i) ∈ L.zipIdx ∧ ∀ b ∈ L.zipIdx, b ≠ (e, i) → RanksBefore (e, i) b := by
  obtain ⟨he, as, bs, rfl, hbefore⟩ := List.find?_eq_some_iff_append.mp hfind
  have htop : e.salary = top := by simpa using he
  have hzip : (as ++ e :: bs).zipIdx = as.zipIdx ++ (e, as.length) :: bs.zipIdx (as.length + 1) := by
    rw [List.zipIdx_append, List.zipIdx_cons, Nat.zero_add]
  refine ⟨as.length, by simp [hzip], ?_⟩
  intro b hb hne
  obtain ⟨x, j⟩ := b
  have hx : x.salary ≤ top := hmax x (List.fst_mem_of_mem_zipIdx hb)
  unfold RanksBefore
  dsimp only
  rw [hzip, List.mem_append, List.mem_cons] at hb
  rcases hb with hb | hb | hb
  · -- before the earliest top earner nobody earns `top`
    have hlow : x.salary ≠ top := by
      simpa using hbefore x (List.fst_mem_of_mem_zipIdx hb)
    left
    omega
  · exact absurd hb hne
  · -- after it every position is larger
    have hj : as.length + 1 ≤ j := List.le_snd_of_mem_zipIdx hb
    omega

/-- The stable sort by salary starts with the earliest employee earning the
greatest salary. -/
theorem bySalary_head? {L : List Employee} {top : Int}
    (hmax : (L.map (·.salary)).max? = some top) :
    (bySalary L).head? = L.find? (·.salary == top) := by
  obtain ⟨htop_mem, htop_ge⟩ := List.max?_eq_some_iff.mp hmax
  have hle : ∀ x ∈ L, x.salary ≤ top := fun x hx => htop_ge _ (List.mem_map_of_mem hx)
  obtain ⟨e, hfind⟩ : ∃ e, L.find? (·.salary == top) = some e := by
    obtain ⟨x, hx, hxtop⟩ := List.mem_map.mp htop_mem
    exact Option.isSome_iff_exists.mp (List.find?_isSome.mpr ⟨x, hx, by simpa using hxtop⟩)
  obtain ⟨R, hperm, hrank⟩ := ranking_exists L
  obtain ⟨i, hmem, hall⟩ := earliestTop_ranksBefore hle hfind
  have hhead : R.head? = some (e, i) :=
    head?_of_ranksBefore_all hrank (hperm.mem_iff.mpr hmem)
      fun b hb hne => hall b (hperm.mem_iff.mp hb) hne
  rw [bySalary_eq_ranking hperm hrank, List.head?_map, hhead, hfind]
  rfl

/-! ## The two operations -/

/-- **The highest salary and the top earners agree.** Over a listing `L`
that the retry run serves to both operations: when `L` is empty the highest
salary is not found and there are no top earners; otherwise the highest
salary is the greatest salary of `L`, and the first top earner's name is
that of the earliest employee of `L` who earns it. -/
theorem highestSalary_agrees_with_topTenNames {σ : Type} (sv : Service (StateM σ)) (s t : σ)
    (L : List Employee) (hs : (sv.allEmployees.run s).1 = .ok L)
    (ht : (sv.allEmployees.run t).1 = .ok L) :
    (L = [] →
      (sv.highestSalary.run s).1 = .error (.notFound "No employees found to determine highest salary") ∧
        (sv.topTenNames.run t).1 = .ok []) ∧
    (L ≠ [] → ∃ top, (L.map (·.salary)).max? = some top ∧
      (sv.highestSalary.run s).1 = .ok top ∧
      ∃ names, (sv.topTenNames.run t).1 = .ok names ∧
        names.head? = (L.find? (·.salary == top)).map (·.name)) := by
  have hhigh := highestSalary_of_listing sv s hs
  have htopTen : (sv.topTenNames.run t).1 = .ok (((bySalary L).take topLimit).map (·.name)) := by
    rw [topTenNames_run, ht]
    rfl
  refine ⟨?_, ?_⟩
  · rintro rfl
    refine ⟨hhigh, ?_⟩
    rw [htopTen, bySalary, List.mergeSort_nil]
    rfl
  · intro hne
    obtain ⟨top, hmax⟩ : ∃ top, (L.map (·.salary)).max? = some top :=
      Option.isSome_iff_exists.mp (List.isSome_max?_of_ne_nil (by simpa using hne))
    refine ⟨top, hmax, by rw [hhigh, hmax], _, htopTen, ?_⟩
    rw [← bySalary_head? hmax, List.head?_map, List.head?_take]
    rfl

/-- Three employees, the two best paid tied, served by the in-memory
upstream to both operations: the highest salary is the tie's, and the first
top earner is the earlier of the two. -/
theorem highestSalary_agrees_with_topTenNames_tie :
    let al : Employee := ⟨"e1", "Al", 5, none, none, none, by decide⟩
    let bo : Employee := ⟨"e2", "Bo", 7, none, none, none, by decide⟩
    let cy : Employee := ⟨"e3", "Cy", 7, none, none, none, by decide⟩
    let s : Sandbox := ⟨{ Memory.empty with employees := [al, bo, cy] }, []⟩
    let sv := Sandbox.service Policy.standard
    (sv.allEmployees.run s).1 = .ok [al, bo, cy] ∧ (sv.allEmployees.run s).1 = .ok [al, bo, cy] ∧
      ((([al, bo, cy] = [] →
        (sv.highestSalary.run s).1 = .error (.notFound "No employees found to determine highest salary") ∧
          (sv.topTenNames.run s).1 = .ok []) ∧
      ([al, bo, cy] ≠ [] → ∃ top, ([al, bo, cy].map (·.salary)).max? = some top ∧
        (sv.highestSalary.run s).1 = .ok top ∧
        ∃ names, (sv.topTenNames.run s).1 = .ok names ∧
          names.head? = ([al, bo, cy].find? (·.salary == top)).map (·.name)))) := by
  intro al bo cy s sv
  have hL : (sv.allEmployees.run s).1 = .ok [al, bo, cy] := rfl
  exact ⟨hL, hL, highestSalary_agrees_with_topTenNames sv s s _ hL hL⟩

end Service

end EmployeeGateway
