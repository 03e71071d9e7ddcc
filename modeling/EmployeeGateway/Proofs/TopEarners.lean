import EmployeeGateway.Service
import EmployeeGateway.Sandbox

/-!
# The top earners

`Service.topTenNames` sorts the listing by salary, highest first, and keeps
the names of the first ten. The sort is stable, so its order is the ranking
of the listing's employees, each tagged with its position, by the key
(salary descending, position ascending): `RanksBefore`. That key is strict
and total on a tagged listing, so every listing has exactly one ranking
(`ranking_exists`, `ranking_unique`), and the sort is that ranking with the
tags dropped (`bySalary_eq_ranking`).

The main statement is `Service.topTenNames_ranked`: the names returned are
those of the first `min 10 n` ranked employees of the listing the retry run
returned; with those left out they make up the listing, each occurrence once;
nobody left out earns more than anybody listed; and equal salaries keep
listing order.
-/

namespace EmployeeGateway

/-- Employee `a` (at position `a.2` of a listing) ranks before `b`: `a` earns
more, or they earn the same and `a` comes first. -/
def RanksBefore (a b : Employee × Nat) : Prop :=
  b.1.salary < a.1.salary ∨ (a.1.salary = b.1.salary ∧ a.2 < b.2)

instance : DecidableRel RanksBefore := fun _ _ => inferInstanceAs (Decidable (_ ∨ _))

theorem RanksBefore.asymm {a b : Employee × Nat} (hab : RanksBefore a b) : ¬ RanksBefore b a := by
  unfold RanksBefore at *
  omega

namespace Service

/-! ## The sort of the listing -/

/-- The comparison `bySalary` sorts with: `a` earns at least as much as `b`. -/
def earnsAtLeast (a b : Employee) : Bool := decide (b.salary ≤ a.salary)

theorem bySalary_eq_mergeSort (es : List Employee) : bySalary es = es.mergeSort earnsAtLeast := rfl

theorem earnsAtLeast_trans (a b c : Employee) (hab : earnsAtLeast a b) (hbc : earnsAtLeast b c) :
    earnsAtLeast a c := by
  simp only [earnsAtLeast, decide_eq_true_eq] at *
  omega

theorem earnsAtLeast_total (a b : Employee) : earnsAtLeast a b || earnsAtLeast b a := by
  simp only [earnsAtLeast, Bool.or_eq_true, decide_eq_true_eq]
  omega

/-- The order the stable sort keeps, with ties broken by position, is the
ranking once positions differ. -/
theorem ranksBefore_of_zipIdxLE {a b : Employee × Nat} (h : List.zipIdxLE earnsAtLeast a b)
    (hne : a.2 ≠ b.2) : RanksBefore a b := by
  unfold List.zipIdxLE earnsAtLeast at h
  unfold RanksBefore
  split at h
  · next hab =>
    split at h
    · next hba =>
      simp only [decide_eq_true_eq] at h hab hba
      omega
    · next hba =>
      simp only [decide_eq_true_eq] at hab hba
      omega
  · cases h

/-- The positions of a tagged listing are all different. -/
theorem zipIdx_pairwise_snd_ne (es : List Employee) :
    es.zipIdx.Pairwise fun a b => a.2 ≠ b.2 := by
  have hnodup : (es.zipIdx.map Prod.snd).Nodup := by
    rw [List.zipIdx_map_snd]
    exact List.nodup_range'
  exact List.pairwise_map.mp hnodup

/-! ## The ranking of a listing -/

/-- The tagged listing sorted stably by salary is a ranking of the listing. -/
theorem ranking_of_mergeSort (es : List Employee) :
    (es.zipIdx.mergeSort (List.zipIdxLE earnsAtLeast)).Perm es.zipIdx ∧
      (es.zipIdx.mergeSort (List.zipIdxLE earnsAtLeast)).Pairwise RanksBefore := by
  have hperm := List.mergeSort_perm es.zipIdx (List.zipIdxLE earnsAtLeast)
  have hsorted := List.pairwise_mergeSort (List.zipIdxLE_trans earnsAtLeast_trans)
    (List.zipIdxLE_total earnsAtLeast_total) es.zipIdx
  -- positions stay different after the sort, which turns ties into strict ranks
  have hne := (zipIdx_pairwise_snd_ne es).perm hperm.symm fun h => Ne.symm h
  exact ⟨hperm, (hsorted.and hne).imp fun h => ranksBefore_of_zipIdxLE h.1 h.2⟩

/-- Every listing has a ranking. -/
theorem ranking_exists (es : List Employee) :
    ∃ R : List (Employee × Nat), R.Perm es.zipIdx ∧ R.Pairwise RanksBefore :=
  ⟨_, ranking_of_mergeSort es⟩

/-- A listing has at most one ranking. -/
theorem ranking_unique {es : List Employee} {R R' : List (Employee × Nat)}
    (hperm : R.Perm es.zipIdx) (hrank : R.Pairwise RanksBefore)
    (hperm' : R'.Perm es.zipIdx) (hrank' : R'.Pairwise RanksBefore) : R = R' :=
  List.Perm.eq_of_pairwise (fun _ _ _ _ hab hba => absurd hba hab.asymm) hrank hrank'
    (hperm.trans hperm'.symm)

/-- The sort by salary is the ranking with the positions dropped. -/
theorem bySalary_eq_ranking {es : List Employee} {R : List (Employee × Nat)}
    (hperm : R.Perm es.zipIdx) (hrank : R.Pairwise RanksBefore) :
    bySalary es = R.map Prod.fst := by
  obtain ⟨hperm', hrank'⟩ := ranking_of_mergeSort es
  rw [bySalary_eq_mergeSort, ← List.mergeSort_zipIdx, ranking_unique hperm' hrank' hperm hrank]

/-! ## The first ones of a ranking -/

section Top

variable {es : List Employee} {R : List (Employee × Nat)} (n : Nat)

/-- The first `n` of a ranking are `min n` of the listing's employees, and
with the ones after them they are the listing, each occurrence once. -/
theorem ranking_take_drop_perm (hperm : R.Perm es.zipIdx) :
    (R.take n).length = min n es.length ∧
      ((R.take n).map Prod.fst ++ (R.drop n).map Prod.fst).Perm es := by
  refine ⟨by rw [List.length_take, hperm.length_eq, List.length_zipIdx], ?_⟩
  rw [← List.map_append, List.take_append_drop]
  simpa [List.zipIdx_map_fst] using hperm.map Prod.fst

/-- Nobody after the first `n` of a ranking earns more than any of them. -/
theorem ranking_drop_le_take (hrank : R.Pairwise RanksBefore) :
    ∀ a ∈ R.drop n, ∀ b ∈ R.take n, a.1.salary ≤ b.1.salary := by
  rw [← List.take_append_drop n R, List.pairwise_append] at hrank
  intro a ha b hb
  have hba := hrank.2.2 b hb a ha
  unfold RanksBefore at hba
  omega

/-- Among the first `n` of a ranking, equal salaries keep listing order. -/
theorem ranking_take_ties (hrank : R.Pairwise RanksBefore) :
    (R.take n).Pairwise fun a b => a.1.salary = b.1.salary → a.2 < b.2 :=
  (hrank.sublist (List.take_sublist n R)).imp fun hab heq => by
    unfold RanksBefore at hab
    omega

end Top

/-! ## The operation -/

/-- **The top earners.** When the listing run returns `L`, and `R` is the
ranking of `L` (its employees tagged with their positions, ordered by salary
descending, then position), the operation returns the names of the first
`min 10 |L|` of `R`; these employees and the ones left out are `L`, each
occurrence once, nobody left out earns more than anybody listed, and listed
employees with equal salaries appear in listing order. -/
theorem topTenNames_ranked {σ : Type} (sv : Service (StateM σ)) (s : σ) (L : List Employee)
    (hL : (sv.allEmployees.run s).1 = .ok L) (R : List (Employee × Nat))
    (hperm : R.Perm L.zipIdx) (hrank : R.Pairwise RanksBefore) :
    (sv.topTenNames.run s).1 = .ok ((R.take 10).map (·.1.name)) ∧
      (R.take 10).length = min 10 L.length ∧
      ((R.take 10).map Prod.fst ++ (R.drop 10).map Prod.fst).Perm L ∧
      (∀ a ∈ R.drop 10, ∀ b ∈ R.take 10, a.1.salary ≤ b.1.salary) ∧
      (R.take 10).Pairwise (fun a b => a.1.salary = b.1.salary → a.2 < b.2) := by
  have hnames : (sv.topTenNames.run s).1 = .ok ((R.take 10).map (·.1.name)) := by
    rw [topTenNames_run, hL]
    show Except.ok (((bySalary L).take topLimit).map (·.name)) = _
    rw [bySalary_eq_ranking hperm hrank, ← List.map_take, List.map_map]
    rfl
  obtain ⟨hlen, hsub⟩ := ranking_take_drop_perm 10 hperm
  exact ⟨hnames, hlen, hsub, ranking_drop_le_take 10 hrank, ranking_take_ties 10 hrank⟩

/-- Three employees, two of them tied at the top, served by the in-memory
upstream: the ranking puts the tie first in listing order. -/
theorem topTenNames_ranked_tie :
    let al : Employee := ⟨"e1", "Al", 1, none, none, none, by decide⟩
    let bo : Employee := ⟨"e2", "Bo", 3, none, none, none, by decide⟩
    let cy : Employee := ⟨"e3", "Cy", 3, none, none, none, by decide⟩
    let s : Sandbox := ⟨{ Memory.empty with employees := [al, bo, cy] }, []⟩
    let R := [(bo, 1), (cy, 2), (al, 0)]
    ((Sandbox.service Policy.standard).allEmployees.run s).1 = .ok [al, bo, cy] ∧
      R.Perm [al, bo, cy].zipIdx ∧ R.Pairwise RanksBefore ∧
      ((Sandbox.service Policy.standard).topTenNames.run s).1 = .ok ["Bo", "Cy", "Al"] := by
  intro al bo cy s R
  have hL : ((Sandbox.service Policy.standard).allEmployees.run s).1 = .ok [al, bo, cy] := rfl
  have hperm : R.Perm [al, bo, cy].zipIdx := by
    show List.Perm ([(bo, 1), (cy, 2)] ++ [(al, 0)]) ((al, 0) :: ([(bo, 1), (cy, 2)] ++ []))
    exact List.perm_middle
  have hrank : R.Pairwise RanksBefore := by decide
  exact ⟨hL, hperm, hrank, (topTenNames_ranked _ s _ hL R hperm hrank).1⟩

end Service

end EmployeeGateway
