/-!
# Texts that hold unpaired surrogate units

A text of the service's runtime is a sequence of code points `0`–`10FFFF`,
surrogate units (`D800`–`DFFF`) among them: `\u` escapes, UTF-16 and UTF-32
code units and the three-byte UTF-8 form of a unit all give one that is not
half of a pair. No `Char` is a surrogate unit, so a text is written as a
`String` by a code in which every code point stands for itself except 2176
that are written as two characters: the 2048 units and the 128 private-use
characters `10F000`–`10F07F` the pairs are made of. The first character of a
pair is one of the 64 leads `10F000`–`10F03F`, the second one of the 64
trails `10F040`–`10F07F`, and the paired code point of index `k` (the units
first, then the pair characters) is written `lead (k / 64)`, `trail (k % 64)`.

`Unpaired.ofPoints` writes code points so and `Unpaired.points` reads them
back. The two main statements: reading what was written gives the code points
back (`points_ofPoints`), and a written text occurs in another exactly where
its code points occur (`ofPoints_infix_iff`), since no writing starts with a
trail. Every paired code point is private use or a unit, without case, not
white space and no digit, and so are the characters of its pair, so case
mapping, trimming and splitting leave pairs whole. A text holding a unit has
no UTF-8 encoding (`Unpaired.encodable`).
-/

namespace EmployeeGateway

namespace Unpaired

/-- Is the number a surrogate unit? -/
def isUnit (u : Nat) : Bool := 0xD800 ≤ u && u ≤ 0xDFFF

/-- The first lead. -/
def leadBase : Nat := 0x10F000

/-- The first trail, just after the last lead. -/
def trailBase : Nat := 0x10F040

/-- Is the code point one of the characters pairs are made of? -/
def isPairChar (n : Nat) : Bool := leadBase ≤ n && n < leadBase + 128

/-- Is the code point written as a pair? -/
def isPaired (n : Nat) : Bool := isUnit n || isPairChar n

/-- The index of a paired code point: the units first, then the pair
characters. -/
def pairIndex (n : Nat) : Nat := if isUnit n then n - 0xD800 else n - leadBase + 0x800

/-- The paired code point of an index. -/
def ofPairIndex (k : Nat) : Nat := if k < 0x800 then 0xD800 + k else leadBase + (k - 0x800)

/-- The characters that write a code point. -/
def chars (n : Nat) : List Char :=
  if isPaired n then
    [Char.ofNat (leadBase + pairIndex n / 64), Char.ofNat (trailBase + pairIndex n % 64)]
  else [Char.ofNat n]

/-- Is the character a lead? -/
def isLead (c : Char) : Bool := leadBase ≤ c.toNat && c.toNat < trailBase

/-- Is the character a trail? -/
def isTrail (c : Char) : Bool := trailBase ≤ c.toNat && c.toNat < trailBase + 64

/-- The code point a lead and a trail write. -/
def pairPoint (lead trail : Char) : Nat :=
  ofPairIndex ((lead.toNat - leadBase) * 64 + (trail.toNat - trailBase))

/-- The code points of a written text. -/
def points : List Char → List Nat
  | [] => []
  | [c] => [c.toNat]
  | c :: d :: rest =>
    if isLead c && isTrail d then pairPoint c d :: points rest else c.toNat :: points (d :: rest)

/-- The first code point of a text that starts with `c`, and the text after
it. -/
def first (c : Char) (rest : List Char) : Nat × List Char :=
  match rest with
  | d :: rest' => if isLead c && isTrail d then (pairPoint c d, rest') else (c.toNat, rest)
  | [] => (c.toNat, [])

/-- What follows the first code point is no longer than what follows its
first character. -/
theorem first_length_le (c : Char) (rest : List Char) : (first c rest).2.length ≤ rest.length := by
  unfold first
  split
  · split
    · exact Nat.le_succ _
    · exact Nat.le_refl _
  · exact Nat.le_refl _

/-- The written text of code points. -/
def ofPoints (ns : List Nat) : List Char := ns.flatMap chars

/-- The written form of a text that holds no unit, given by its characters. -/
def ofString (s : String) : String := String.ofList (ofPoints (s.toList.map Char.toNat))

/-- Does the written text hold no unit, so that it has a UTF-8 encoding? -/
def encodable (s : String) : Bool := (points s.toList).all fun n => !isUnit n

/-! ## Reading back what was written -/

theorem isUnit_iff {n : Nat} : isUnit n = true ↔ 0xD800 ≤ n ∧ n ≤ 0xDFFF := by
  simp [isUnit]

theorem isPaired_iff {n : Nat} :
    isPaired n = true ↔ (0xD800 ≤ n ∧ n ≤ 0xDFFF) ∨ (0x10F000 ≤ n ∧ n < 0x10F080) := by
  unfold isPaired isUnit isPairChar leadBase
  simp only [Bool.or_eq_true, Bool.and_eq_true, decide_eq_true_iff]

theorem isLead_iff {c : Char} : isLead c = true ↔ 0x10F000 ≤ c.toNat ∧ c.toNat < 0x10F040 := by
  unfold isLead leadBase trailBase
  simp only [Bool.and_eq_true, decide_eq_true_iff]

theorem isTrail_iff {c : Char} : isTrail c = true ↔ 0x10F040 ≤ c.toNat ∧ c.toNat < 0x10F080 := by
  unfold isTrail trailBase
  simp only [Bool.and_eq_true, decide_eq_true_iff]

/-- A code point that is no unit is the code of its character. -/
theorem toNat_ofNat {n : Nat} (hn : n < 0x110000) (hu : ¬(0xD800 ≤ n ∧ n ≤ 0xDFFF)) :
    (Char.ofNat n).toNat = n := by
  have hv : Nat.isValidChar n := by unfold Nat.isValidChar; omega
  rw [Char.ofNat, dif_pos hv]
  rfl

theorem ofPairIndex_pairIndex {n : Nat} (h : isPaired n = true) : ofPairIndex (pairIndex n) = n := by
  have hr := isPaired_iff.mp h
  unfold ofPairIndex pairIndex leadBase
  cases hu : isUnit n with
  | true =>
    have := isUnit_iff.mp hu
    rw [if_pos rfl, if_pos (by omega)]
    omega
  | false =>
    have : ¬(0xD800 ≤ n ∧ n ≤ 0xDFFF) := by rw [← isUnit_iff, hu]; decide
    rw [if_neg Bool.false_ne_true, if_neg (show ¬n - 0x10F000 + 0x800 < 0x800 by omega)]
    omega

theorem pairIndex_lt {n : Nat} (h : isPaired n = true) : pairIndex n < 0x880 := by
  have hr := isPaired_iff.mp h
  unfold pairIndex leadBase
  cases hu : isUnit n with
  | true =>
    have := isUnit_iff.mp hu
    rw [if_pos rfl]
    omega
  | false =>
    have : ¬(0xD800 ≤ n ∧ n ≤ 0xDFFF) := by rw [← isUnit_iff, hu]; decide
    rw [if_neg Bool.false_ne_true]
    omega

/-! The characters of a pair: a lead's and a trail's code is its base plus its
index, and the two kinds do not meet. -/

theorem toNat_lead {i : Nat} (hi : i < 64) : (Char.ofNat (leadBase + i)).toNat = leadBase + i :=
  toNat_ofNat (by unfold leadBase; omega) (by unfold leadBase; omega)

theorem toNat_trail {j : Nat} (hj : j < 64) : (Char.ofNat (trailBase + j)).toNat = trailBase + j :=
  toNat_ofNat (by unfold trailBase; omega) (by unfold trailBase; omega)

theorem isLead_lead {i : Nat} (hi : i < 64) : isLead (Char.ofNat (leadBase + i)) = true := by
  rw [isLead_iff, toNat_lead hi]; unfold leadBase; omega

theorem isTrail_trail {j : Nat} (hj : j < 64) : isTrail (Char.ofNat (trailBase + j)) = true := by
  rw [isTrail_iff, toNat_trail hj]; unfold trailBase; omega

theorem isTrail_lead {i : Nat} (hi : i < 64) : isTrail (Char.ofNat (leadBase + i)) = false := by
  cases ht : isTrail (Char.ofNat (leadBase + i)) with
  | false => rfl
  | true => rw [isTrail_iff, toNat_lead hi] at ht; unfold leadBase at ht; omega

/-- A code point that is not paired is the code of its one character, which is
neither a lead nor a trail. -/
theorem single_of_not_paired {n : Nat} (hn : n < 0x110000) (hp : ¬isPaired n = true) :
    (Char.ofNat n).toNat = n ∧ isLead (Char.ofNat n) = false ∧ isTrail (Char.ofNat n) = false := by
  have hr : ¬((0xD800 ≤ n ∧ n ≤ 0xDFFF) ∨ (0x10F000 ≤ n ∧ n < 0x10F080)) := by
    rwa [← isPaired_iff]
  have hc := toNat_ofNat hn (fun h => hr (.inl h))
  refine ⟨hc, ?_, ?_⟩
  · cases hl : isLead (Char.ofNat n) with
    | false => rfl
    | true => rw [isLead_iff, hc] at hl; omega
  · cases ht : isTrail (Char.ofNat n) with
    | false => rfl
    | true => rw [isTrail_iff, hc] at ht; omega

/-- A code point is read back from its characters, whatever follows them. -/
theorem points_chars_append (n : Nat) (hn : n < 0x110000) (rest : List Char) :
    points (chars n ++ rest) = n :: points rest := by
  by_cases hp : isPaired n
  · -- the lead and the trail carry the index's quotient and remainder by 64
    have hk := pairIndex_lt hp
    have hi : pairIndex n / 64 < 64 := by omega
    have hj : pairIndex n % 64 < 64 := Nat.mod_lt _ (by decide)
    have hindex : (leadBase + pairIndex n / 64 - leadBase) * 64 +
        (trailBase + pairIndex n % 64 - trailBase) = pairIndex n := by omega
    rw [chars, if_pos hp, List.cons_append, List.cons_append, List.nil_append, points,
      if_pos (by rw [isLead_lead hi, isTrail_trail hj]; rfl), pairPoint, toNat_lead hi,
      toNat_trail hj, hindex, ofPairIndex_pairIndex hp]
  · -- a code point that stands for itself is no lead
    obtain ⟨hc, hnl, -⟩ := single_of_not_paired hn hp
    rw [chars, if_neg hp, List.cons_append, List.nil_append]
    cases rest with
    | nil => rw [points, points, hc]
    | cons d rest' => rw [points, hnl, Bool.false_and, if_neg (by decide), hc]

/-- **Reading what was written.** The code points of the written text of
code points are those code points. -/
theorem points_ofPoints (ns : List Nat) (h : ∀ n ∈ ns, n < 0x110000) : points (ofPoints ns) = ns := by
  induction ns with
  | nil => rfl
  | cons n ns ih =>
    rw [ofPoints, List.flatMap_cons, ← ofPoints, points_chars_append n (h n List.mem_cons_self),
      ih fun m hm => h m (List.mem_cons_of_mem n hm)]

/-- Every character's code is a code point. -/
theorem toNat_lt (c : Char) : c.toNat < 0x110000 := by
  have h : Nat.isValidChar c.toNat := c.valid
  unfold Nat.isValidChar at h
  omega

/-- The written form of a text without units reads back as its characters'
codes. -/
theorem points_ofString (s : String) : points (ofString s).toList = s.toList.map Char.toNat := by
  rw [ofString, String.toList_ofList, points_ofPoints]
  intro n hn
  obtain ⟨c, -, rfl⟩ := List.mem_map.mp hn
  exact toNat_lt c

/-- A written text has a UTF-8 encoding exactly when none of its code points
is a unit. -/
theorem encodable_ofPoints (ns : List Nat) (h : ∀ n ∈ ns, n < 0x110000) :
    encodable (String.ofList (ofPoints ns)) = true ↔ ∀ n ∈ ns, isUnit n = false := by
  simp [encodable, points_ofPoints ns h]

/-! ## Finding written texts

No writing starts with a trail, and a writing cut in two is a pair cut between
its lead and its trail. So where one written text occurs in another, its
first character starts a code point there, and the occurrence is one of the
code points (`ofPoints_infix_iff`). -/

theorem chars_ne_nil (n : Nat) : chars n ≠ [] := by
  unfold chars
  split <;> exact List.cons_ne_nil _ _

/-- The first character of a code point's writing is no trail. -/
theorem not_trail_of_chars_eq_cons {n : Nat} (hn : n < 0x110000) {c : Char} {rest : List Char}
    (h : chars n = c :: rest) : isTrail c = false := by
  unfold chars at h
  split at h
  · next hp =>
    -- a pair starts with its lead
    obtain ⟨rfl, -⟩ := List.cons.inj h
    exact isTrail_lead (by have := pairIndex_lt hp; omega)
  · next hp =>
    -- a code point that stands for itself lies outside the pair characters
    obtain ⟨rfl, -⟩ := List.cons.inj h
    exact (single_of_not_paired hn hp).2.2

/-- A code point's writing cut into two nonempty parts is a pair cut between
its lead and its trail. -/
theorem trail_of_chars_eq_append {n : Nat} {A C : List Char}
    (h : chars n = A ++ C) (hA : A ≠ []) (hC : C ≠ []) : ∃ t, C = [t] ∧ isTrail t = true := by
  have hA' := List.length_pos_iff.mpr hA
  have hC' := List.length_pos_iff.mpr hC
  by_cases hp : isPaired n
  · -- a pair has two characters, so each part holds one
    rw [chars, if_pos hp] at h
    have hlen := congrArg List.length h
    simp only [List.length_cons, List.length_nil, List.length_append] at hlen
    obtain ⟨a, rfl⟩ := List.length_eq_one_iff.mp (show A.length = 1 by omega)
    obtain ⟨t, rfl⟩ := List.length_eq_one_iff.mp (show C.length = 1 by omega)
    obtain ⟨-, h⟩ := List.cons.inj h
    obtain ⟨rfl, -⟩ := List.cons.inj h
    exact ⟨_, rfl, isTrail_trail (Nat.mod_lt _ (by decide))⟩
  · -- one character is not cut in two
    rw [chars, if_neg hp] at h
    have hlen := congrArg List.length h
    simp only [List.length_cons, List.length_nil, List.length_append] at hlen
    omega

section Finding

variable {xs ys : List Nat} (hx : ∀ n ∈ xs, n < 0x110000) (hy : ∀ n ∈ ys, n < 0x110000)
include hx hy

/-- A written text that starts another starts it at a code point: its code
points start the other's. -/
theorem prefix_of_ofPoints_append {B : List Char} (h : ofPoints xs ++ B = ofPoints ys) : xs <+: ys := by
  induction xs generalizing ys with
  | nil => exact List.nil_prefix
  | cons x xs ih =>
    cases ys with
    | nil =>
      rw [ofPoints, List.flatMap_cons, List.append_assoc] at h
      exact absurd (List.append_eq_nil_iff.mp h).1 (chars_ne_nil x)
    | cons y ys =>
      -- reading both sides back gives the same first code point
      have hxy : x = y := by
        have hp := congrArg points h
        rw [ofPoints, List.flatMap_cons, List.append_assoc, points_chars_append x (hx x List.mem_cons_self),
          ofPoints, List.flatMap_cons, points_chars_append y (hy y List.mem_cons_self)] at hp
        exact (List.cons.inj hp).1
      subst hxy
      rw [ofPoints, ofPoints, List.flatMap_cons, List.flatMap_cons, List.append_assoc,
        List.append_cancel_left_eq] at h
      exact (List.prefix_cons_inj x).mpr
        (ih (fun n hn => hx n (List.mem_cons_of_mem x hn)) (fun n hn => hy n (List.mem_cons_of_mem x hn)) h)

/-- An occurrence of a written text in another is an occurrence of its code
points. -/
theorem infix_of_ofPoints_eq {A B : List Char} (h : ofPoints ys = A ++ ofPoints xs ++ B) : xs <:+: ys := by
  induction ys generalizing A with
  | nil =>
    -- only the empty text occurs in the empty text
    have : ofPoints xs = [] := by
      have h' : A ++ ofPoints xs ++ B = [] := h.symm
      rw [List.append_eq_nil_iff, List.append_eq_nil_iff] at h'
      exact h'.1.2
    cases xs with
    | nil => exact List.nil_infix
    | cons x _ =>
      rw [ofPoints, List.flatMap_cons, List.append_eq_nil_iff] at this
      exact absurd this.1 (chars_ne_nil x)
  | cons y ys ih =>
    have hy' : ∀ n ∈ ys, n < 0x110000 := fun n hn => hy n (List.mem_cons_of_mem y hn)
    rw [ofPoints, List.flatMap_cons, ← ofPoints, List.append_assoc, List.append_eq_append_iff] at h
    rcases h with ⟨A', hA, hrest⟩ | ⟨C, hy0, hrest⟩
    · -- the occurrence starts after the first code point
      subst hA
      have := ih hy' (A := A') (by rw [hrest, List.append_assoc])
      exact List.infix_cons this
    · by_cases hA : A = []
      · -- the occurrence starts with the text
        subst hA
        have hstart : ofPoints xs ++ B = ofPoints (y :: ys) :=
          calc ofPoints xs ++ B = C ++ ofPoints ys := hrest
            _ = chars y ++ ofPoints ys := by rw [hy0, List.nil_append]
            _ = ofPoints (y :: ys) := by simp only [ofPoints, List.flatMap_cons]
        exact (prefix_of_ofPoints_append hx hy hstart).isInfix
      · by_cases hC : C = []
        · -- the occurrence starts just after the first code point
          subst hC
          have := prefix_of_ofPoints_append hx hy' (B := B) (by simpa using hrest)
          exact List.infix_cons this.isInfix
        · -- the occurrence would start at the trail of a pair
          obtain ⟨t, rfl, ht⟩ := trail_of_chars_eq_append hy0 hA hC
          cases xs with
          | nil => exact List.nil_infix
          | cons x xs =>
            obtain ⟨c, rest, hc⟩ : ∃ c rest, chars x = c :: rest := by
              cases h' : chars x with
              | nil => exact absurd h' (chars_ne_nil x)
              | cons c rest => exact ⟨c, rest, rfl⟩
            rw [ofPoints, List.flatMap_cons, hc, List.cons_append, List.cons_append, List.singleton_append] at hrest
            have hfirst := not_trail_of_chars_eq_cons (hx x List.mem_cons_self) hc
            rw [(List.cons.inj hrest).1, ht] at hfirst
            cases hfirst

/-- **Finding written texts.** A written text occurs in another exactly
where its code points occur in the other's. -/
theorem ofPoints_infix_iff : ofPoints xs <:+: ofPoints ys ↔ xs <:+: ys := by
  constructor
  · intro h
    obtain ⟨A, B, h⟩ := h
    exact infix_of_ofPoints_eq hx hy h.symm
  · intro h
    obtain ⟨A, B, rfl⟩ := h
    exact ⟨ofPoints A, ofPoints B, by simp [ofPoints]⟩

end Finding

end Unpaired

end EmployeeGateway
