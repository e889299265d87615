/-!
# Sets of names

A set of names is kept as its members in ascending order, by code points.  Main statements: insertion
adds its name and nothing else, and sets with the same members are the same.
-/

namespace Interception

/-- A finite set of names. -/
structure NameSet where
  names : List String
  ascending : names.Pairwise (· < ·)

namespace NameSet

/-- The set without members. -/
def empty : NameSet := ⟨[], List.Pairwise.nil⟩

/-- Puts a name in its place among ascending names, unless it is there. -/
def place (name : String) : List String → List String
  | [] => [name]
  | first :: others =>
    if name < first then name :: first :: others
    else if name = first then first :: others
    else first :: place name others

@[simp] theorem mem_place {name other : String} {names : List String} :
    other ∈ place name names ↔ other = name ∨ other ∈ names := by
  induction names with
  | nil => simp [place]
  | cons first others ih =>
    unfold place
    by_cases hlt : name < first
    · simp [hlt]
    · by_cases heq : name = first
      · simp [heq]
      · simp only [if_neg hlt, if_neg heq, List.mem_cons, ih]
        constructor
        · rintro (h | h | h) <;> simp [h]
        · rintro (h | h | h) <;> simp [h]

theorem ascending_place {name : String} {names : List String}
    (h : names.Pairwise (· < ·)) : (place name names).Pairwise (· < ·) := by
  induction names with
  | nil => simp [place]
  | cons first others ih =>
    obtain ⟨hfirst, hothers⟩ := List.pairwise_cons.1 h
    unfold place
    by_cases hlt : name < first
    · rw [if_pos hlt, List.pairwise_cons]
      refine ⟨?_, h⟩
      intro other hother
      rcases List.mem_cons.1 hother with rfl | hother
      · exact hlt
      · exact String.lt_trans hlt (hfirst other hother)
    · rw [if_neg hlt]
      by_cases heq : name = first
      · rwa [if_pos heq]
      · rw [if_neg heq, List.pairwise_cons]
        refine ⟨?_, ih hothers⟩
        intro other hother
        rcases mem_place.1 hother with rfl | hother
        · -- neither smaller nor equal, so larger
          have hle : first ≤ other := String.not_lt.1 hlt
          exact Decidable.byContradiction fun hnot =>
            heq (String.le_antisymm (String.not_lt.1 hnot) hle)
        · exact hfirst other hother

/-- The set with one more name. -/
def insert (set : NameSet) (name : String) : NameSet :=
  ⟨place name set.names, ascending_place set.ascending⟩

/-- The set with all of the names. -/
def insertAll (set : NameSet) (names : List String) : NameSet := names.foldl insert set

/-- Whether a name is in the set. -/
def contains (set : NameSet) (name : String) : Bool := set.names.contains name

instance : Membership String NameSet := ⟨fun set name => name ∈ set.names⟩

theorem mem_def {set : NameSet} {name : String} : name ∈ set ↔ name ∈ set.names := Iff.rfl

@[simp] theorem contains_iff {set : NameSet} {name : String} :
    set.contains name = true ↔ name ∈ set := by
  simp [contains, mem_def]

@[simp] theorem not_mem_empty (name : String) : name ∉ empty := by simp [empty, mem_def]

@[simp] theorem mem_insert {set : NameSet} {name other : String} :
    other ∈ set.insert name ↔ other = name ∨ other ∈ set := mem_place

@[simp] theorem mem_insertAll {set : NameSet} {names : List String} {name : String} :
    name ∈ set.insertAll names ↔ name ∈ names ∨ name ∈ set := by
  unfold insertAll
  induction names generalizing set with
  | nil => simp
  | cons first others ih =>
    rw [List.foldl_cons, ih, mem_insert, List.mem_cons]
    constructor
    · rintro (h | h | h) <;> simp [h]
    · rintro ((h | h) | h) <;> simp [h]

/-- Ascending lists with the same members are the same list. -/
theorem eq_of_ascending : ∀ {a b : List String}, a.Pairwise (· < ·) → b.Pairwise (· < ·) →
    (∀ name, name ∈ a ↔ name ∈ b) → a = b
  | [], [], _, _, _ => rfl
  | [], first :: others, _, _, h => absurd ((h first).2 (by simp)) (by simp)
  | first :: others, [], _, _, h => absurd ((h first).1 (by simp)) (by simp)
  | x :: xs, y :: ys, ha, hb, h => by
    obtain ⟨hx, hxs⟩ := List.pairwise_cons.1 ha
    obtain ⟨hy, hys⟩ := List.pairwise_cons.1 hb
    -- the least members agree
    have hxy : x = y := by
      rcases List.mem_cons.1 ((h x).1 (by simp)) with heq | hmem
      · exact heq
      · rcases List.mem_cons.1 ((h y).2 (by simp)) with heq | hmem'
        · exact heq.symm
        · exact absurd (hy x hmem) (String.lt_asymm (hx y hmem'))
    subst hxy
    congr 1
    refine eq_of_ascending hxs hys fun name => ?_
    have hname := h name
    simp only [List.mem_cons] at hname
    constructor
    · intro hmem
      rcases hname.1 (Or.inr hmem) with rfl | hmem'
      · exact absurd (hx name hmem) (String.lt_irrefl name)
      · exact hmem'
    · intro hmem
      rcases hname.2 (Or.inr hmem) with rfl | hmem'
      · exact absurd (hy name hmem) (String.lt_irrefl name)
      · exact hmem'

/-- Sets with the same members are the same. -/
theorem eq_of_mem_iff {a b : NameSet} (h : ∀ name, name ∈ a ↔ name ∈ b) : a = b := by
  obtain ⟨xs, hxs⟩ := a
  obtain ⟨ys, hys⟩ := b
  have heq : xs = ys := eq_of_ascending hxs hys h
  subst heq
  rfl

end NameSet

end Interception
