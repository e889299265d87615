import Interception.Advice.Registry
import Interception.Proofs.AdviceTargets
import Interception.Proofs.ByteOrder
import Mathlib.Data.Prod.Lex

/-!
# The order of advice

Which advice applies to some types, and in what order.  Main statement: it is the registered advice
whose target lies on one of the types, each as often as it is registered, by falling priority, then by
aspect, then by target; and since this order leaves no choice, it does not matter in which order the
advice was registered.
-/

namespace Interception

open Text

/-! ## What comes first -/

namespace Advice

/-- The one advice comes before the other, or they are the same: its priority is higher, or it has the
same priority and its aspect comes first by the bytes of its name, or it has the same aspect too and
its target comes first or is the same. -/
def Before (first second : Advice) : Prop :=
  second.priority.toInt < first.priority.toInt ∨ first.priority = second.priority ∧
    (bytes first.aspect < bytes second.aspect ∨ first.aspect = second.aspect ∧
      (bytes first.target < bytes second.target ∨ first.target = second.target))

/-- What the order goes by, the higher priority being the smaller. -/
def rank (advice : Advice) : ℤᵒᵈ ×ₗ String ×ₗ String :=
  toLex (.toDual advice.priority.toInt, toLex (advice.aspect, advice.target))

theorem rank_injective : Function.Injective rank := by
  intro first second h
  obtain ⟨aspect, target, kind, priority⟩ := first
  obtain ⟨aspect', target', kind', priority'⟩ := second
  -- all advice is of one kind
  cases kind
  cases kind'
  obtain ⟨hpriority, hnames⟩ := Prod.mk.inj (toLex.injective h)
  obtain ⟨rfl, rfl⟩ := Prod.mk.inj (toLex.injective hnames)
  obtain rfl := Int32.toInt_inj.mp (OrderDual.toDual.injective hpriority)
  rfl

theorem rank_le_iff {first second : Advice} : first.rank ≤ second.rank ↔ first.Before second := by
  rw [rank, rank, Prod.Lex.toLex_le_toLex, Prod.Lex.toLex_le_toLex,
    le_iff_lt_or_eq (a := first.target)]
  simp only [Before, bytes_lt_iff, OrderDual.toDual_lt_toDual, OrderDual.toDual_inj, Int32.toInt_inj]

theorem precedes_iff {first second : Advice} :
    first.precedes second = true ↔ first.rank ≤ second.rank := by
  have htarget : ¬second.target < first.target ↔
      first.target < second.target ∨ first.target = second.target := by
    rw [String.not_lt, ← le_iff_lt_or_eq]
  rw [rank_le_iff]
  simp only [precedes, Before, bytes_lt_iff, Bool.or_eq_true, Bool.and_eq_true, decide_eq_true_eq,
    beq_iff_eq, Bool.not_eq_true', decide_eq_false_iff_not, Int32.lt_iff_toInt_lt, htarget]

end Advice

namespace Registry

/-- What applies is what is registered for the types, in some order. -/
theorem applicable_perm (registry : Registry) (types : List String) :
    (registry.applicable types).Perm
      (registry.advice.filter fun advice => types.contains advice.targetType) :=
  List.mergeSort_perm _ _

/-- That order is the order of advice. -/
theorem pairwise_applicable (registry : Registry) (types : List String) :
    (registry.applicable types).Pairwise fun first second => first.rank ≤ second.rank := by
  have htrans : ∀ a b c : Advice, a.precedes b = true → b.precedes c = true → a.precedes c = true := by
    intro a b c hab hbc
    rw [Advice.precedes_iff] at *
    exact le_trans hab hbc
  have htotal : ∀ a b : Advice, (a.precedes b || b.precedes a) = true := by
    intro a b
    rw [Bool.or_eq_true, Advice.precedes_iff, Advice.precedes_iff]
    exact le_total a.rank b.rank
  apply (List.pairwise_mergeSort htrans htotal _).imp
  intro first second h
  exact Advice.precedes_iff.mp h

/-- Advice in order is determined by how often each one occurs. -/
theorem eq_applicable {registry : Registry} {types : List String} {found : List Advice}
    (hperm : found.Perm (registry.advice.filter fun advice => types.contains advice.targetType))
    (hordered : found.Pairwise fun first second => first.rank ≤ second.rank) :
    found = registry.applicable types := by
  apply List.Perm.eq_of_pairwise _ hordered (registry.pairwise_applicable types)
  · exact hperm.trans (registry.applicable_perm types).symm
  · intro a b _ _ hab hba
    exact Advice.rank_injective (le_antisymm hab hba)

/-- The order of registration does not matter, nor that of the types. -/
theorem applicable_congr {registry other : Registry} {types types' : List String}
    (hperm : other.advice.Perm registry.advice) (htypes : ∀ type, type ∈ types' ↔ type ∈ types) :
    other.applicable types' = registry.applicable types := by
  apply eq_applicable _ (other.pairwise_applicable types')
  have hsame : ∀ advice ∈ other.advice,
      types'.contains advice.targetType = types.contains advice.targetType := by
    intro advice _
    rw [Bool.eq_iff_iff, List.contains_iff_mem, List.contains_iff_mem, htypes]
  apply (other.applicable_perm types').trans
  rw [List.filter_congr hsame]
  exact hperm.filter _

/-- What applies to some types is the advice that is registered on them, no more and no less often
than it is registered, in the order of advice; and for the same types it is the same, in whichever
order the advice was registered. -/
theorem applicable_ordered (registry : Registry) (types : List String) :
    (∀ advice, (∃ type ∈ types, advice.On type) →
        (registry.applicable types).count advice = registry.advice.count advice) ∧
      (∀ advice, (¬∃ type ∈ types, advice.On type) → advice ∉ registry.applicable types) ∧
      (registry.applicable types).Pairwise Advice.Before ∧
      ∀ (other : Registry) (types' : List String), other.advice.Perm registry.advice →
        (∀ type, type ∈ types' ↔ type ∈ types) →
        other.applicable types' = registry.applicable types := by
  have hmember : ∀ advice : Advice, types.contains advice.targetType = true ↔
      ∃ type ∈ types, advice.On type := by
    intro advice
    simp only [List.contains_iff_mem, Advice.on_iff, exists_eq_right']
  refine ⟨?_, ?_, ?_, ?_⟩
  · intro advice hon
    rw [(registry.applicable_perm types).count_eq, List.count_filter]
    exact (hmember advice).mpr hon
  · intro advice hoff hmem
    rw [(registry.applicable_perm types).mem_iff, List.mem_filter] at hmem
    exact hoff ((hmember advice).mp hmem.2)
  · apply (registry.pairwise_applicable types).imp
    intro first second h
    exact Advice.rank_le_iff.mp h
  · exact fun other types' => applicable_congr

/-- Advice of three aspects, of which one is registered twice. -/
def crossRegistry : Registry :=
  ⟨[.bound "Zeta" "T" 1, .bound "Low" "T::run" (-5), .bound "Alpha" "T::run" 1, .bound "Zeta" "T" 1,
    .bound "Alpha" "S" 10, .bound "Alpha" "T" 1]⟩

/-- Nothing that is bound to `S` is found for `T`; what is registered twice is found twice, and in the
other order of registration the same is found. -/
theorem applicable_of_crossRegistry :
    let found : List Advice := [.bound "Alpha" "T" 1, .bound "Alpha" "T::run" 1, .bound "Zeta" "T" 1,
      .bound "Zeta" "T" 1, .bound "Low" "T::run" (-5)]
    let reversed : Registry := ⟨crossRegistry.advice.reverse⟩
    crossRegistry.applicable ["T", "U"] = found ∧ found.Pairwise Advice.Before ∧
      (∃ type ∈ ["T", "U"], (Advice.bound "Zeta" "T" 1).On type) ∧
      found.count (.bound "Zeta" "T" 1) = crossRegistry.advice.count (.bound "Zeta" "T" 1) ∧
      (¬∃ type ∈ ["T", "U"], (Advice.bound "Alpha" "S" 10).On type) ∧
      Advice.bound "Alpha" "S" 10 ∉ found ∧ reversed.advice.Perm crossRegistry.advice ∧
      reversed.applicable ["U", "T", "T"] = found := by
  intro found reversed
  have hprecedes : found.Pairwise fun first second => first.precedes second = true := by
    decide +kernel
  have hfound : crossRegistry.applicable ["T", "U"] = found := by
    refine (eq_applicable (by decide +kernel) (hprecedes.imp ?_)).symm
    exact Advice.precedes_iff.mp
  obtain ⟨hcount, hnone, hordered, hsame⟩ := applicable_ordered crossRegistry ["T", "U"]
  rw [hfound] at hcount hnone hordered hsame
  have hon : ∃ type ∈ ["T", "U"], (Advice.bound "Zeta" "T" 1).On type :=
    ⟨"T", by decide, Advice.on_iff.mpr (by decide +kernel)⟩
  have hoff : ¬∃ type ∈ ["T", "U"], (Advice.bound "Alpha" "S" 10).On type := by
    simp only [Advice.on_iff]
    decide +kernel
  have hperm : reversed.advice.Perm crossRegistry.advice := List.reverse_perm _
  refine ⟨hfound, hordered, hon, hcount _ hon, hoff, hnone _ hoff, hperm, hsame _ _ hperm ?_⟩
  intro type
  simp [or_comm]

end Registry

end Interception
