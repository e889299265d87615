import Interception.Proofs.AdviceOrder
import Mathlib.Data.List.Forall2

/-!
# What a change leaves of the registered advice

Targets are assigned to one aspect at a time, and advice is added one by one.  Main statement: an
assignment leaves its aspect with one advice for each of the targets and every other aspect with what
it had; made twice it is made once, and of assignments to two aspects it does not matter which comes
first; and an addition puts its advice behind the others unless it is there already.
-/

namespace Interception

open Name

/-- The advice binds the aspect around the target, which has lost the separators before it. -/
structure Advice.Binds (advice : Advice) (aspect target : String) (priority : Int32) : Prop where
  aspect : advice.aspect = aspect
  target : Bare target advice.target
  kind : advice.kind = .around
  priority : advice.priority = priority

/-- One advice for each of the targets, in their order. -/
def Advice.boundTo (aspect : String) (targets : List String) (priority : Int32) : List Advice :=
  targets.map fun target => bound aspect target priority

theorem Advice.binds_boundTo (aspect : String) (targets : List String) (priority : Int32) :
    List.Forall₂ (fun target (advice : Advice) => advice.Binds aspect target priority) targets
      (boundTo aspect targets priority) := by
  rw [boundTo, List.forall₂_map_right_iff, List.forall₂_same]
  intro target _
  exact ⟨rfl, bare_iff.2 rfl, rfl, rfl⟩

/-- All of them are advice of the aspect. -/
theorem Advice.filter_boundTo (p : String → Bool) (aspect : String) (targets : List String)
    (priority : Int32) :
    (boundTo aspect targets priority).filter (fun advice => p advice.aspect) =
      if p aspect then boundTo aspect targets priority else [] := by
  split
  · next hp =>
    rw [List.filter_eq_self, boundTo, List.forall_mem_map]
    exact fun target _ => hp
  · next hp =>
    rw [List.filter_eq_nil_iff, boundTo, List.forall_mem_map]
    exact fun target _ => hp

namespace Registry

/-- The advice of an aspect, in the order of registration. -/
def of (registry : Registry) (aspect : String) : List Advice :=
  registry.advice.filter fun advice => advice.aspect = aspect

/-- The advice of all other aspects, in the order of registration. -/
def besides (registry : Registry) (aspect : String) : List Advice :=
  registry.advice.filter fun advice => advice.aspect ≠ aspect

/-! ## Assignments -/

section Assignments

variable (registry : Registry) (aspect : String) (targets : List String) (priority : Int32)

/-- Among the advice of some aspects, an assignment replaces that of its aspect. -/
theorem filter_assign (p : String → Bool) :
    (registry.assign aspect targets priority).advice.filter (fun advice => p advice.aspect) =
      (registry.besides aspect).filter (fun advice => p advice.aspect) ++
        if p aspect then Advice.boundTo aspect targets priority else [] := by
  rw [← Advice.filter_boundTo, ← List.filter_append]
  rfl

theorem of_assign_self :
    (registry.assign aspect targets priority).of aspect =
      Advice.boundTo aspect targets priority := by
  rw [of, filter_assign registry aspect targets priority (fun other => other = aspect), besides,
    List.filter_filter]
  simp

theorem of_assign_of_ne {other : String} (h : other ≠ aspect) :
    (registry.assign aspect targets priority).of other = registry.of other := by
  rw [of, filter_assign registry aspect targets priority (fun name => name = other), besides,
    List.filter_filter, of]
  simp only [decide_eq_true_eq, Ne.symm h, if_false, List.append_nil]
  apply List.filter_congr
  intro advice _
  by_cases hother : advice.aspect = other
  · simp [hother, h]
  · simp [hother]

theorem besides_assign :
    (registry.assign aspect targets priority).besides aspect = registry.besides aspect := by
  rw [besides, filter_assign registry aspect targets priority (fun other => other ≠ aspect), besides,
    List.filter_filter]
  simp

/-- A later assignment to the same aspect is as if it were the only one. -/
theorem assign_assign (targets' : List String) (priority' : Int32) :
    (registry.assign aspect targets priority).assign aspect targets' priority' =
      registry.assign aspect targets' priority' := by
  show (⟨besides _ aspect ++ _⟩ : Registry) = ⟨besides _ aspect ++ _⟩
  rw [besides_assign]

/-- Assignments to two aspects make the same advice in either order. -/
theorem assign_assign_perm {other : String} (h : other ≠ aspect) (targets' : List String)
    (priority' : Int32) :
    ((registry.assign aspect targets priority).assign other targets' priority').advice.Perm
      ((registry.assign other targets' priority').assign aspect targets priority).advice := by
  have hmade : ((registry.assign aspect targets priority).assign other targets' priority').advice =
      (registry.besides aspect).filter (fun advice => advice.aspect ≠ other) ++
        Advice.boundTo aspect targets priority ++ Advice.boundTo other targets' priority' := by
    show besides _ other ++ Advice.boundTo other targets' priority' = _
    rw [besides, filter_assign registry aspect targets priority (fun name => name ≠ other)]
    simp [Ne.symm h]
  have hmade' : ((registry.assign other targets' priority').assign aspect targets priority).advice =
      (registry.besides aspect).filter (fun advice => advice.aspect ≠ other) ++
        Advice.boundTo other targets' priority' ++ Advice.boundTo aspect targets priority := by
    show besides _ aspect ++ Advice.boundTo aspect targets priority = _
    rw [besides, filter_assign registry other targets' priority' (fun name => name ≠ aspect)]
    simp [h, besides, List.filter_filter, Bool.and_comm]
  rw [hmade, hmade', List.append_assoc, List.append_assoc]
  exact List.perm_append_comm.append_left _

end Assignments

/-! ## Additions -/

theorem add_of_mem {registry : Registry} {advice : Advice} (h : advice ∈ registry.advice) :
    registry.add advice = registry := if_pos h

theorem advice_add_of_not_mem {registry : Registry} {advice : Advice}
    (h : advice ∉ registry.advice) :
    (registry.add advice).advice = registry.advice ++ [advice] := by
  rw [add, if_neg h]

/-- An assignment leaves its aspect with one advice for each target, in their order, and all other
aspects with what they had, in the order it had; made once more it changes nothing, and made before or
after one to another aspect it makes the same applicable.  An addition changes nothing if the advice is
registered, and else puts it behind all that is. -/
theorem change_frame (registry : Registry) :
    (∀ aspect targets priority,
      let assigned := registry.assign aspect targets priority
      List.Forall₂ (fun target (advice : Advice) => advice.Binds aspect target priority) targets
          (assigned.of aspect) ∧
        assigned.besides aspect = registry.besides aspect ∧
        assigned.assign aspect targets priority = assigned ∧
        ∀ other targets' priority', other ≠ aspect → ∀ types,
          (assigned.assign other targets' priority').applicable types =
            ((registry.assign other targets' priority').assign aspect targets
              priority).applicable types) ∧
      (∀ advice ∈ registry.advice, registry.add advice = registry) ∧
      ∀ advice ∉ registry.advice, (registry.add advice).advice = registry.advice ++ [advice] := by
  refine ⟨fun aspect targets priority => ⟨?_, ?_, ?_, ?_⟩, ?_, ?_⟩
  · rw [of_assign_self]
    exact Advice.binds_boundTo aspect targets priority
  · exact registry.besides_assign aspect targets priority
  · exact registry.assign_assign aspect targets priority targets priority
  · intro other targets' priority' hother types
    have hperm := registry.assign_assign_perm aspect targets priority hother targets' priority'
    exact applicable_congr hperm fun type => Iff.rfl
  · exact fun advice => add_of_mem
  · exact fun advice => advice_add_of_not_mem

/-- Advice of two aspects in turn. -/
def turnRegistry : Registry :=
  ⟨[.bound "Log" "S" 0, .bound "Audit" "T" 1, .bound "Log" "T::run" 2, .bound "Audit" "S" 1]⟩

/-- Targets are assigned to the one aspect, two of them the same but for a separator; advice is added to
the other, first what is registered and then what is not. -/
theorem change_frame_of_turnRegistry :
    let assigned := turnRegistry.assign "Log" ["\\T", "U", "T"] 5
    List.Forall₂ (fun target (advice : Advice) => advice.Binds "Log" target 5) ["\\T", "U", "T"]
        [.bound "Log" "T" 5, .bound "Log" "U" 5, .bound "Log" "T" 5] ∧
      assigned.besides "Log" = [.bound "Audit" "T" 1, .bound "Audit" "S" 1] ∧
      "Audit" ≠ "Log" ∧ (assigned.assign "Audit" ["\\U"] 7).applicable ["U"] =
        ((turnRegistry.assign "Audit" ["\\U"] 7).assign "Log" ["\\T", "U", "T"] 5).applicable ["U"] ∧
      turnRegistry.add (.bound "Audit" "\\T" 1) = turnRegistry ∧
      (turnRegistry.add (.bound "Audit" "T" 2)).advice =
        turnRegistry.advice ++ [.bound "Audit" "T" 2] := by
  intro assigned
  obtain ⟨hassigned, hknown, hnew⟩ := change_frame turnRegistry
  obtain ⟨hown, hothers, -, hcommutes⟩ := hassigned "Log" ["\\T", "U", "T"] 5
  have hne : "Audit" ≠ "Log" := by decide
  refine ⟨hown, hothers, hne, hcommutes _ _ _ hne _, hknown _ ?_, hnew _ ?_⟩
  · decide +kernel
  · decide +kernel

end Registry

end Interception
