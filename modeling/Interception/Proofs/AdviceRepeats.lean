import Interception.Proofs.AdviceChanges
import Interception.Proofs.LastSuch
import Mathlib.Data.List.Induction
import Mathlib.Data.List.Nodup

/-!
# Advice that is registered twice

An addition looks whether its advice is there already, an assignment does not look whether it is given
the same target twice.  Main statement: after any changes no advice is registered twice, and none is
found twice, exactly if of the targets that were assigned to an aspect last no two are the same without
the separators before them.
-/

namespace Interception

open Name

/-- Advice is made for different targets exactly if they are different without separators before them. -/
theorem Advice.nodup_boundTo_iff {aspect : String} {targets : List String} {priority : Int32} :
    (boundTo aspect targets priority).Nodup ↔ (targets.map normalize).Nodup := by
  have hmap : boundTo aspect targets priority =
      (targets.map normalize).map fun target => ⟨aspect, target, .around, priority⟩ := by
    rw [List.map_map]
    rfl
  rw [hmap, List.nodup_map_iff]
  intro target target' h
  exact congrArg Advice.target h

namespace Registry

variable {registry : Registry} {aspect : String}

/-! ## Repetitions in a registry -/

/-- What is registered twice is registered twice for its aspect. -/
theorem nodup_iff_of : registry.advice.Nodup ↔ ∀ aspect, (registry.of aspect).Nodup := by
  constructor
  · exact fun h aspect => h.filter _
  · intro h
    rw [List.nodup_iff_count_le_one]
    intro advice
    have hcount := List.nodup_iff_count_le_one.1 (h advice.aspect) advice
    rwa [of, List.count_filter (by simp)] at hcount

/-- What is registered twice is found twice for its type. -/
theorem nodup_iff_applicable :
    registry.advice.Nodup ↔ ∀ types, (registry.applicable types).Nodup := by
  constructor
  · intro h types
    rw [(registry.applicable_perm types).nodup_iff]
    exact h.filter _
  · intro h
    have hall := h (registry.advice.map Advice.targetType)
    rw [(registry.applicable_perm _).nodup_iff, List.filter_eq_self.2] at hall
    · exact hall
    · intro advice hadvice
      rw [List.contains_iff_mem]
      exact List.mem_map_of_mem hadvice

/-! ## What a change does to repetitions -/

/-- An addition makes no repetition, and takes none away. -/
theorem nodup_of_add_iff (advice : Advice) :
    ((registry.add advice).of aspect).Nodup ↔ (registry.of aspect).Nodup := by
  by_cases hmem : advice ∈ registry.advice
  · rw [add_of_mem hmem]
  · rw [of, advice_add_of_not_mem hmem, List.filter_append]
    by_cases haspect : advice.aspect = aspect
    · have hnew : advice ∉ registry.of aspect := fun h => hmem (List.mem_filter.1 h).1
      rw [List.filter_cons_of_pos (by simpa using haspect), List.filter_nil, ← List.concat_eq_append,
        List.nodup_concat]
      exact and_iff_right hnew
    · rw [List.filter_cons_of_neg (by simpa using haspect), List.filter_nil, List.append_nil]
      rfl

/-- The change does away with all advice of the aspect. -/
def Change.Resets (aspect : String) : Change → Prop
  | .assign other _ _ => other = aspect
  | .add _ => False
  | .clear => True

theorem nodup_of_change_iff {change : Change} (h : ¬change.Resets aspect) :
    ((registry.change change).of aspect).Nodup ↔ (registry.of aspect).Nodup := by
  cases change with
  | assign other targets priority => rw [Registry.change, of_assign_of_ne _ _ _ _ (Ne.symm h)]
  | add advice => exact nodup_of_add_iff advice
  | clear => exact absurd trivial h

/-! ## Runs of changes -/

/-- The targets were assigned to the aspect, and no later change did away with its advice. -/
def InForce (changes : List Change) (aspect : String) (targets : List String) : Prop :=
  ∃ earlier priority later, changes = earlier ++ .assign aspect targets priority :: later ∧
    ∀ change ∈ later, ¬change.Resets aspect

/-- Of the changes that do away with the advice of the aspect, the last one assigned the targets. -/
theorem inForce_iff_lastSuch {changes : List Change} {targets : List String} :
    InForce changes aspect targets ↔
      ∃ priority, LastSuch (·.Resets aspect) changes (.assign aspect targets priority) := by
  constructor
  · rintro ⟨earlier, priority, later, hchanges, hlater⟩
    exact ⟨priority, earlier, later, hchanges, rfl, hlater⟩
  · rintro ⟨priority, earlier, later, hchanges, -, hlater⟩
    exact ⟨earlier, priority, later, hchanges, hlater⟩

/-- What is in force after one change more. -/
theorem inForce_concat_iff {changes : List Change} {change : Change} {targets : List String} :
    InForce (changes ++ [change]) aspect targets ↔
      (∃ priority, change = .assign aspect targets priority) ∨
        ¬change.Resets aspect ∧ InForce changes aspect targets := by
  simp only [inForce_iff_lastSuch, lastSuch_concat_iff]
  constructor
  · rintro ⟨priority, ⟨-, hsame⟩ | ⟨hkept, hlast⟩⟩
    · exact .inl ⟨priority, hsame⟩
    · exact .inr ⟨hkept, priority, hlast⟩
  · rintro (⟨priority, rfl⟩ | ⟨hkept, priority, hlast⟩)
    · exact ⟨priority, .inl ⟨rfl, rfl⟩⟩
    · exact ⟨priority, .inr ⟨hkept, hlast⟩⟩

theorem after_concat (changes : List Change) (change : Change) :
    after (changes ++ [change]) = (after changes).change change := by
  rw [after, List.foldl_append]
  rfl

/-- For one aspect, only the targets that were assigned last matter. -/
theorem nodup_of_after_iff (changes : List Change) (aspect : String) :
    ((after changes).of aspect).Nodup ↔
      ∀ targets, InForce changes aspect targets → (targets.map normalize).Nodup := by
  induction changes using List.reverseRecOn with
  | nil =>
    constructor
    · rintro - targets ⟨earlier, priority, later, hchanges, -⟩
      simp at hchanges
    · exact fun _ => List.nodup_nil
  | append_singleton changes change ih =>
    simp only [after_concat, inForce_concat_iff]
    by_cases hresets : change.Resets aspect
    · cases change with
      | assign other targets priority =>
        have haspect : other = aspect := hresets
        subst haspect
        rw [Registry.change, of_assign_self, Advice.nodup_boundTo_iff]
        constructor
        · rintro h targets' (⟨priority', hsame⟩ | ⟨hkept, -⟩)
          · cases hsame
            exact h
          · exact absurd hresets hkept
        · exact fun h => h targets (.inl ⟨priority, rfl⟩)
      | add advice => exact absurd hresets id
      | clear =>
        constructor
        · rintro - targets (⟨priority, hsame⟩ | ⟨hkept, -⟩)
          · cases hsame
          · exact absurd hresets hkept
        · exact fun _ => List.nodup_nil
    · rw [nodup_of_change_iff hresets, ih]
      constructor
      · rintro h targets (⟨priority, rfl⟩ | ⟨-, hold⟩)
        · exact absurd rfl hresets
        · exact h targets hold
      · exact fun h targets hold => h targets (.inr ⟨hresets, hold⟩)

/-- After any changes, advice is registered twice, and found twice, exactly if among the targets that
were last assigned to some aspect two are the same without the separators before them. -/
theorem after_nodup_iff (changes : List Change) :
    ((after changes).advice.Nodup ↔ ∀ aspect targets, InForce changes aspect targets →
        (targets.map normalize).Nodup) ∧
      ((after changes).advice.Nodup ↔ ∀ types, ((after changes).applicable types).Nodup) := by
  refine ⟨?_, nodup_iff_applicable⟩
  rw [nodup_iff_of]
  exact forall_congr' fun aspect => nodup_of_after_iff changes aspect

/-- A target is assigned twice, then the aspect gets other targets, and one of them once more. -/
def mendedChanges : List Change :=
  [.assign "Log" ["T", "\\T"] 0, .assign "Log" ["T", "S"] 1, .add (.bound "Log" "\\T" 1)]

/-- At first the advice on the target is registered twice, in the end no advice is. -/
theorem after_nodup_of_mendedChanges :
    InForce (mendedChanges.take 1) "Log" ["T", "\\T"] ∧
      ¬(after (mendedChanges.take 1)).advice.Nodup ∧ (after mendedChanges).advice.Nodup ∧
      ((after mendedChanges).applicable ["S", "T"]).Nodup := by
  have hdoubled : InForce (mendedChanges.take 1) "Log" ["T", "\\T"] := ⟨[], 0, [], rfl, by simp⟩
  have hmended : ∀ aspect targets, InForce mendedChanges aspect targets →
      (targets.map normalize).Nodup := by
    intro aspect targets hforce
    have hconcat : mendedChanges = [] ++ [.assign "Log" ["T", "\\T"] 0] ++
        [.assign "Log" ["T", "S"] 1] ++ [.add (.bound "Log" "\\T" 1)] := rfl
    simp only [hconcat, inForce_concat_iff] at hforce
    rcases hforce with ⟨_, hadd⟩ | ⟨-, ⟨_, hlast⟩ | ⟨hkept, ⟨_, hfirst⟩ | ⟨-, _, _, _, hnil, -⟩⟩⟩
    · cases hadd
    · cases hlast
      decide
    · cases hfirst
      exact absurd rfl hkept
    · simp at hnil
  obtain ⟨hnodup, hfound⟩ := after_nodup_iff mendedChanges
  have hregistered := hnodup.2 hmended
  refine ⟨hdoubled, fun h => ?_, hregistered, hfound.1 hregistered _⟩
  exact absurd ((after_nodup_iff _).1.1 h "Log" _ hdoubled) (by decide)

/-- One assignment registers the same advice twice, and it is found twice. -/
theorem after_of_doubledTarget :
    let registry := after [.assign "Log" ["T", "\\T"] 0]
    registry.advice = [.bound "Log" "T" 0, .bound "Log" "T" 0] ∧ ¬registry.advice.Nodup ∧
      ¬(registry.applicable ["T"]).Nodup := by
  intro registry
  have hadvice : registry.advice = [.bound "Log" "T" 0, .bound "Log" "T" 0] := by decide
  refine ⟨hadvice, by rw [hadvice]; decide, ?_⟩
  rw [(registry.applicable_perm _).nodup_iff, hadvice]
  decide +kernel

end Registry

end Interception
