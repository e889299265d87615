import Interception.Proofs.HintTokens
import Interception.Proofs.LeadingClasses
import Mathlib.Data.List.Forall2

/-!
# Signatures moved between namespaces

A class that inherits its constructor repeats the parameters of it, perhaps in another namespace.
Main statement: in every hint each class name comes to stand for the class that it stood for where the
constructor was declared, and each default value goes on to begin with the same class; all else about
the parameters is as declared.
-/

namespace Interception

open Name Text

namespace Hint

/-- What a token of a hint written in the namespace `source` becomes in the namespace `target`. -/
inductive Token.Restates (source target : String) : Token → Token → Prop where
  | mark (c : Char) : Restates source target (.mark c) (.mark c)
  | builtin {run : List Char} (hword : isBuiltin (String.ofList run) = true) :
    Restates source target (.name run) (.name run)
  | named {run run' : List Char} (hclass : isBuiltin (String.ofList run) = false)
    (hclass' : isBuiltin (String.ofList run') = false)
    (hmeans : qualify (String.ofList run') target = qualify (String.ofList run) source) :
    Restates source target (.name run) (.name run')

theorem Token.Restates.renamed_qualify {source target : String} {token token' : Token}
    (h : Token.Restates source target token token') :
    token'.renamed (qualify · target) = token.renamed (qualify · source) := by
  cases h with
  | mark c => rfl
  | builtin hword => simp only [Token.renamed, hword, if_true]
  | named hclass hclass' hmeans =>
    simp only [Token.renamed, hclass, hclass', Bool.false_eq_true, if_false, hmeans]

/-- A hint with the same marks and builtins in the same order, and names that mean the same. -/
def Restates (source target hint hint' : String) : Prop :=
  List.Forall₂ (Token.Restates source target) (tokens hint.toList) (tokens hint'.toList)

variable {source target hint hint' : String}

theorem Restates.refl (source hint : String) : Restates source source hint hint := by
  refine List.forall₂_same.mpr fun token _ => ?_
  cases token with
  | mark c => exact .mark c
  | name run =>
    cases hword : isBuiltin (String.ofList run) with
    | true => exact .builtin hword
    | false => exact .named hword hword rfl

/-- Resolved in their namespaces, the two hints are one. -/
theorem Restates.mapNames_qualify (h : Restates source target hint hint') :
    mapNames (qualify · target) hint' = mapNames (qualify · source) hint := by
  rw [mapNames, mapNames]
  refine congrArg String.ofList ?_
  revert h
  rw [Restates]
  generalize tokens hint.toList = old
  generalize tokens hint'.toList = new
  intro h
  induction h with
  | nil => rfl
  | cons htoken _ ih => rw [List.flatMap_cons, List.flatMap_cons, ih, htoken.renamed_qualify]

/-- A hint whose names are moved means the same. -/
theorem restates_mapNames_moved (hsource : Proper source)
    (hmovable : ∀ name ∈ classNames hint, Movable source target name) :
    Restates source target hint (mapNames (moved source target) hint) := by
  have hruns : ∀ name ∈ classNames hint, IsRun (moved source target name).toList :=
    fun name hmem => (hmovable name hmem).isRun_moved hsource (chars_of_mem_classNames hmem)
  rw [Restates, tokens_mapNames hruns, List.forall₂_map_right_iff]
  refine List.forall₂_same.mpr fun token hmem => ?_
  cases token with
  | mark c => exact .mark c
  | name run =>
    cases hword : isBuiltin (String.ofList run) with
    | true =>
      rw [Token.rename, if_pos hword]
      exact .builtin hword
    | false =>
      have hname := hmovable _ (mem_classNames hmem hword)
      rw [Token.rename, if_neg (by simp [hword])]
      refine .named hword ?_ ?_
      · rw [String.ofList_toList]
        exact hname.isBuiltin_moved
      · rw [String.ofList_toList]
        exact hname.qualify_moved hsource

end Hint

namespace Parameter

/-- The parameter of a type `owner` can be written for the namespace `target`: each class name in its
hint and in front of its default value can be moved there. -/
structure Movable (owner target : String) (parameter : Parameter) : Prop where
  hint : ∀ hint ∈ parameter.hint, ∀ name ∈ Hint.classNames hint,
    Name.Movable (namespaceOf owner) target name
  default : ∀ value ∈ parameter.default, ∀ found blanks,
    LeadingClass.Reads found blanks value.toList → isBuiltin (String.ofList found.name) = false →
      Name.Movable (namespaceOf owner) target (String.ofList found.name)

/-- `moved` is to the namespace `target` what `declared` is to the type `owner`. -/
structure KeepsMeaning (owner target : String) (declared moved : Parameter) : Prop where
  name : moved.name = declared.name
  byRef : moved.byRef = declared.byRef
  variadic : moved.variadic = declared.variadic
  hint : Option.Rel (Hint.Restates (namespaceOf owner) target) declared.hint moved.hint
  resolved : (moved.qualifiedIn target).hint = (declared.qualifiedIn (namespaceOf owner)).hint
  default : Option.Rel (DefaultRestates owner target) declared.default moved.default

variable {owner target : String}

/-- In its own namespace a parameter means the same as it stands. -/
theorem KeepsMeaning.refl (hsame : namespaceOf owner = target) (parameter : Parameter) :
    KeepsMeaning owner target parameter parameter := by
  subst hsame
  have hhint : ∀ hint : Option String,
      Option.Rel (Hint.Restates (namespaceOf owner) (namespaceOf owner)) hint hint
    | none => .none
    | some hint => .some (Hint.Restates.refl _ hint)
  have hdefault : ∀ default : Option String,
      Option.Rel (DefaultRestates owner (namespaceOf owner)) default default
    | none => .none
    | some _ => .some (DefaultRestates.refl rfl)
  exact ⟨rfl, rfl, rfl, hhint _, rfl, hdefault _⟩

/-- A parameter that is written for another namespace. -/
theorem keepsMeaning_movedTo (howner : Proper owner) (hother : namespaceOf owner ≠ target)
    {parameter : Parameter} (hmovable : parameter.Movable owner target) :
    KeepsMeaning owner target parameter (parameter.movedTo owner target) := by
  obtain ⟨name, hint, default, byRef, variadic⟩ := parameter
  have hhint : Option.Rel (Hint.Restates (namespaceOf owner) target) hint
      (hint.map (Hint.mapNames (Name.moved (namespaceOf owner) target))) := by
    cases hint with
    | none => exact .none
    | some hint =>
      exact .some (Hint.restates_mapNames_moved howner.namespaceOf (hmovable.hint hint rfl))
  have hresolved : (hint.map (Hint.mapNames (Name.moved (namespaceOf owner) target))).map
      (Hint.mapNames (qualify · target)) =
        hint.map (Hint.mapNames (qualify · (namespaceOf owner))) := by
    cases hhint with
    | none => rfl
    | some hrestates => exact congrArg some hrestates.mapNames_qualify
  have hdefault : Option.Rel (DefaultRestates owner target) default
      (default.map (movedDefault owner target)) := by
    cases default with
    | none => exact .none
    | some value => exact .some (movedDefault_restates howner hother (hmovable.default value rfl))
  exact ⟨rfl, rfl, rfl, hhint, hresolved, hdefault⟩

/-- Whether a parameter can be written for another namespace is found out by taking it apart. -/
theorem movable_iff {parameter : Parameter} :
    parameter.Movable owner target ↔
      (∀ hint ∈ parameter.hint, ∀ name ∈ Hint.classNames hint,
        Name.Movable (namespaceOf owner) target name) ∧
      ∀ value ∈ parameter.default, ∀ found ∈ LeadingClass.find? value.toList,
        isBuiltin (String.ofList found.name) = false →
          Name.Movable (namespaceOf owner) target (String.ofList found.name) := by
  constructor
  · rintro ⟨hhint, hdefault⟩
    refine ⟨hhint, fun value hvalue found hfound => ?_⟩
    obtain ⟨blanks, hreads⟩ := LeadingClass.find?_eq_some_iff.mp hfound
    exact hdefault value hvalue found blanks hreads
  · rintro ⟨hhint, hdefault⟩
    refine ⟨hhint, fun value hvalue found blanks hreads => ?_⟩
    exact hdefault value hvalue found (LeadingClass.find?_eq_some_iff.mpr ⟨blanks, hreads⟩)

instance (owner target : String) (parameter : Parameter) :
    Decidable (parameter.Movable owner target) := decidable_of_iff _ movable_iff.symm

end Parameter

/-- A method that is written for another namespace keeps all but its parameters, and each of these
keeps its meaning. -/
theorem Method.movedTo_keepsMeaning {owner target : String} (howner : Proper owner) {method : Method}
    (hmovable : ∀ parameter ∈ method.parameters, parameter.Movable owner target) :
    ∃ parameters, method.movedTo owner target = { method with parameters := parameters } ∧
      List.Forall₂ (Parameter.KeepsMeaning owner target) method.parameters parameters := by
  rw [movedTo]
  split
  · next hsame =>
    refine ⟨method.parameters, rfl, List.forall₂_same.mpr fun parameter _ => ?_⟩
    exact Parameter.KeepsMeaning.refl hsame parameter
  · next hother =>
    refine ⟨_, rfl, ?_⟩
    rw [List.forall₂_map_right_iff]
    refine List.forall₂_same.mpr fun parameter hmem => ?_
    exact Parameter.keepsMeaning_movedTo howner hother (hmovable parameter hmem)

/-- A constructor that names classes in its hints and in front of its default values. -/
def schedulingConstructor : Method where
  name := constructorName
  access := some .anyone
  isStatic := false
  isAbstract := false
  isFinal := false
  parameters :=
    [{ Parameter.typed "clock" "?Clock" with default := some "new  Clock(1)" },
     .typed "log" "null|(\\Log\\Sink&Flushing)",
     { Parameter.typed "mode" "int|App\\Mode" with default := some "self::STRICT" }]
  returns := none
  body := some []

/-- The parameters of that constructor keep their meaning in another namespace. -/
theorem Method.movedTo_keepsMeaning_of_schedulingConstructor :
    Name.Proper "Lib\\Base" ∧
      (∀ parameter ∈ schedulingConstructor.parameters, parameter.Movable "Lib\\Base" "Lib\\App") ∧
      ∃ parameters, schedulingConstructor.movedTo "Lib\\Base" "Lib\\App" =
          { schedulingConstructor with parameters := parameters } ∧
        List.Forall₂ (Parameter.KeepsMeaning "Lib\\Base" "Lib\\App")
          schedulingConstructor.parameters parameters := by
  have howner : Name.Proper "Lib\\Base" := by decide +kernel
  have hmovable : ∀ parameter ∈ schedulingConstructor.parameters,
      parameter.Movable "Lib\\Base" "Lib\\App" := by decide +kernel
  exact ⟨howner, hmovable, Method.movedTo_keepsMeaning howner hmovable⟩

example : (schedulingConstructor.movedTo "Lib\\Base" "Lib\\App").parameters =
    [{ Parameter.typed "clock" "?\\Lib\\Clock" with default := some "new \\Lib\\Clock(1)" },
     .typed "log" "null|(\\Log\\Sink&\\Lib\\Flushing)",
     { Parameter.typed "mode" "int|Mode" with default := some "\\Lib\\Base::STRICT" }] := by
  decide +kernel

/-- A constructor whose hint ends with a separator, and whose default value begins with `self`. -/
def truncatedConstructor : Method where
  name := constructorName
  access := some .anyone
  isStatic := false
  isAbstract := false
  isFinal := false
  parameters := [{ Parameter.typed "mode" "A\\" with default := some "self::STRICT" }]
  returns := none
  body := some []

/-- Nothing is left of a name that stands for the new namespace with a separator after it, and `self`
gives way to the name of the owner. -/
theorem Method.movedTo_of_truncatedConstructor :
    Name.Proper "X\\O" ∧ Name.Proper "X\\A" ∧ Hint.classNames "A\\" = ["A\\"] ∧
      ¬ "\\\\".toList <+: "A\\".toList ∧ isBuiltin (shortOf "A\\") = false ∧
      isBuiltin "self" = true ∧
      (truncatedConstructor.movedTo "X\\O" "X\\A").parameters =
        [{ Parameter.typed "mode" "" with default := some "\\X\\O::STRICT" }] ∧
      ((truncatedConstructor.movedTo "X\\O" "X\\A").parameters.map
          fun parameter => (parameter.qualifiedIn "X\\A").hint) = [some ""] ∧
      (truncatedConstructor.parameters.map
          fun parameter => (parameter.qualifiedIn (namespaceOf "X\\O")).hint) = [some "X\\A\\"] := by
  decide +kernel

end Interception
