import Interception.Proofs.PrintedBodies
import Interception.Proofs.WovenNames

/-!
# What settings and advice can change

Two weavers work over the same declarations, with settings and advice of their own.  Main statement:
an interface comes out of both alike, if they put the same lines at the head of a file; the version of
the runtime matters for traits only, and there it is seen on which side of 7.3.0 it lies, and shows as
one line; and what is put at the head of a file is seen there and nowhere else.
-/

namespace Interception

open Layout Text

/-! ## The text of a source file -/

/-- The text before the type: the opening tag, the directive, the banner and the namespace. -/
def SourceFile.headText (file : SourceFile) : String := joined (head file)

/-- The text of a type, from the line that introduces it to its closing brace. -/
def WovenType.text (type : WovenType) : String := joined (typeBody type ++ [rightBrace])

theorem SourceFile.text_eq (file : SourceFile) : file.text = file.headText ++ file.type.text := by
  rw [text, lines, List.append_assoc, joined_append, headText, WovenType.text]

/-- The text of a type up to its opening brace. -/
def WovenType.opening (type : WovenType) : String := typeLine type ++ "\n" ++ leftBrace ++ "\n"

/-- The lines of a type from its opening brace on. -/
def WovenType.inside (type : WovenType) : List String :=
  type.mixins.map (fun name => lineAt 1 ("use " ++ name ++ ";")) ++ type.members.flatMap member ++
    [rightBrace]

theorem WovenType.text_eq (type : WovenType) : type.text = type.opening ++ joined type.inside := by
  have hbody : typeBody type ++ [rightBrace] = typeLine type :: leftBrace :: type.inside := rfl
  rw [text, hbody, joined, joined, opening]
  simp only [String.append_assoc]

/-- One more trait, used before the others, is one more line after the opening brace. -/
theorem WovenType.text_mixing (type : WovenType) (name : String) :
    { type with mixins := name :: type.mixins }.text =
      type.opening ++ ("    use " ++ name ++ ";\n") ++ joined type.inside := by
  have hmargin : String.ofList (margin 1) = "    " := by decide +kernel
  have hinside : joined { type with mixins := name :: type.mixins }.inside =
      "    use " ++ name ++ ";\n" ++ joined type.inside := by
    show joined (lineAt 1 ("use " ++ name ++ ";") :: type.inside) = _
    rw [joined, lineAt, hmargin]
    simp only [String.append_assoc]
    rfl
  have hopening : { type with mixins := name :: type.mixins }.opening = type.opening := rfl
  rw [text_eq, hopening, hinside]
  simp only [String.append_assoc]

/-! ## Outcomes of two weavers -/

/-- Both come to something, and what they come to is related; or both fail for the same reason. -/
def Outcomes {α β : Type} (related : α → β → Prop) : Except Fault α → Except Fault β → Prop
  | .ok a, .ok b => related a b
  | .error fault, .error fault' => fault = fault'
  | _, _ => False

theorem Outcomes.eq {α : Type} {first second : Except Fault α} (h : Outcomes Eq first second) :
    first = second := by
  cases first <;> cases second
  · exact congrArg Except.error h
  · exact h.elim
  · exact h.elim
  · exact congrArg Except.ok h

/-- The name leads to a declaration of this kind. -/
def DeclaredAs (lookup : String → Except Fault Declaration) (name : String) (kind : Kind) : Prop :=
  ∃ decl, lookup name = .ok decl ∧ decl.kind = kind

variable {lookup : String → Except Fault Declaration} {name : String}
  {advising advising' : List String → List Advice} {settings settings' : WeaveSettings}

/-- Whether there is a proxy does not depend on advice and settings, so proxies of one declaration
have to be compared. -/
theorem outcomes_weave {related : Proxy → Proxy → Prop}
    (h : ∀ decl, lookup name = .ok decl →
      related (decl.proxy lookup (decl.applicable advising) settings)
        (decl.proxy lookup (decl.applicable advising') settings')) :
    Outcomes related (weave lookup advising settings name)
      (weave lookup advising' settings' name) := by
  unfold weave weavable
  cases hdecl : lookup name with
  | error fault => exact rfl
  | ok decl =>
    cases hobstacle : decl.obstacle? with
    | none => simpa [Except.map, Outcomes, hobstacle] using h decl hdecl
    | some obstacle => simp [Except.map, Outcomes, hobstacle]

/-! ## Where settings and advice are read -/

theorem Version.allowsTraitProxies_iff {version : Version} :
    version.allowsTraitProxies = true ↔ version.AtLeast ⟨7, 3, 0⟩ := isGE_order_iff

namespace Declaration

/-- Advice does not reach an interface. -/
theorem applicable_of_interface {decl : Declaration} (h : decl.kind = .interfaceKind)
    (advising : List String → List Advice) : decl.applicable advising = [] := by
  rw [applicable, if_pos h]

/-- Settings are read at the head of a file and where traits are added. -/
theorem proxy_eq_of_addedTraits (decl : Declaration) (advice : List Advice)
    (hstrict : settings.strictTypes = settings'.strictTypes)
    (hbanner : settings.banner = settings'.banner)
    (hadded : addedTraits settings decl.kind = addedTraits settings' decl.kind) :
    decl.proxy lookup advice settings = decl.proxy lookup advice settings' := by
  simp only [proxy, wovenType, hstrict, hbanner, hadded]

theorem addedTraits_of_atLeast (h : settings.version.AtLeast ⟨7, 3, 0⟩) :
    addedTraits settings .traitKind = [settings.proxyTrait] := by
  rw [addedTraits, if_pos (Version.allowsTraitProxies_iff.2 h)]

theorem addedTraits_of_not_atLeast (h : ¬settings.version.AtLeast ⟨7, 3, 0⟩) :
    addedTraits settings .traitKind = [] := by
  rw [addedTraits, if_neg (mt Version.allowsTraitProxies_iff.1 h)]

end Declaration

/-! ## Proxies that differ in one place -/

namespace Proxy

/-- The second proxy is the first one with one more trait used before the others, and its text has
one more line for it. -/
structure UsesBesides (trait : String) (proxy proxy' : Proxy) : Prop where
  file : proxy' = { proxy with file := { proxy.file with type :=
    { proxy.file.type with mixins := trait :: proxy.file.type.mixins } } }
  source : ∃ rest, proxy.source = proxy.file.headText ++ proxy.file.type.opening ++ rest ∧
    proxy'.source = proxy.file.headText ++ proxy.file.type.opening ++
      ("    use " ++ trait ++ ";\n") ++ rest

/-- The proxies differ at the head of their files at most. -/
structure AlikeBelow (proxy proxy' : Proxy) : Prop where
  name : proxy.name = proxy'.name
  kind : proxy.kind = proxy'.kind
  intercepted : proxy.intercepted = proxy'.intercepted
  space : proxy.file.space = proxy'.file.space
  type : proxy.file.type = proxy'.file.type
  source : ∃ below, proxy.source = proxy.file.headText ++ below ∧
    proxy'.source = proxy'.file.headText ++ below

theorem UsesBesides.of_file {trait : String} {proxy proxy' : Proxy}
    (h : proxy' = { proxy with file := { proxy.file with type :=
      { proxy.file.type with mixins := trait :: proxy.file.type.mixins } } }) :
    UsesBesides trait proxy proxy' where
  file := h
  source := by
    refine ⟨joined proxy.file.type.inside, ?_, ?_⟩
    · rw [Proxy.source, SourceFile.text_eq, WovenType.text_eq, String.append_assoc]
    · -- the head of the file does not tell which traits its type uses
      have hhead : proxy'.file.headText = proxy.file.headText := by rw [h]; rfl
      have htype : proxy'.file.type = { proxy.file.type with
        mixins := trait :: proxy.file.type.mixins } := by rw [h]
      rw [Proxy.source, SourceFile.text_eq, hhead, htype, WovenType.text_mixing]
      simp only [String.append_assoc]

end Proxy

theorem Declaration.usesBesides_proxy {decl : Declaration} (hkind : decl.kind = .traitKind)
    (advice : List Advice) {early late : Version} (hearly : ¬early.AtLeast ⟨7, 3, 0⟩)
    (hlate : late.AtLeast ⟨7, 3, 0⟩) :
    Proxy.UsesBesides settings.proxyTrait
      (decl.proxy lookup advice { settings with version := early })
      (decl.proxy lookup advice { settings with version := late }) := by
  have hnone : addedTraits { settings with version := early } .traitKind = [] :=
    addedTraits_of_not_atLeast hearly
  have hone : addedTraits { settings with version := late } .traitKind = [settings.proxyTrait] :=
    addedTraits_of_atLeast hlate
  refine .of_file ?_
  simp only [proxy, wovenType, hkind, hnone, hone, List.nil_append, List.singleton_append]

theorem Declaration.alikeBelow_proxy (decl : Declaration) (advice : List Advice)
    (hversion : settings.version = settings'.version)
    (hproxy : settings.proxyTrait = settings'.proxyTrait)
    (hproperty : settings.propertyTrait = settings'.propertyTrait) :
    Proxy.AlikeBelow (decl.proxy lookup advice settings) (decl.proxy lookup advice settings') := by
  have hadded : addedTraits settings decl.kind = addedTraits settings' decl.kind := by
    cases decl.kind <;> simp only [addedTraits, hversion, hproxy, hproperty]
  have htype : decl.wovenType lookup advice settings = decl.wovenType lookup advice settings' := by
    simp only [wovenType, hadded]
  refine ⟨rfl, rfl, rfl, rfl, htype, _, SourceFile.text_eq _, ?_⟩
  rw [Proxy.source, SourceFile.text_eq]
  exact congrArg (_ ++ ·) (congrArg WovenType.text htype.symm)

/-- Two weavers over the same declarations.  An interface comes out alike unless the heads of files
differ.  A class comes out alike in all versions of the runtime.  A trait comes out alike whatever
trait handles properties, in versions on one side of 7.3.0; and from there on it uses the trait that
dispatches calls besides.  Settings for the head of a file change the head of the file. -/
theorem weave_influence (lookup : String → Except Fault Declaration)
    (advising advising' : List String → List Advice) (settings settings' : WeaveSettings)
    (name : String) :
    (DeclaredAs lookup name .interfaceKind → settings.strictTypes = settings'.strictTypes →
        settings.banner = settings'.banner →
        weave lookup advising settings name = weave lookup advising' settings' name) ∧
      (DeclaredAs lookup name .classKind → ∀ version,
        weave lookup advising settings name =
          weave lookup advising { settings with version := version } name) ∧
      (DeclaredAs lookup name .traitKind → ∀ version property,
        (settings.version.AtLeast ⟨7, 3, 0⟩ ↔ version.AtLeast ⟨7, 3, 0⟩) →
        weave lookup advising settings name = weave lookup advising
          { settings with version := version, propertyTrait := property } name) ∧
      (DeclaredAs lookup name .traitKind → ∀ early late : Version, ¬early.AtLeast ⟨7, 3, 0⟩ →
        late.AtLeast ⟨7, 3, 0⟩ → Outcomes (Proxy.UsesBesides settings.proxyTrait)
          (weave lookup advising { settings with version := early } name)
          (weave lookup advising { settings with version := late } name)) ∧
      ∀ strict banner, Outcomes Proxy.AlikeBelow (weave lookup advising settings name)
        (weave lookup advising { settings with strictTypes := strict, banner := banner } name) := by
  refine ⟨?_, ?_, ?_, ?_, ?_⟩
  · rintro ⟨decl, hdecl, hkind⟩ hstrict hbanner
    refine (outcomes_weave fun other hother => ?_).eq
    obtain rfl := Except.ok.inj (hdecl.symm.trans hother)
    rw [decl.applicable_of_interface hkind, decl.applicable_of_interface hkind]
    exact decl.proxy_eq_of_addedTraits [] hstrict hbanner (by rw [hkind]; rfl)
  · rintro ⟨decl, hdecl, hkind⟩ version
    refine (outcomes_weave fun other hother => ?_).eq
    obtain rfl := Except.ok.inj (hdecl.symm.trans hother)
    exact decl.proxy_eq_of_addedTraits _ rfl rfl (by rw [hkind]; rfl)
  · rintro ⟨decl, hdecl, hkind⟩ version property hside
    refine (outcomes_weave fun other hother => ?_).eq
    obtain rfl := Except.ok.inj (hdecl.symm.trans hother)
    refine decl.proxy_eq_of_addedTraits _ rfl rfl ?_
    rw [hkind]
    by_cases hversion : version.AtLeast ⟨7, 3, 0⟩
    · rw [Declaration.addedTraits_of_atLeast (hside.2 hversion),
        Declaration.addedTraits_of_atLeast hversion]
    · rw [Declaration.addedTraits_of_not_atLeast (mt hside.1 hversion),
        Declaration.addedTraits_of_not_atLeast hversion]
  · rintro ⟨decl, hdecl, hkind⟩ early late hearly hlate
    refine outcomes_weave fun other hother => ?_
    obtain rfl := Except.ok.inj (hdecl.symm.trans hother)
    exact Declaration.usesBesides_proxy hkind _ hearly hlate
  · intro strict banner
    exact outcomes_weave fun decl _ => decl.alikeBelow_proxy _ rfl rfl rfl

/-- An interface `I`, a trait `T` with a method, and a class of every other name. -/
def mixedFamily (name : String) : Except Fault Declaration :=
  if name = "I" then .ok ((Declaration.empty "I" .interfaceKind).addMethod (.signature "run"))
  else if name = "T" then
    .ok ((Declaration.empty "T" .traitKind).addMethod ((Method.empty "run").addStatement "return 1;"))
  else .ok (Declaration.empty name .classKind)

/-- Advice on everything does not change `I`; the version does not change the class `A`, and changes
`T` between 7.2.34 and 7.3.0 by one line. -/
theorem weave_influence_of_mixedFamily :
    let settings : WeaveSettings := { WeaveSettings.standard with strictTypes := false, banner := "" }
    let advising : List String → List Advice := fun _ => []
    let advising' : List String → List Advice := fun types => types.map (Advice.bound "Log" · 0)
    let early : Version := ⟨7, 2, 34⟩
    let late : Version := ⟨7, 3, 0⟩
    (DeclaredAs mixedFamily "I" .interfaceKind ∧ weave mixedFamily advising settings "I" =
        weave mixedFamily advising' { settings with version := early, proxyTrait := "P" } "I") ∧
      (DeclaredAs mixedFamily "A" .classKind ∧ weave mixedFamily advising settings "A" =
        weave mixedFamily advising { settings with version := early } "A") ∧
      DeclaredAs mixedFamily "T" .traitKind ∧ ¬early.AtLeast ⟨7, 3, 0⟩ ∧ late.AtLeast ⟨7, 3, 0⟩ ∧
      weave mixedFamily advising { settings with version := late } "T" =
        weave mixedFamily advising { settings with version := ⟨8, 0, 0⟩, propertyTrait := "P" } "T" ∧
      Outcomes (Proxy.UsesBesides settings.proxyTrait)
        (weave mixedFamily advising { settings with version := early } "T")
        (weave mixedFamily advising { settings with version := late } "T") ∧
      (weave mixedFamily advising { settings with version := early } "T").map Proxy.source =
        .ok ("<?php\n\n\ntrait T\n" ++ leftBrace ++ "\n" ++
          "    public function run()\n    " ++ leftBrace ++ "\n        return 1;\n    " ++
          rightBrace ++ "\n" ++ rightBrace ++ "\n") ∧
      (weave mixedFamily advising { settings with version := late } "T").map Proxy.source =
        .ok ("<?php\n\n\ntrait T\n" ++ leftBrace ++ "\n" ++ "    use \\Weave\\Aop\\ProxyTrait;\n" ++
          "    public function run()\n    " ++ leftBrace ++ "\n        return 1;\n    " ++
          rightBrace ++ "\n" ++ rightBrace ++ "\n") := by
  intro settings advising advising' early late
  have hinterface : DeclaredAs mixedFamily "I" .interfaceKind := ⟨_, rfl, rfl⟩
  have hclass : DeclaredAs mixedFamily "A" .classKind := ⟨_, rfl, rfl⟩
  have htrait : DeclaredAs mixedFamily "T" .traitKind := ⟨_, rfl, rfl⟩
  have hearly : ¬early.AtLeast ⟨7, 3, 0⟩ := mt Version.isGE_order_iff.2 (by decide)
  have hlate : late.AtLeast ⟨7, 3, 0⟩ := Version.isGE_order_iff.1 (by decide)
  have hlater : Version.AtLeast ⟨8, 0, 0⟩ ⟨7, 3, 0⟩ := Version.isGE_order_iff.1 (by decide)
  obtain ⟨hsameInterface, -⟩ := weave_influence mixedFamily advising advising' settings
    { settings with version := early, proxyTrait := "P" } "I"
  obtain ⟨-, hsameClass, -⟩ := weave_influence mixedFamily advising advising settings settings "A"
  obtain ⟨-, -, -, hacross, -⟩ := weave_influence mixedFamily advising advising settings settings "T"
  obtain ⟨-, -, hsameTrait, -⟩ := weave_influence mixedFamily advising advising
    { settings with version := late } settings "T"
  refine ⟨⟨hinterface, hsameInterface hinterface rfl rfl⟩, ⟨hclass, hsameClass hclass early⟩, htrait,
    hearly, hlate, ?_, hacross htrait early late hearly hlate, by decide +kernel, by decide +kernel⟩
  exact hsameTrait htrait ⟨8, 0, 0⟩ "P" (iff_of_true hlate hlater)

end Interception
