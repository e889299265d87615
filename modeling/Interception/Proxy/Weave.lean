import Interception.Log
import Interception.Proxy.Dispatch
import Interception.Proxy.Layout
import Interception.Proxy.Support
import Interception.Settings

/-!
# Weaving

The proxy of a type is made from its declaration, from what can be looked up about its ancestors, and
from the advice that applies to the type, to its traits or to its interfaces.  Nothing is kept from
one proxy to the next.
-/

namespace Interception

open Name Text

/-- A woven proxy. -/
structure Proxy where
  /-- The name of the declared type. -/
  name : String
  kind : Kind
  /-- The methods whose bodies go through the dispatcher. -/
  intercepted : List String
  file : SourceFile

/-- The source text of a proxy. -/
def Proxy.source (proxy : Proxy) : String := proxy.file.text

/-- Whether the method of that name, in any case, goes through the dispatcher. -/
def Proxy.intercepts (proxy : Proxy) (name : String) : Bool :=
  proxy.intercepted.any (sameLetters · name)

namespace Declaration

/-- The names of types that advice on a method of this one may be bound to. -/
def adviceTypes (decl : Declaration) : List String := decl.name :: (decl.traits ++ decl.interfaces)

/-- The advice that may apply to the methods of the type; none for an interface. -/
def applicable (advising : List String → List Advice) (decl : Declaration) : List Advice :=
  if decl.kind = .interfaceKind then [] else advising decl.adviceTypes

/-- The traits that weaving adds to a type. -/
def addedTraits (settings : WeaveSettings) : Kind → List String
  | .classKind => [settings.proxyTrait, settings.propertyTrait]
  | .traitKind => if settings.version.allowsTraitProxies then [settings.proxyTrait] else []
  | .interfaceKind => []

/-- Whether the class needs a constructor. -/
def lacksConstructor (decl : Declaration) : Bool :=
  decl.kind = .classKind && decl.constructor?.isNone

/-- The constructor made for a class that has none. -/
def madeConstructor (lookup : String → Except Fault Declaration) (decl : Declaration) :
    List Member :=
  if decl.lacksConstructor then [.method (Inheritance.find lookup decl).synthesized] else []

/-- The members of the woven type. -/
def wovenMembers (lookup : String → Except Fault Declaration) (advice : List Advice)
    (decl : Declaration) : List Member :=
  decl.constants.map .constant ++ decl.properties.map .property ++ decl.madeConstructor lookup ++
    decl.methods.map fun method => .method (method.treated decl.kind advice)

/-- The woven type. -/
def wovenType (lookup : String → Except Fault Declaration) (advice : List Advice)
    (settings : WeaveSettings) (decl : Declaration) : WovenType :=
  let interfaces := decl.interfaces.map (display · decl.space)
  let isInterface := decl.kind = .interfaceKind
  { kind := decl.kind
    name := decl.shortName
    isAbstract := decl.isAbstract
    isFinal := decl.isFinal
    parents := if isInterface then interfaces else decl.parent.toList.map (display · decl.space)
    contracts := if isInterface then [] else interfaces
    mixins := addedTraits settings decl.kind ++ decl.traits.map (display · decl.space)
    members := decl.wovenMembers lookup advice }

/-- The names of the methods that go through the dispatcher. -/
def intercepted (advice : List Advice) (decl : Declaration) : List String :=
  (decl.methods.filter fun method => method.treatment decl.kind advice = .dispatched).map
    Method.name

/-- The proxy of a declaration that nothing stands in the way of. -/
def proxy (lookup : String → Except Fault Declaration) (advice : List Advice)
    (settings : WeaveSettings) (decl : Declaration) : Proxy where
  name := decl.name
  kind := decl.kind
  intercepted := decl.intercepted advice
  file :=
    { strictTypes := settings.strictTypes
      banner := settings.banner
      space := if decl.space = "" then none else some decl.space
      type := decl.wovenType lookup advice settings }

/-- What is worth noting about the constructor made for a class. -/
def constructorEvents (lookup : String → Except Fault Declaration) (decl : Declaration) :
    List Event :=
  match decl.lacksConstructor, decl.parent with
  | true, some parent =>
    match lookup parent with
    | .error _ => [.parentUnavailable decl.name parent]
    | .ok _ => []
  | _, _ => []

/-- What is worth noting about the treatment of a method. -/
def methodEvents (advice : List Advice) (decl : Declaration) (method : Method) : List Event :=
  match method.treatment decl.kind advice with
  | .dispatched => [.intercepting decl.name method.name]
  | .unwrappable => [.notWrappable decl.name method.name]
  | .plain => []
  | .hooked => []

/-- What is worth noting about a proxy. -/
def proxyEvents (lookup : String → Except Fault Declaration) (advice : List Advice)
    (decl : Declaration) : List Event :=
  decl.constructorEvents lookup ++ decl.methods.flatMap (decl.methodEvents advice) ++
    [.woven decl.name decl.kind advice.length (decl.intercepted advice).length]

end Declaration

/-- The declaration of a type that can be woven. -/
def weavable (lookup : String → Except Fault Declaration) (name : String) :
    Except Fault Declaration :=
  match lookup name with
  | .error fault => .error fault
  | .ok decl =>
    match decl.obstacle? with
    | some obstacle => .error (.unsupported decl.name obstacle.text)
    | none => .ok decl

/-- The proxy of the type called `name`. -/
def weave (lookup : String → Except Fault Declaration) (advising : List String → List Advice)
    (settings : WeaveSettings) (name : String) : Except Fault Proxy :=
  (weavable lookup name).map fun decl => decl.proxy lookup (decl.applicable advising) settings

/-- Weaving succeeds exactly for declarations that nothing stands in the way of. -/
theorem weave_eq_ok_iff {lookup : String → Except Fault Declaration}
    {advising : List String → List Advice} {settings : WeaveSettings} {name : String}
    {proxy : Proxy} :
    weave lookup advising settings name = .ok proxy ↔
      ∃ decl, lookup name = .ok decl ∧ decl.obstacle? = none ∧
        decl.proxy lookup (decl.applicable advising) settings = proxy := by
  unfold weave weavable
  cases lookup name with
  | error fault => simp [Except.map]
  | ok decl => cases h : decl.obstacle? <;> simp [Except.map, h]

/-- The events that weaving the type called `name` leaves. -/
def weaveEvents (lookup : String → Except Fault Declaration) (advising : List String → List Advice)
    (name : String) : List Event :=
  match weavable lookup name with
  | .error _ => []
  | .ok decl => decl.proxyEvents lookup (decl.applicable advising)

/-- The proxies of several types, or the first fault. -/
def weaveAll (lookup : String → Except Fault Declaration) (advising : List String → List Advice)
    (settings : WeaveSettings) (names : List String) : Except Fault (List Proxy) :=
  names.mapM (weave lookup advising settings)

/-- The events that weaving several types leaves, up to the first fault. -/
def weaveAllEvents (lookup : String → Except Fault Declaration)
    (advising : List String → List Advice) : List String → List Event
  | [] => []
  | name :: others =>
    match weavable lookup name with
    | .error _ => []
    | .ok _ => weaveEvents lookup advising name ++ weaveAllEvents lookup advising others

end Interception
