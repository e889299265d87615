import Interception.Proxy.SourceFile
import Interception.Text.Blank
import Interception.Text.Brace
import Interception.Text.Cut

/-!
# Layout of woven source files

A file is laid out as a list of lines.  Four blanks stand before a line for each level that it lies
deep; lines of a declared statement that hold white space only stay as they are.  The braces of types
and methods have lines of their own, and no blank lines stand between members.
-/

namespace Interception.Layout

open Text

/-- The blanks before a line that lies `level` deep. -/
def margin (level : Nat) : List Char := List.replicate (4 * level) ' '

/-- A line that lies `level` deep. -/
def lineAt (level : Nat) (line : String) : String := String.ofList (margin level) ++ line

/-- The line moved `level` deeper; white space alone is not moved. -/
def deeper (level : Nat) (line : List Char) : List Char :=
  if allBlank line then line else margin level ++ line

/-- The lines of a text, each `level` deep. -/
def blockAt (level : Nat) (text : String) : List String :=
  (pieces '\n' text.toList).map fun line => String.ofList (deeper level line)

/-- The lines as text, each with its end. -/
def joined : List String → String
  | [] => ""
  | line :: others => line ++ "\n" ++ joined others

/-- `text` when `condition` holds. -/
def onlyIf (condition : Bool) (text : String) : String := if condition then text else ""

/-- The text of a modifier with a blank after it. -/
def accessPart (access : Option Access) : String :=
  match access with
  | some access => access.keyword ++ " "
  | none => ""

/-- The default value after its sign. -/
def defaultPart (default : Option String) : String :=
  match default with
  | some default => " = " ++ default
  | none => ""

/-- The type with a blank after it. -/
def hintPart (hint : Option String) : String :=
  match hint with
  | some hint => hint ++ " "
  | none => ""

/-- A parameter in a signature. -/
def parameter (parameter : Parameter) : String :=
  hintPart parameter.hint ++ onlyIf parameter.byRef "&" ++ onlyIf parameter.variadic "..." ++ "$" ++
    parameter.name ++ defaultPart parameter.default

/-- The parameters of a signature. -/
def parameters (list : List Parameter) : String := listed (list.map parameter)

/-- An argument of a call. -/
def argument (argument : Argument) : String := onlyIf argument.spread "..." ++ "$" ++ argument.name

/-- A variable that a closure takes along. -/
def capture (capture : Capture) : String := onlyIf capture.byRef "&" ++ "$" ++ capture.name

/-- The line that opens a call of the dispatcher. -/
def dispatchLine (scope : MagicWord) (returns : Bool) (captures : List Capture) : String :=
  onlyIf returns "return " ++ "self::__proxyCall(" ++ scope.text ++
    ", __FUNCTION__, self::__getParamsMap(__CLASS__, __FUNCTION__, func_get_args()), " ++
    "function () use(" ++ listed (captures.map capture) ++ ") " ++ leftBrace

mutual

/-- The lines of a statement that lies `level` deep. -/
def stmtAt (level : Nat) : Stmt → List String
  | .verbatim text => blockAt level text
  | .handleProperties => [lineAt level "self::__handlePropertyHandler(__CLASS__);"]
  | .callParent arguments =>
    [lineAt level ("parent::__construct(" ++ listed (arguments.map argument) ++ ");")]
  | .callParentIfAny =>
    [lineAt level ("if (method_exists(parent::class, '__construct')) " ++ leftBrace),
     lineAt (level + 1) "parent::__construct(...func_get_args());",
     lineAt level rightBrace]
  | .keep name word => [lineAt level ("$" ++ name ++ " = " ++ word.text ++ ";")]
  | .dispatch scope returns captures body =>
    lineAt level (dispatchLine scope returns captures) ::
      (stmtsAt (level + 1) body ++ [lineAt level (rightBrace ++ ");")])

/-- The lines of statements that lie `level` deep. -/
def stmtsAt (level : Nat) : List Stmt → List String
  | [] => []
  | first :: others => stmtAt level first ++ stmtsAt level others

end

/-- The signature of a method. -/
def signature (method : WovenMethod) : String :=
  accessPart method.access ++ onlyIf method.isStatic "static " ++
    onlyIf method.isAbstract "abstract " ++ onlyIf method.isFinal "final " ++ "function " ++
    method.name ++ "(" ++ parameters method.parameters ++ ")" ++
    (match method.returns with
    | some type => " : " ++ type
    | none => "")

/-- The line of a constant. -/
def constantLine (constant : Constant) : String :=
  accessPart constant.access ++ "const " ++ constant.name ++ " = " ++ constant.value ++ ";"

/-- The line of a property.  Without any modifier it begins with `var`. -/
def propertyLine (property : Property) : String :=
  (match property.access with
  | some access => access.keyword ++ " "
  | none => onlyIf (!property.isStatic) "var ") ++
    onlyIf property.isStatic "static " ++ hintPart property.hint ++ "$" ++ property.name ++
    defaultPart property.default ++ ";"

/-- The lines of a member. -/
def member : Member → List String
  | .constant constant => [lineAt 1 (constantLine constant)]
  | .property property => [lineAt 1 (propertyLine property)]
  | .method method =>
    match method.body with
    | none => [lineAt 1 (signature method ++ ";")]
    | some body =>
      lineAt 1 (signature method) :: lineAt 1 leftBrace :: (stmtsAt 2 body ++ [lineAt 1 rightBrace])

/-- The line that introduces a type. -/
def typeLine (type : WovenType) : String :=
  onlyIf type.isAbstract "abstract " ++ onlyIf type.isFinal "final " ++ type.kind.keyword ++ " " ++
    type.name ++ (if type.parents = [] then "" else " extends " ++ listed type.parents) ++
    (if type.contracts = [] ∨ type.kind ≠ .classKind then ""
    else " implements " ++ listed type.contracts)

/-- The lines of a type up to its closing brace. -/
def typeBody (type : WovenType) : List String :=
  typeLine type :: leftBrace :: (type.mixins.map (fun name => lineAt 1 ("use " ++ name ++ ";")) ++
    type.members.flatMap member)

/-- The lines before the type. -/
def head (file : SourceFile) : List String :=
  ["<?php", ""] ++ (if file.strictTypes then ["declare (strict_types=1);"] else []) ++
    (if file.banner = "" then [] else blockAt 0 file.banner) ++
    (match file.space with
    | some space => ["namespace " ++ space ++ ";"]
    | none => []) ++ [""]

/-- The lines of a file. -/
def lines (file : SourceFile) : List String := head file ++ typeBody file.type ++ [rightBrace]

end Interception.Layout

/-- The text of a source file. -/
def Interception.SourceFile.text (file : SourceFile) : String := Layout.joined (Layout.lines file)
