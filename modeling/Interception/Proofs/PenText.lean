import Mathlib.Logic.Function.Iterate
import Interception.Proofs.PrintedBodies

/-!
# Writing a source file with a pen

A pen writes a file from left to right and remembers how deep its lines lie; the layout gives every line
with the depth that it has where it stands.  Main statement: the pen writes the text of the layout.  A
statement that has been written leaves the depth as it was, and deeper it differs in the blanks before
its lines only; the text of a member is the same whatever stands before or after it.
-/

namespace Interception

open Text Layout

/-! ## The pen -/

/-- What has been written, and how deep the next line lies. -/
structure Pen where
  text : String
  level : Nat

namespace Pen

/-- A pen that has written nothing. -/
def fresh : Pen := ⟨"", 0⟩

/-- Writes on. -/
def write (pen : Pen) (text : String) : Pen := { pen with text := pen.text ++ text }

/-- Ends the line. -/
def endLine (pen : Pen) : Pen := pen.write "\n"

/-- Writes four blanks for each level. -/
def indent (pen : Pen) : Pen := (fun pen => pen.write "    ")^[pen.level] pen

/-- The next lines lie one level deeper. -/
def deeper (pen : Pen) : Pen := { pen with level := pen.level + 1 }

/-- The next lines lie one level less deep, unless they lie on the first one. -/
def back (pen : Pen) : Pen := { pen with level := pen.level - 1 }

/-- Writes a line, from its margin to its end. -/
def line (pen : Pen) (text : String) : Pen := (pen.indent.write text).endLine

/-- Writes a line of a declared text.  White space alone has no margin. -/
def declaredLine (pen : Pen) (line : List Char) : Pen :=
  ((if allBlank line then pen else pen.indent).write (String.ofList line)).endLine

/-- Writes the lines of a declared text. -/
def block (pen : Pen) (text : String) : Pen := (pieces '\n' text.toList).foldl declaredLine pen

mutual

/-- Writes a statement. -/
def stmt (pen : Pen) : Stmt → Pen
  | .verbatim text => pen.block text
  | .handleProperties => pen.line "self::__handlePropertyHandler(__CLASS__);"
  | .callParent arguments =>
    pen.line ("parent::__construct(" ++ listed (arguments.map argument) ++ ");")
  | .callParentIfAny =>
    let opened := (pen.line ("if (method_exists(parent::class, '__construct')) " ++ leftBrace)).deeper
    (opened.line "parent::__construct(...func_get_args());").back.line rightBrace
  | .keep name word => pen.line ("$" ++ name ++ " = " ++ word.text ++ ";")
  | .dispatch scope returns captures body =>
    let opened := (pen.line (dispatchLine scope returns captures)).deeper
    (opened.stmts body).back.line (rightBrace ++ ");")

/-- Writes statements one after the other. -/
def stmts (pen : Pen) : List Stmt → Pen
  | [] => pen
  | first :: others => (pen.stmt first).stmts others

end

/-- Writes a member of a type. -/
def member (pen : Pen) : Member → Pen
  | .constant constant => pen.line (constantLine constant)
  | .property property => pen.line (propertyLine property)
  | .method method =>
    match method.body with
    | none => pen.line (signature method ++ ";")
    | some body =>
      let opened := ((pen.line (signature method)).line leftBrace).deeper
      (opened.stmts body).back.line rightBrace

/-- Writes a type, whose own lines have no margin. -/
def type (pen : Pen) (type : WovenType) : Pen :=
  let opened := ((pen.write (typeLine type)).endLine.write leftBrace).endLine.deeper
  let mixed := type.mixins.foldl (fun pen name => pen.line ("use " ++ name ++ ";")) opened
  ((type.members.foldl member mixed).back.write rightBrace).endLine

/-- Writes what stands before the type. -/
def head (pen : Pen) (file : SourceFile) : Pen :=
  let opened := (pen.write "<?php").endLine.endLine
  let strict :=
    if file.strictTypes then (opened.write "declare (strict_types=1);").endLine else opened
  let bannered := if file.banner = "" then strict else strict.block file.banner
  let placed := match file.space with
    | some space => (bannered.write ("namespace " ++ space ++ ";")).endLine
    | none => bannered
  placed.endLine

/-- Writes a file. -/
def file (pen : Pen) (file : SourceFile) : Pen := (pen.head file).type file.type

/-! ## The pen writes the lines of the layout -/

/-- The pen after it has written these lines. -/
def put (pen : Pen) (lines : List String) : Pen := pen.write (joined lines)

@[simp] theorem level_put (pen : Pen) (lines : List String) : (pen.put lines).level = pen.level := rfl

@[simp] theorem level_deeper (pen : Pen) : pen.deeper.level = pen.level + 1 := rfl

@[simp] theorem text_put (pen : Pen) (lines : List String) :
    (pen.put lines).text = pen.text ++ joined lines := rfl

@[simp] theorem put_nil (pen : Pen) : pen.put [] = pen := by
  simp [put, write, joined]

@[simp] theorem put_put (pen : Pen) (first second : List String) :
    (pen.put first).put second = pen.put (first ++ second) := by
  simp [put, write, joined_append, String.append_assoc]

/-- A line without a margin. -/
theorem endLine_write (pen : Pen) (text : String) : (pen.write text).endLine = pen.put [text] := by
  simp [put, endLine, write, joined, String.append_assoc]

theorem indent_eq (pen : Pen) : pen.indent = pen.write (String.ofList (margin pen.level)) := by
  have hblanks : ∀ count : Nat, (fun pen : Pen => pen.write "    ")^[count] pen =
      pen.write (String.ofList (margin count)) := by
    intro count
    induction count with
    | zero => simp [write, margin]
    | succ count ih =>
      have hfour : String.ofList (margin 1) = "    " := by decide
      rw [Function.iterate_succ_apply', ih, margin_add, String.ofList_append, hfour]
      simp [write, String.append_assoc]
  exact hblanks pen.level

@[simp] theorem line_eq (pen : Pen) (text : String) :
    pen.line text = pen.put [lineAt pen.level text] := by
  rw [line, indent_eq, ← endLine_write, lineAt]
  simp [write, String.append_assoc]

theorem declaredLine_eq (pen : Pen) (line : List Char) :
    pen.declaredLine line = pen.put [String.ofList (Layout.deeper pen.level line)] := by
  rw [declaredLine, ← endLine_write, Layout.deeper]
  split
  · rfl
  · rw [indent_eq, String.ofList_append]
    simp [write, String.append_assoc]

theorem block_eq (pen : Pen) (text : String) : pen.block text = pen.put (blockAt pen.level text) := by
  have hlines : ∀ (lines : List (List Char)) (pen : Pen), lines.foldl declaredLine pen =
      pen.put (lines.map fun line => String.ofList (Layout.deeper pen.level line)) := by
    intro lines
    induction lines with
    | nil => simp
    | cons line others ih =>
      intro pen
      rw [List.foldl_cons, ih, declaredLine_eq, put_put, level_put]
      rfl
  exact hlines _ pen

/-- Lines between a step down and the step back are lines. -/
theorem back_put_deeper (pen : Pen) (lines : List String) :
    (pen.deeper.put lines).back = pen.put lines := rfl

mutual

/-- A statement is written in lines as deep as the pen is, which stays so deep. -/
theorem stmt_eq (pen : Pen) : ∀ stmt : Stmt, pen.stmt stmt = pen.put (stmtAt pen.level stmt)
  | .verbatim text => by
    rw [Pen.stmt, stmtAt, block_eq]
  | .handleProperties => by
    rw [Pen.stmt, stmtAt, line_eq]
  | .callParent arguments => by
    rw [Pen.stmt, stmtAt, line_eq]
  | .callParentIfAny => by
    rw [Pen.stmt, stmtAt, line_eq, line_eq, back_put_deeper, line_eq, put_put, put_put]
    rfl
  | .keep name word => by
    rw [Pen.stmt, stmtAt, line_eq]
  | .dispatch scope returns captures body => by
    rw [Pen.stmt, stmtAt, line_eq, stmts_eq _ body, back_put_deeper, line_eq, put_put, put_put]
    rfl

/-- So are statements one after the other. -/
theorem stmts_eq (pen : Pen) : ∀ stmts : List Stmt, pen.stmts stmts = pen.put (stmtsAt pen.level stmts)
  | [] => by
    rw [Pen.stmts, stmtsAt, put_nil]
  | first :: others => by
    rw [Pen.stmts, stmtsAt, stmt_eq pen first, stmts_eq _ others, put_put, level_put]

end

/-- Members lie one level deep. -/
theorem member_eq {pen : Pen} (hlevel : pen.level = 1) (member : Member) :
    pen.member member = pen.put (Layout.member member) := by
  cases member with
  | constant constant => rw [Pen.member, Layout.member, line_eq, hlevel]
  | property property => rw [Pen.member, Layout.member, line_eq, hlevel]
  | method method =>
    rw [Pen.member, Layout.member]
    cases method.body with
    | none => exact (line_eq pen _).trans (by rw [hlevel])
    | some body =>
      dsimp only
      rw [line_eq pen, line_eq (pen.put _), put_put, stmts_eq _ body, back_put_deeper, line_eq, put_put,
        put_put]
      simp only [level_deeper, level_put, hlevel]
      rfl

/-- One after the other, each at the same depth. -/
theorem foldl_put {α : Type} {write : Pen → α → Pen} {lines : α → List String} {level : Nat}
    (h : ∀ pen a, pen.level = level → write pen a = pen.put (lines a)) {pen : Pen}
    (hlevel : pen.level = level) (items : List α) :
    items.foldl write pen = pen.put (items.flatMap lines) := by
  induction items generalizing pen with
  | nil => rw [List.foldl_nil, List.flatMap_nil, put_nil]
  | cons first others ih =>
    rw [List.foldl_cons, h pen first hlevel, ih ((level_put _ _).trans hlevel), put_put,
      List.flatMap_cons]

/-- A type is written from the first level on. -/
theorem type_eq {pen : Pen} (hlevel : pen.level = 0) (type : WovenType) :
    pen.type type = pen.put (typeBody type ++ [rightBrace]) := by
  have hmixins : ∀ (pen : Pen) (name : String), pen.level = 1 →
      pen.line ("use " ++ name ++ ";") = pen.put [lineAt 1 ("use " ++ name ++ ";")] :=
    fun pen name hpen => (line_eq pen _).trans (by rw [hpen])
  have hopened : (pen.put [typeLine type, leftBrace]).deeper.level = 1 := congrArg (· + 1) hlevel
  rw [Pen.type, endLine_write pen, endLine_write (pen.put _), put_put]
  dsimp only [List.singleton_append]
  rw [foldl_put hmixins hopened, foldl_put (fun _ member hpen => member_eq hpen member)
      ((level_put _ _).trans hopened), put_put, back_put_deeper, endLine_write, put_put, put_put,
    ← List.map_eq_flatMap, typeBody]
  rfl

theorem head_eq {pen : Pen} (hlevel : pen.level = 0) (file : SourceFile) :
    pen.head file = pen.put (Layout.head file) := by
  have hempty : ∀ pen : Pen, pen.endLine = pen.put [""] := by
    intro pen
    simp [endLine, put, write, joined]
  have hstrict : ∀ pen : Pen,
      (if file.strictTypes then (pen.write "declare (strict_types=1);").endLine else pen) =
        pen.put (if file.strictTypes then ["declare (strict_types=1);"] else []) := by
    intro pen
    split
    · exact endLine_write pen _
    · exact (put_nil pen).symm
  have hbanner : ∀ pen : Pen, pen.level = 0 →
      (if file.banner = "" then pen else pen.block file.banner) =
        pen.put (if file.banner = "" then [] else blockAt 0 file.banner) := by
    intro pen hpen
    split
    · exact (put_nil pen).symm
    · rw [block_eq, hpen]
  have hspace : ∀ pen : Pen,
      (match file.space with
        | some space => (pen.write ("namespace " ++ space ++ ";")).endLine
        | none => pen) =
        pen.put (match file.space with
          | some space => ["namespace " ++ space ++ ";"]
          | none => []) := by
    intro pen
    cases file.space with
    | none => exact (put_nil pen).symm
    | some space => exact endLine_write pen _
  rw [Pen.head, endLine_write pen, hempty (pen.put _), put_put, hstrict, put_put,
    hbanner (pen.put _) hlevel, put_put, hspace, put_put, hempty, put_put]
  rfl

/-- A file is written from the first level on. -/
theorem file_eq {pen : Pen} (hlevel : pen.level = 0) (file : SourceFile) :
    pen.file file = pen.put (Layout.lines file) := by
  rw [Pen.file, head_eq hlevel, type_eq ((level_put _ _).trans hlevel), put_put, Layout.lines,
    List.append_assoc]

/-- What the pen writes of a file is its text. -/
theorem text_file (file : SourceFile) : (fresh.file file).text = file.text := by
  rw [file_eq rfl, text_put]
  exact String.empty_append

end Pen

/-! ## Statements at another depth -/

namespace Stmt

mutual

/-- The names of the variables in the lines that weaving adds. -/
def names : Stmt → List String
  | .verbatim _ => []
  | .handleProperties => []
  | .callParent arguments => arguments.map Argument.name
  | .callParentIfAny => []
  | .keep name _ => [name]
  | .dispatch _ _ captures body => captures.map Capture.name ++ namesOf body

/-- The names in statements, in order. -/
def namesOf : List Stmt → List String
  | [] => []
  | first :: others => names first ++ namesOf others

end

/-- No name breaks a line. -/
def Unbroken (stmt : Stmt) : Prop := ∀ name ∈ stmt.names, '\n' ∉ name.toList

end Stmt

namespace Layout

/-- The text with so many blanks before every line that is not white space. -/
def indentedText (width : Nat) (text : String) : String :=
  String.ofList (List.intercalate ['\n'] ((pieces '\n' text.toList).map (indented width)))

/-- Lines put together and then moved to the right are lines moved to the right. -/
theorem indentedText_joined (level : Nat) {lines : List String}
    (h : ∀ line ∈ lines, '\n' ∉ line.toList) :
    indentedText (4 * level) (joined lines) = joined (lines.map (moved level)) := by
  -- nothing stands after the last line end, and nothing is not moved
  have hend : indented (4 * level) [] = [] := rfl
  rw [indentedText, pieces_joined, linesOf_of_not_mem h, List.map_append, List.map_singleton, hend,
    intercalate_append_nil, String.ofList_toList, List.map_map, List.map_map]
  rfl

theorem not_mem_lineAt {line : String} (level : Nat) (h : '\n' ∉ line.toList) :
    '\n' ∉ (lineAt level line).toList := by
  simp [lineAt, margin, h]

theorem not_mem_of_mem_blockAt {level : Nat} {text line : String} (h : line ∈ blockAt level text) :
    '\n' ∉ line.toList := by
  obtain ⟨plain, hplain, rfl⟩ := List.mem_map.1 h
  have hnone := not_mem_of_mem_pieces hplain
  rw [String.toList_ofList, deeper]
  split
  · exact hnone
  · simp [margin, hnone]

/-- What a parent is called with is one line if the names of the arguments are. -/
theorem not_mem_arguments {arguments : List Argument}
    (h : ∀ passed ∈ arguments, '\n' ∉ passed.name.toList) :
    '\n' ∉ (listed (arguments.map argument)).toList := by
  refine not_mem_listed (List.forall_mem_map.2 fun passed hpassed => ?_)
  have hsign : '\n' ∉ (onlyIf passed.spread "...").toList := by
    cases passed.spread <;> decide
  simp [argument, h passed hpassed, hsign]

mutual

/-- No line of a statement is broken unless a name in it is. -/
theorem not_mem_of_mem_stmtAt (level : Nat) : ∀ stmt : Stmt, stmt.Unbroken →
    ∀ line ∈ stmtAt level stmt, '\n' ∉ line.toList
  | .verbatim text, _ => by
    rw [stmtAt]
    exact fun line => not_mem_of_mem_blockAt
  | .handleProperties, _ => by
    rw [stmtAt, List.forall_mem_singleton]
    exact not_mem_lineAt level (by decide +kernel)
  | .callParent arguments, hnames => by
    have harguments := not_mem_arguments fun passed hpassed =>
      hnames passed.name (List.mem_map_of_mem hpassed)
    rw [stmtAt, List.forall_mem_singleton]
    exact not_mem_lineAt level (by simp [harguments])
  | .callParentIfAny, _ => by
    rw [stmtAt, List.forall_mem_cons, List.forall_mem_cons, List.forall_mem_singleton]
    exact ⟨not_mem_lineAt level (by decide +kernel), not_mem_lineAt (level + 1) (by decide +kernel),
      not_mem_lineAt level (by decide +kernel)⟩
  | .keep name word, hnames => by
    have hname := hnames name (List.mem_singleton_self name)
    have hword : '\n' ∉ word.text.toList := by cases word <;> decide
    rw [stmtAt, List.forall_mem_singleton]
    exact not_mem_lineAt level (by simp [hname, hword])
  | .dispatch scope returns captures body, hnames => by
    have hline := not_mem_dispatchLine scope returns fun captured hcaptured =>
      hnames captured.name (List.mem_append_left _ (List.mem_map_of_mem hcaptured))
    have hbody := not_mem_of_mem_stmtsAt (level + 1) body fun name hname =>
      hnames name (List.mem_append_right _ hname)
    rw [stmtAt, List.forall_mem_cons, List.forall_mem_append, List.forall_mem_singleton]
    exact ⟨not_mem_lineAt level hline, hbody, not_mem_lineAt level (by decide +kernel)⟩

/-- Nor is a line of statements. -/
theorem not_mem_of_mem_stmtsAt (level : Nat) : ∀ stmts : List Stmt,
    (∀ name ∈ Stmt.namesOf stmts, '\n' ∉ name.toList) →
    ∀ line ∈ stmtsAt level stmts, '\n' ∉ line.toList
  | [], _ => by
    rw [stmtsAt]
    exact fun line hline => absurd hline List.not_mem_nil
  | first :: others, hnames => by
    have hfirst := not_mem_of_mem_stmtAt level first fun name hname =>
      hnames name (List.mem_append_left _ hname)
    have hothers := not_mem_of_mem_stmtsAt level others fun name hname =>
      hnames name (List.mem_append_right _ hname)
    rw [stmtsAt, List.forall_mem_append]
    exact ⟨hfirst, hothers⟩

end

end Layout

namespace Pen

/-- A statement that is written deeper is the same statement moved to the right. -/
theorem text_stmt {stmt : Stmt} (hstmt : stmt.Unbroken) (pen : Pen) :
    (pen.stmt stmt).text = pen.text ++ indentedText (4 * pen.level) (fresh.stmt stmt).text := by
  have hfresh : (fresh.stmt stmt).text = joined (stmtAt 0 stmt) := by
    rw [stmt_eq, text_put]
    exact String.empty_append
  rw [stmt_eq, text_put, hfresh, indentedText_joined pen.level (not_mem_of_mem_stmtAt 0 stmt hstmt),
    ← stmtAt_add pen.level 0 stmt, Nat.add_zero]

/-- The text of a member where it stands in a type, whatever stands before it. -/
def memberText (member : Member) : String := ((⟨"", 1⟩ : Pen).member member).text

theorem memberText_eq (member : Member) : memberText member = joined (Layout.member member) := by
  rw [memberText, member_eq rfl, text_put]
  exact String.empty_append

end Pen

/-! ## Members side by side -/

namespace SourceFile

/-- The file with other members in its type. -/
def withMembers (file : SourceFile) (members : List Member) : SourceFile :=
  { file with type := { file.type with members := members } }

/-- The text before the members. -/
def opening (file : SourceFile) : String :=
  joined (Layout.head file ++ typeLine file.type :: leftBrace ::
    file.type.mixins.map fun name => lineAt 1 ("use " ++ name ++ ";"))

/-- The members stand between the text before them and the brace that closes the type. -/
theorem text_withMembers (file : SourceFile) (members : List Member) :
    (file.withMembers members).text =
      file.opening ++ String.join (members.map Pen.memberText) ++ (rightBrace ++ "\n") := by
  have hmembers : joined (members.flatMap Layout.member) =
      String.join (members.map Pen.memberText) := by
    induction members with
    | nil => rfl
    | cons first others ih =>
      rw [List.flatMap_cons, joined_append, ih, List.map_cons, String.join_cons, Pen.memberText_eq]
  have hlines : Layout.lines (file.withMembers members) =
      (Layout.head file ++ typeLine file.type :: leftBrace ::
        file.type.mixins.map fun name => lineAt 1 ("use " ++ name ++ ";")) ++
      members.flatMap Layout.member ++ [rightBrace] := by
    show Layout.head file ++ typeBody { file.type with members := members } ++ [rightBrace] = _
    simp only [typeBody, List.append_assoc, List.cons_append]
    rfl
  rw [text, hlines, joined_append, joined_append, hmembers, opening]
  rfl

end SourceFile

/-- The pen writes the text of every file.  A statement, however deep others stand in it, leaves the pen
as deep as it was, and what is written of it deeper is what is written at the first level, moved to the
right.  The text of a member is the same in every type: members that come last stand with their own
texts between what is written without them and the brace that closes the type. -/
theorem writing_composes :
    (∀ file : SourceFile, (Pen.fresh.file file).text = file.text) ∧
      (∀ (stmt : Stmt) (pen : Pen), (pen.stmt stmt).level = pen.level ∧
        (stmt.Unbroken → (pen.stmt stmt).text =
          pen.text ++ indentedText (4 * pen.level) (Pen.fresh.stmt stmt).text)) ∧
      ∀ (file : SourceFile) (first last : List Member), ∃ front,
        (file.withMembers first).text = front ++ (rightBrace ++ "\n") ∧
        (file.withMembers (first ++ last)).text =
          front ++ String.join (last.map Pen.memberText) ++ (rightBrace ++ "\n") := by
  refine ⟨Pen.text_file, ?_, ?_⟩
  · intro stmt pen
    have hlevel : (pen.stmt stmt).level = pen.level := by rw [Pen.stmt_eq, Pen.level_put]
    exact ⟨hlevel, fun hstmt => Pen.text_stmt hstmt pen⟩
  · intro file first last
    refine ⟨file.opening ++ String.join (first.map Pen.memberText), file.text_withMembers first, ?_⟩
    rw [file.text_withMembers, List.map_append, String.join_append, String.append_assoc,
      String.append_assoc, String.append_assoc, String.append_assoc]

/-- A call of the dispatcher in a call of the dispatcher, around a statement of several lines. -/
def nestedCall : Stmt :=
  .dispatch .ofClass true [⟨"a", false⟩]
    [.keep "b" .ofMethod,
     .dispatch .ofTrait false [⟨"a", true⟩] [.verbatim "if ($a):\n \n    f();\nendif;"]]

/-- Two levels deep, the pen writes what it writes of that call at the first level, moved by eight
blanks. -/
theorem writing_composes_of_nestedCall :
    let pen : Pen := ⟨"class A\n", 2⟩
    nestedCall.Unbroken ∧ (pen.stmt nestedCall).level = 2 ∧
      (pen.stmt nestedCall).text = "class A\n" ++ indentedText 8 (joined
        [dispatchLine .ofClass true [⟨"a", false⟩], "    $b = __METHOD__;",
         "    " ++ dispatchLine .ofTrait false [⟨"a", true⟩], "        if ($a):", " ",
         "            f();", "        endif;", "    " ++ rightBrace ++ ");", rightBrace ++ ");"]) := by
  intro pen
  have hunbroken : nestedCall.Unbroken := by
    show ∀ name ∈ ["a", "b", "a"], '\n' ∉ name.toList
    decide
  have hfirst : (Pen.fresh.stmt nestedCall).text = joined
      [dispatchLine .ofClass true [⟨"a", false⟩], "    $b = __METHOD__;",
       "    " ++ dispatchLine .ofTrait false [⟨"a", true⟩], "        if ($a):", " ",
       "            f();", "        endif;", "    " ++ rightBrace ++ ");", rightBrace ++ ");"] := by
    rw [Pen.stmt_eq, Pen.text_put]
    exact String.empty_append.trans (congrArg joined (by decide +kernel))
  obtain ⟨-, hstmts, -⟩ := writing_composes
  obtain ⟨hlevel, htext⟩ := hstmts nestedCall pen
  rw [hfirst] at htext
  exact ⟨hunbroken, hlevel, htext hunbroken⟩

end Interception
