import Interception.Proofs.WovenMembers
import Interception.Proxy.Layout.Lemmas

/-!
# The statements of a method in the printed proxy

The statements of a declared method stand in the text of its proxy line by line, moved to the right.
Main statement: the methods are printed one after the other, and in each the lines of its statements
stand in a row, directly between the lines that weaving adds; whoever moves them back reads the
statements as they were declared.
-/

namespace Interception

open Text

/-! ## Lines and text -/

namespace Text

/-- The pieces of a text are those before one of its separators and those behind it. -/
theorem pieces_append (separator : Char) (text rest : List Char) :
    pieces separator (text ++ separator :: rest) = pieces separator text ++ pieces separator rest := by
  induction text with
  | nil => simp [pieces]
  | cons c others ih =>
    rw [List.cons_append, pieces, pieces, ih]
    split
    · rw [List.cons_append]
    · cases hpieces : pieces separator others with
      | nil => exact absurd hpieces (pieces_ne_nil _ _)
      | cons piece more => rfl

theorem pieces_of_not_mem {separator : Char} {text : List Char} (h : separator ∉ text) :
    pieces separator text = [text] := by
  induction text with
  | nil => rfl
  | cons c rest ih =>
    have hc : c ≠ separator := fun heq => h (heq ▸ List.mem_cons_self)
    rw [pieces, if_neg hc, ih fun hmem => h (List.mem_cons_of_mem c hmem)]

end Text

namespace Layout

theorem joined_append (first second : List String) :
    joined (first ++ second) = joined first ++ joined second := by
  induction first with
  | nil => simp [joined]
  | cons line others ih => simp [joined, ih, String.append_assoc]

/-- The lines of texts, in order. -/
def linesOf (texts : List String) : List (List Char) :=
  texts.flatMap fun text => pieces '\n' text.toList

theorem linesOf_cons (text : String) (others : List String) :
    linesOf (text :: others) = pieces '\n' text.toList ++ linesOf others :=
  List.flatMap_cons

/-- Texts of one line each are their lines. -/
theorem linesOf_of_not_mem {texts : List String} (h : ∀ text ∈ texts, '\n' ∉ text.toList) :
    linesOf texts = texts.map String.toList := by
  induction texts with
  | nil => rfl
  | cons text others ih =>
    obtain ⟨htext, hothers⟩ := List.forall_mem_cons.1 h
    rw [linesOf_cons, pieces_of_not_mem htext, ih hothers, List.map_cons, List.singleton_append]

/-- Text that was put together from others falls into their lines, and nothing is left after the last
line end. -/
theorem pieces_joined (texts : List String) :
    pieces '\n' (joined texts).toList = linesOf texts ++ [[]] := by
  induction texts with
  | nil => rfl
  | cons text others ih =>
    have htext : (joined (text :: others)).toList =
        text.toList ++ '\n' :: (joined others).toList := by
      simp [joined]
    rw [htext, pieces_append, ih, linesOf_cons, List.append_assoc]

/-- No line of a statement holds a line end. -/
theorem not_mem_of_mem_linesOf {statements : List String} {line : List Char}
    (h : line ∈ linesOf statements) : '\n' ∉ line := by
  obtain ⟨statement, -, hline⟩ := List.mem_flatMap.1 h
  exact not_mem_of_mem_pieces hline

/-- The lines of a text, each with its end, are the text with a line end after it. -/
theorem joined_pieces (text : List Char) :
    joined ((pieces '\n' text).map String.ofList) = String.ofList text ++ "\n" := by
  induction text with
  | nil => rfl
  | cons c rest ih =>
    rw [pieces]
    split
    · next hc =>
      rw [List.map_cons, joined, ih, hc, String.ofList_cons]
      rfl
    · cases hpieces : pieces '\n' rest with
      | nil => exact absurd hpieces (pieces_ne_nil _ _)
      | cons piece others =>
        -- the character stands before the first line of the rest
        rw [hpieces, List.map_cons, joined] at ih
        rw [List.map_cons, joined, String.ofList_cons, String.ofList_cons, String.append_assoc,
          String.append_assoc, String.append_assoc, ← ih, String.append_assoc]

/-- The lines of statements, each with its end, are the statements, each with a line end after it. -/
theorem joined_linesOf (statements : List String) :
    joined ((linesOf statements).map String.ofList) = joined statements := by
  induction statements with
  | nil => rfl
  | cons statement others ih =>
    rw [linesOf_cons, List.map_append, joined_append, joined_pieces, String.ofList_toList, ih,
      joined]

/-! ## Lines moved to the right and back -/

/-- The line with so many blanks before it; white space stays where it is. -/
def indented (width : Nat) (line : List Char) : List Char :=
  if allBlank line then line else List.replicate width ' ' ++ line

/-- The line without so many characters at its front; white space stays as it is. -/
def outdented (width : Nat) (line : List Char) : List Char :=
  if allBlank line then line else line.drop width

/-- The text with so many characters taken off the front of every line that is not white space. -/
def outdentedText (width : Nat) (text : String) : String :=
  String.ofList (List.intercalate ['\n'] ((pieces '\n' text.toList).map (outdented width)))

theorem allBlank_indented (width : Nat) (line : List Char) :
    allBlank (indented width line) = allBlank line := by
  rw [indented]
  split
  · rfl
  · have hblanks : allBlank (List.replicate width ' ') = true := by
      have hblank : isBlank ' ' = true := by decide
      simp [allBlank, hblank]
    rw [allBlank_append, hblanks, Bool.true_and]

theorem outdented_indented (width : Nat) (line : List Char) :
    outdented width (indented width line) = line := by
  rw [outdented, allBlank_indented, indented]
  split
  · rfl
  · exact List.drop_left' (List.length_replicate ..)

/-- Lines with ends between them and after the last one. -/
theorem intercalate_append_nil (lines : List (List Char)) :
    List.intercalate ['\n'] (lines ++ [[]]) = (joined (lines.map String.ofList)).toList := by
  induction lines with
  | nil => rfl
  | cons line others ih =>
    have hnext : List.intercalate ['\n'] (line :: (others ++ [[]])) =
        line ++ '\n' :: List.intercalate ['\n'] (others ++ [[]]) := by
      cases others <;> rfl
    rw [List.cons_append, hnext, ih, List.map_cons, joined]
    simp

/-- The lines of statements, moved to the right. -/
def block (width : Nat) (statements : List String) : List String :=
  (linesOf statements).map fun line => String.ofList (indented width line)

/-- Moving lines to the right breaks none of them. -/
theorem not_mem_of_mem_block {width : Nat} {statements : List String} {line : String}
    (h : line ∈ block width statements) : '\n' ∉ line.toList := by
  obtain ⟨plain, hplain, rfl⟩ := List.mem_map.1 h
  have hnone := not_mem_of_mem_linesOf hplain
  rw [String.toList_ofList, indented]
  split
  · exact hnone
  · simp [hnone]

/-- Moved to the right and back, the lines of statements spell the statements. -/
theorem outdentedText_block (width : Nat) (statements : List String) :
    outdentedText width (joined (block width statements)) = joined statements := by
  have hback : ((block width statements).map String.toList).map (outdented width) =
      linesOf statements := by
    rw [block, List.map_map, List.map_map]
    refine (List.map_congr_left fun line _ => ?_).trans (linesOf statements).map_id
    show outdented width (String.ofList (indented width line)).toList = line
    rw [String.toList_ofList, outdented_indented]
  rw [outdentedText, pieces_joined, linesOf_of_not_mem fun _ => not_mem_of_mem_block,
    List.map_append, hback]
  show String.ofList (List.intercalate ['\n'] (linesOf statements ++ [[]])) = _
  rw [intercalate_append_nil, String.ofList_toList, joined_linesOf]

/-- Declared statements that lie `level` deep are moved by four blanks for each level. -/
theorem stmtsAt_verbatim (level : Nat) (statements : List String) :
    stmtsAt level (statements.map .verbatim) = block (4 * level) statements := by
  induction statements with
  | nil => rfl
  | cons statement others ih =>
    rw [List.map_cons, stmtsAt, ih, stmtAt, blockAt, block, block, linesOf_cons, List.map_append]
    rfl

/-- The body of a method whose statements are handed to the dispatcher. -/
theorem stmtsAt_dispatch (scope : MagicWord) (returns : Bool) (captures : List Capture)
    (statements : List String) :
    stmtsAt 2 [.keep "__function__" .ofFunction, .keep "__method__" .ofMethod,
        .dispatch scope returns captures (statements.map .verbatim)] =
      ["        $__function__ = __FUNCTION__;", "        $__method__ = __METHOD__;",
        "        " ++ dispatchLine scope returns captures] ++
        block 12 statements ++ ["        " ++ rightBrace ++ ");"] := by
  have hfunction : stmtAt 2 (.keep "__function__" .ofFunction) =
      ["        $__function__ = __FUNCTION__;"] := by decide +kernel
  have hmethod : stmtAt 2 (.keep "__method__" .ofMethod) =
      ["        $__method__ = __METHOD__;"] := by decide +kernel
  have hclose : lineAt 2 (rightBrace ++ ");") = "        " ++ rightBrace ++ ");" := by decide +kernel
  rw [stmtsAt, stmtsAt, stmtsAt, stmtsAt, hfunction, hmethod, stmtAt, stmtsAt_verbatim, hclose,
    List.append_nil]
  rfl

/-- The body of a constructor whose statements come after the hook. -/
theorem stmtsAt_hook (statements : List String) :
    stmtsAt 2 (.handleProperties :: statements.map .verbatim) =
      ["        self::__handlePropertyHandler(__CLASS__);"] ++ block 8 statements := by
  have hhook : stmtAt 2 .handleProperties =
      ["        self::__handlePropertyHandler(__CLASS__);"] := by decide +kernel
  rw [stmtsAt, hhook, stmtsAt_verbatim]

end Layout

/-! ## Printed methods -/

open Layout

/-- The lines before and after the statements of a method, and how far these are moved. -/
inductive Method.Framed (decl : Declaration) (advice : List Advice) (method : Method) :
    List String → List String → Nat → Prop where
  /-- The statements of an intercepted method stand in a closure, between the line that calls the
  dispatcher and the one that ends the call. -/
  | intercepted (h : method.treatment decl.kind advice = .dispatched) :
    Framed decl advice method
      ["        $__function__ = __FUNCTION__;", "        $__method__ = __METHOD__;",
        "        " ++ dispatchLine (scopeOf decl.kind) method.givesResult method.captures]
      ["        " ++ rightBrace ++ ");"] 12
  /-- Those of the constructor of a class stand after the hook. -/
  | constructor (hkind : decl.kind = .classKind) (hctor : method.isConstructor = true) :
    Framed decl advice method ["        self::__handlePropertyHandler(__CLASS__);"] [] 8
  /-- All others stand between the braces. -/
  | plain (hplain : method.treatment decl.kind advice ≠ .dispatched)
      (hother : ¬(decl.kind = .classKind ∧ method.isConstructor = true)) :
    Framed decl advice method [] [] 8

/-- The lines print a method of a declaration. -/
structure Declaration.Prints (decl : Declaration) (advice : List Advice) (method : Method)
    (lines : List String) : Prop where
  signature : method.body = none → lines = ["    " ++ Layout.signature method.woven ++ ";"]
  body : ∀ statements, method.body = some statements → ∃ before after width,
    method.Framed decl advice before after width ∧
      lines = ("    " ++ Layout.signature method.woven) :: ("    " ++ leftBrace) ::
        (before ++ block width statements ++ after ++ ["    " ++ rightBrace]) ∧
      (∀ line ∈ block width statements, '\n' ∉ line.toList) ∧
      ((∀ parameter ∈ method.parameters, '\n' ∉ parameter.name.toList) →
        ∀ line ∈ before ++ after, '\n' ∉ line.toList) ∧
      outdentedText width (joined (block width statements)) = joined statements

namespace Layout

/-- A list has no line break unless one of its items has one. -/
theorem not_mem_listed {items : List String} (h : ∀ item ∈ items, '\n' ∉ item.toList) :
    '\n' ∉ (listed items).toList := by
  induction items with
  | nil => decide
  | cons first others ih =>
    obtain ⟨hfirst, hothers⟩ := List.forall_mem_cons.1 h
    cases others with
    | nil => exact hfirst
    | cons next others =>
      have hnext := ih hothers
      simp [listed, hfirst, hnext]

/-- The line that calls the dispatcher is one line if the names of the variables are. -/
theorem not_mem_dispatchLine {captures : List Capture} (scope : MagicWord) (returns : Bool)
    (h : ∀ captured ∈ captures, '\n' ∉ captured.name.toList) :
    '\n' ∉ (dispatchLine scope returns captures).toList := by
  have hcaptures : '\n' ∉ (listed (captures.map capture)).toList := by
    refine not_mem_listed (List.forall_mem_map.2 fun captured hcaptured => ?_)
    have hsign : '\n' ∉ (onlyIf captured.byRef "&").toList := by
      cases captured.byRef <;> decide
    simp [capture, h captured hcaptured, hsign]
  have hscope : '\n' ∉ scope.text.toList := by cases scope <;> decide
  have hreturns : '\n' ∉ (onlyIf returns "return ").toList := by cases returns <;> decide
  simp [dispatchLine, hcaptures, hscope, hreturns]

/-- A woven method without a body. -/
theorem member_of_no_body {node : WovenMethod} (h : node.body = none) :
    member (.method node) = ["    " ++ Layout.signature node ++ ";"] := by
  simp only [member, h]
  rw [String.append_assoc]
  rfl

/-- A woven body that has been laid out between its braces. -/
theorem member_of_body {node : WovenMethod} {stmts : List Stmt} (h : node.body = some stmts) :
    member (.method node) = ("    " ++ Layout.signature node) :: ("    " ++ leftBrace) ::
      (stmtsAt 2 stmts ++ ["    " ++ rightBrace]) := by
  simp only [member, h]
  rfl

end Layout

/-- No line break stands in the lines around the statements, unless a parameter brings one. -/
theorem Method.Framed.not_mem {decl : Declaration} {advice : List Advice} {method : Method}
    {before after : List String} {width : Nat} (h : method.Framed decl advice before after width)
    (hnames : ∀ parameter ∈ method.parameters, '\n' ∉ parameter.name.toList) :
    ∀ line ∈ before ++ after, '\n' ∉ line.toList := by
  cases h with
  | plain _ _ => exact fun line hline => absurd hline List.not_mem_nil
  | constructor _ _ =>
    intro line hline
    rw [List.mem_singleton.1 hline]
    decide +kernel
  | intercepted _ =>
    have hcaptures : ∀ captured ∈ method.captures, '\n' ∉ captured.name.toList := by
      intro captured hcaptured
      rcases List.mem_cons.1 hcaptured with rfl | hcaptured
      · decide
      · rcases List.mem_cons.1 hcaptured with rfl | hcaptured
        · decide
        · obtain ⟨parameter, hparameter, rfl⟩ := List.mem_map.1 hcaptured
          exact hnames parameter hparameter
    have hcall : '\n' ∉ ("        " ++
        dispatchLine (Method.scopeOf decl.kind) method.givesResult method.captures).toList := by
      simp [not_mem_dispatchLine _ _ hcaptures]
    have hothers : ∀ line ∈ ["        $__function__ = __FUNCTION__;",
        "        $__method__ = __METHOD__;", "        " ++ rightBrace ++ ");"], '\n' ∉ line.toList := by
      decide +kernel
    simp only [List.cons_append, List.nil_append, List.forall_mem_cons] at hothers ⊢
    exact ⟨hothers.1, hothers.2.1, hcall, hothers.2.2⟩

/-- The signature is the declared one, whatever becomes of the body. -/
theorem Method.signature_treated (kind : Kind) (advice : List Advice) (method : Method) :
    Layout.signature (method.treated kind advice) = Layout.signature method.woven := by
  rw [treated]
  split <;> rfl

/-- A method without a body gets none. -/
theorem Method.treated_body_of_no_body {method : Method} (kind : Kind) (advice : List Advice)
    (hbody : method.body = none) : (method.treated kind advice).body = none := by
  by_cases hhooked : method.treatment kind advice = .hooked
  · rw [treated_body_of_hooked hhooked, hbody]
    rfl
  · have hdispatched : method.treatment kind advice ≠ .dispatched := by
      intro hdispatched
      -- what is dispatched has a body
      have hwrap := ((method.treatment_eq_dispatched_iff kind advice).1 hdispatched).2.2
      have hsome := (method.isWrappable_iff.1 hwrap).2.2.1
      rw [hbody] at hsome
      exact Bool.noConfusion hsome
    rw [treated_body_of_kept hhooked hdispatched, hbody]
    rfl

namespace Declaration

variable {method : Method}

/-- The lines of a treated method with a body. -/
theorem framed_treated (decl : Declaration) (advice : List Advice) {statements : List String}
    (hbody : method.body = some statements) :
    ∃ before after width, method.Framed decl advice before after width ∧
      member (.method (method.treated decl.kind advice)) =
        ("    " ++ Layout.signature method.woven) :: ("    " ++ leftBrace) ::
          (before ++ block width statements ++ after ++ ["    " ++ rightBrace]) := by
  by_cases hdispatched : method.treatment decl.kind advice = .dispatched
  · refine ⟨_, _, _, .intercepted hdispatched, ?_⟩
    have hnode : (method.treated decl.kind advice).body = some
        [.keep "__function__" .ofFunction, .keep "__method__" .ofMethod,
          .dispatch (Method.scopeOf decl.kind) method.givesResult method.captures
            (statements.map .verbatim)] := by
      rw [Method.treated, hdispatched]
      simp only [Method.dispatched, Method.woven, hbody]
      rfl
    rw [member_of_body hnode, Method.signature_treated, stmtsAt_dispatch]
  · by_cases hctor : decl.kind = .classKind ∧ method.isConstructor = true
    · refine ⟨_, _, _, .constructor hctor.1 hctor.2, ?_⟩
      have htreatment := (method.treatment_eq_hooked_iff decl.kind advice).2 hctor
      have hnode : (method.treated decl.kind advice).body =
          some (.handleProperties :: statements.map .verbatim) := by
        rw [Method.treated_body_of_hooked htreatment, hbody]
        rfl
      rw [member_of_body hnode, Method.signature_treated, stmtsAt_hook, List.append_nil]
    · refine ⟨_, _, _, .plain hdispatched hctor, ?_⟩
      have htreatment := mt (method.treatment_eq_hooked_iff decl.kind advice).1 hctor
      have hnode : (method.treated decl.kind advice).body = some (statements.map .verbatim) := by
        rw [Method.treated_body_of_kept htreatment hdispatched, hbody]
        rfl
      rw [member_of_body hnode, Method.signature_treated, stmtsAt_verbatim, List.nil_append,
        List.append_nil]

theorem prints_treated (decl : Declaration) (advice : List Advice) (method : Method) :
    decl.Prints advice method (member (.method (method.treated decl.kind advice))) where
  signature := by
    intro hbody
    rw [member_of_no_body (Method.treated_body_of_no_body decl.kind advice hbody),
      Method.signature_treated]
  body := by
    intro statements hbody
    obtain ⟨before, after, width, hframed, hlines⟩ := framed_treated decl advice hbody
    exact ⟨before, after, width, hframed, hlines, fun _ => not_mem_of_mem_block, hframed.not_mem,
      outdentedText_block width statements⟩

/-- The methods stand at the end of the type, one after the other. -/
theorem lines_proxy (lookup : String → Except Fault Declaration) (advice : List Advice)
    (settings : WeaveSettings) (decl : Declaration) :
    ∃ head, Layout.lines (decl.proxy lookup advice settings).file =
      head ++ (decl.methods.map fun method =>
        member (.method (method.treated decl.kind advice))).flatten ++ [rightBrace] := by
  let file := (decl.proxy lookup advice settings).file
  refine ⟨Layout.head file ++ typeLine file.type :: leftBrace ::
    (file.type.mixins.map (fun name => lineAt 1 ("use " ++ name ++ ";")) ++
      (decl.constants.map Member.constant ++ decl.properties.map Member.property ++
        decl.madeConstructor lookup).flatMap member), ?_⟩
  have hmembers : file.type.members.flatMap member =
      (decl.constants.map Member.constant ++ decl.properties.map Member.property ++
          decl.madeConstructor lookup).flatMap member ++
        (decl.methods.map fun method =>
          member (.method (method.treated decl.kind advice))).flatten := by
    show (decl.wovenMembers lookup advice).flatMap member = _
    rw [wovenMembers, List.flatMap_append, List.flatMap_map, ← List.flatMap_def]
  show Layout.head file ++ typeBody file.type ++ [rightBrace] = _
  rw [typeBody, hmembers]
  simp only [List.append_assoc, List.cons_append]

end Declaration

/-- The text of a proxy ends with the declared methods, in order, and its lines are theirs.  The
statements of each stand there line by line, directly between the lines that weaving adds, moved by
twelve blanks if the method is intercepted and by eight otherwise; moved back, they are the declared
statements. -/
theorem weave_prints {lookup : String → Except Fault Declaration} {name : String}
    {decl : Declaration} (hdecl : lookup name = .ok decl) (haccepted : decl.obstacle? = none)
    (advising : List String → List Advice) (settings : WeaveSettings) :
    ∃ proxy head bodies, weave lookup advising settings name = .ok proxy ∧
      proxy.source = joined (head ++ bodies.flatten ++ [rightBrace]) ∧
      pieces '\n' proxy.source.toList = linesOf (head ++ bodies.flatten ++ [rightBrace]) ++ [[]] ∧
      proxy.intercepted = (decl.methods.filter fun method =>
        method.treatment decl.kind (decl.applicable advising) = .dispatched).map Method.name ∧
      List.Forall₂ (decl.Prints (decl.applicable advising)) decl.methods bodies := by
  obtain ⟨head, hlines⟩ := decl.lines_proxy lookup (decl.applicable advising) settings
  have hwoven : weave lookup advising settings name = .ok _ :=
    weave_eq_ok_iff.2 ⟨decl, hdecl, haccepted, rfl⟩
  have hsource : (decl.proxy lookup (decl.applicable advising) settings).source = _ :=
    congrArg joined hlines
  refine ⟨_, head, _, hwoven, hsource, ?_, rfl, ?_⟩
  · rw [hsource, pieces_joined]
  · rw [List.forall₂_map_right_iff]
    exact List.forall₂_same.2 fun method _ => decl.prints_treated _ method

/-- A class whose constructor and whose method have statements of several lines, with blank ones. -/
def layeredClass : Declaration :=
  ((Declaration.empty "A" .classKind).addMethod
    ((Method.empty "__construct").addStatement "if ($a):\n    f();\r\n\r\nendif;")).addMethod
    (((Method.empty "run").addStatement "g(\n \t\n);\n").addStatement "")

/-- Every name leads to that class. -/
def layeredFamily (_ : String) : Except Fault Declaration := .ok layeredClass

/-- Advice on the method of that class. -/
def layeredAdvice : Registry := Registry.empty.add (Advice.bound "Log" "A::run" 0)

/-- Lines of white space stay as they are, whether they stand below the hook or in a closure. -/
theorem weave_prints_of_layeredClass :
    layeredClass.obstacle? = none ∧
      ∃ proxy head bodies,
        weave layeredFamily layeredAdvice.applicable .standard "A" = .ok proxy ∧
        proxy.source = joined (head ++ bodies.flatten ++ [rightBrace]) ∧
        pieces '\n' proxy.source.toList = linesOf (head ++ bodies.flatten ++ [rightBrace]) ++ [[]] ∧
        proxy.intercepted = ["run"] ∧
        List.Forall₂ (layeredClass.Prints (layeredClass.applicable layeredAdvice.applicable))
          layeredClass.methods bodies ∧
        layeredClass.methods.map (fun method => method.body.map (block 8)) =
          [some ["        if ($a):", "            f();\r", "\r", "        endif;"],
           some ["        g(", " \t", "        );", "", ""]] := by
  have hdecl : layeredFamily "A" = .ok layeredClass := rfl
  have haccepted : layeredClass.obstacle? = none := by decide +kernel
  obtain ⟨proxy, head, bodies, hwoven, hsource, hlines, hintercepted, hprints⟩ :=
    weave_prints hdecl haccepted layeredAdvice.applicable .standard
  have hrun : (layeredClass.methods.filter fun method =>
      method.treatment layeredClass.kind (layeredClass.applicable layeredAdvice.applicable) =
        .dispatched).map Method.name = ["run"] := by
    decide +kernel
  have hblocks : layeredClass.methods.map (fun method => method.body.map (block 8)) =
      [some ["        if ($a):", "            f();\r", "\r", "        endif;"],
       some ["        g(", " \t", "        );", "", ""]] := by
    decide +kernel
  exact ⟨haccepted, proxy, head, bodies, hwoven, hsource, hlines, hintercepted.trans hrun, hprints,
    hblocks⟩

end Interception
