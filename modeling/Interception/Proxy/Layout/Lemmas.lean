import Interception.Proxy.Layout

/-!
# Depth in the layout of woven source files

How deep a statement lies changes the blanks before its lines and nothing else.  Main statement: the
lines of a statement that lies deeper are the lines of the statement, moved to the right, except that
lines of white space stay where they are.
-/

namespace Interception.Layout

open Text

/-- A line moved `levels` deeper. -/
def moved (levels : Nat) (line : String) : String := String.ofList (deeper levels line.toList)

theorem margin_add (a b : Nat) : margin (a + b) = margin a ++ margin b := by
  unfold margin
  rw [List.replicate_append_replicate, Nat.mul_add]

/-- A text is blank when both parts of it are. -/
theorem allBlank_append (a b : List Char) : allBlank (a ++ b) = (allBlank a && allBlank b) := by
  unfold allBlank
  exact List.all_append

theorem allBlank_margin (level : Nat) : allBlank (margin level) = true := by
  have hblank : isBlank ' ' = true := by decide
  simp [allBlank, margin, hblank]

/-- Moving a line twice moves it by the sum. -/
theorem deeper_add (a b : Nat) (line : List Char) :
    deeper (a + b) line = deeper a (deeper b line) := by
  unfold deeper
  by_cases h : allBlank line = true
  · simp [h]
  · have hmargin : allBlank (margin b ++ line) = false := by
      rw [allBlank_append, allBlank_margin, Bool.true_and]
      simpa using h
    simp [h, hmargin, margin_add, List.append_assoc]

/-- A line that shows something lies deeper exactly when it is moved. -/
theorem lineAt_add {a b : Nat} {line : String} (h : allBlank line.toList = false) :
    lineAt (a + b) line = moved a (lineAt b line) := by
  have hmargin : allBlank (margin b ++ line.toList) = false := by
    rw [allBlank_append, allBlank_margin, h, Bool.true_and]
  unfold moved lineAt deeper
  rw [← String.toList_inj]
  simp [hmargin, margin_add, List.append_assoc]

theorem blockAt_add (a b : Nat) (text : String) :
    blockAt (a + b) text = (blockAt b text).map (moved a) := by
  unfold blockAt
  rw [List.map_map]
  refine List.map_congr_left fun line _ => ?_
  simp [moved, deeper_add]

theorem not_allBlank_of_mem {c : Char} {line : List Char} (hmem : c ∈ line)
    (hc : isBlank c = false) : allBlank line = false := by
  unfold allBlank
  rw [List.all_eq_false]
  exact ⟨c, hmem, by simp [hc]⟩

mutual

/-- The lines of a statement that lies deeper are its lines moved. -/
theorem stmtAt_add (a b : Nat) : ∀ stmt : Stmt,
    stmtAt (a + b) stmt = (stmtAt b stmt).map (moved a)
  | .verbatim text => by
    simp only [stmtAt]
    exact blockAt_add a b text
  | .handleProperties => by
    simp only [stmtAt, List.map_cons, List.map_nil]
    rw [lineAt_add (by decide +kernel)]
  | .callParent arguments => by
    have hline : allBlank
        ("parent::__construct(" ++ listed (arguments.map argument) ++ ");").toList = false :=
      not_allBlank_of_mem (show ';' ∈ _ by simp [String.toList_append]) (by decide)
    simp only [stmtAt, List.map_cons, List.map_nil]
    rw [lineAt_add hline]
  | .callParentIfAny => by
    have hopen :
        allBlank ("if (method_exists(parent::class, '__construct')) " ++ leftBrace).toList = false := by
      decide +kernel
    have hcall : allBlank "parent::__construct(...func_get_args());".toList = false := by
      decide +kernel
    have hclose : allBlank rightBrace.toList = false := by decide +kernel
    simp only [stmtAt, List.map_cons, List.map_nil, Nat.add_assoc]
    rw [lineAt_add hopen, lineAt_add hcall, lineAt_add hclose]
  | .keep name word => by
    have hline : allBlank ("$" ++ name ++ " = " ++ word.text ++ ";").toList = false :=
      not_allBlank_of_mem (show ';' ∈ _ by simp [String.toList_append]) (by decide)
    simp only [stmtAt, List.map_cons, List.map_nil]
    rw [lineAt_add hline]
  | .dispatch scope returns captures body => by
    have hline : allBlank (dispatchLine scope returns captures).toList = false :=
      not_allBlank_of_mem (show ':' ∈ _ by simp [dispatchLine, String.toList_append])
        (by decide)
    simp only [stmtAt, List.map_cons, List.map_append, List.map_nil, Nat.add_assoc]
    rw [lineAt_add hline, lineAt_add (by decide +kernel), stmtsAt_add a (b + 1) body]

/-- The lines of statements that lie deeper are their lines moved. -/
theorem stmtsAt_add (a b : Nat) : ∀ stmts : List Stmt,
    stmtsAt (a + b) stmts = (stmtsAt b stmts).map (moved a)
  | [] => rfl
  | first :: others => by
    simp only [stmtsAt, List.map_append]
    rw [stmtAt_add a b first, stmtsAt_add a b others]

end

end Interception.Layout
