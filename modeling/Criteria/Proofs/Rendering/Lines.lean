/-
# Criteria.Proofs.Rendering.Lines — the indented form is the compact form, laid out

Both renderers walk the same tree, but the indented one makes its padding in two places and puts
commas, brackets and line feeds at different depths. `Predicate.sheet` is what they have in common: the
lines of a predicate, one for a leaf and two for a connective, each with its depth, its own text and
whether a comma follows. The indented text is the sheet written out in a layout (`intercalate_sheet`),
and the compact text is the sheet with the layout taken away again (`flatMap_unlaid_sheet`).

The text can be cut at its line feeds because no line has one inside, which is where the quoting of
literals comes in, and commas between lines can be told from others because every line of a node ends
in a parenthesis.
-/
import Criteria.Predicate.Building
import Criteria.Proofs.Rendering.Argument
import Criteria.Rendering.Indented

namespace Criteria

open Criteria.Text

variable {F : Foreign} {l : Layout}

/-! ## The failure -/

/-- The layout has no part in the failure. -/
theorem Predicate.lines_failure (l : Layout) (p : Predicate F) :
    ∀ depth, (p.lines l depth).failure = p.compact.failure := by
  induction p with
  | leaf t =>
      intro depth
      exact lines_leaf_failure l depth t
  | negation p ih =>
      intro depth
      rw [lines_negation_failure, compact_negation_failure, ih]
  | join j ps ih =>
      intro depth
      have hsame : (ps.flatMap fun p => (p.lines l (depth + 1)).failure.toList) =
          ps.flatMap fun p => p.compact.failure.toList :=
        List.flatMap_congr fun p hp => by rw [ih p hp]
      rw [lines_join_failure, compact_join_failure, hsame]

/-! ## Lines -/

/-- A line of the indented form. -/
structure Line where
  /-- How deep in the tree the node of the line is. -/
  depth : Nat
  /-- What the node writes on the line. -/
  own : String
  /-- Whether a comma separates the line from what follows. -/
  comma : Bool

namespace Line

/-- The line in a layout, after as many indentations as it is deep. -/
def written (l : Layout) (line : Line) : String :=
  String.join (List.replicate line.depth l.indent) ++ line.own ++ if line.comma then "," else ""

/-- The line as it was before it was laid out: without its indentation, and with a blank after it if it
ends in a comma. -/
def unlaid (l : Layout) (line : Line) : List Char :=
  let text := (line.written l).toList
  text.drop (line.depth * l.indent.length) ++ if text.getLast? = some ',' then [' '] else []

/-- The lines of a connective around those of its children. -/
def frame (depth : Nat) (comma : Bool) (kind : Kind) (children : List Line) : List Line :=
  ⟨depth, kind.name ++ "(", false⟩ :: (children ++ [⟨depth, ")", comma⟩])

end Line

namespace Predicate

mutual

/-- The lines of a predicate at the given depth: one for a leaf, and two for a connective around those
of its children. -/
def sheet (depth : Nat) (comma : Bool) : Predicate F → List Line
  | .leaf t => [⟨depth, (leaf t).text, comma⟩]
  | .negation p => Line.frame depth comma .negation (sheet (depth + 1) false p)
  | .join j ps => Line.frame depth comma j.kind (sheetAll (depth + 1) ps)

/-- The lines of several predicates, with a comma after all but the last. -/
def sheetAll (depth : Nat) : List (Predicate F) → List Line
  | [] => []
  | p :: ps => sheet depth (!ps.isEmpty) p ++ sheetAll depth ps

end

end Predicate

/-! ## Writing lines -/

theorem Layout.pad_eq_join (l : Layout) (depth : Nat) :
    l.pad depth = String.join (List.replicate depth l.indent) := by
  induction depth with
  | zero => rfl
  | succ depth ih => rw [pad, ih, List.replicate_succ, String.join_cons]

theorem Line.written_mk (depth : Nat) (own : String) (comma : Bool) :
    Line.written l ⟨depth, own, comma⟩ = l.pad depth ++ own ++ if comma then "," else "" := by
  rw [written, Layout.pad_eq_join]

/-- The lines of a connective are its block, if those of its children are their texts. -/
theorem Line.intercalate_frame (depth : Nat) (comma : Bool) (kind : Kind) {children : List Line}
    {texts : List String} (hne : children ≠ [])
    (h : "\n".intercalate (children.map (written l)) = ",\n".intercalate texts) :
    "\n".intercalate ((frame depth comma kind children).map (written l)) =
      l.block depth kind texts ++ if comma then "," else "" := by
  have hrest : children.map (written l) ++ [written l ⟨depth, ")", comma⟩] ≠ [] := by simp
  have hmap : children.map (written l) ≠ [] := by simpa using hne
  rw [frame, List.map_cons, List.map_append, List.map_singleton,
    String.intercalate_cons_of_ne_nil hrest,
    String.intercalate_append_of_ne_nil hmap (List.cons_ne_nil _ _), String.intercalate_singleton,
    written_mk, written_mk, h, Layout.block]
  apply String.toList_inj.mp
  simp

namespace Predicate

theorem sheet_ne_nil (depth : Nat) (comma : Bool) (p : Predicate F) : p.sheet depth comma ≠ [] := by
  cases p with
  | leaf t => exact List.cons_ne_nil _ _
  | negation p => exact List.cons_ne_nil _ _
  | join j ps => exact List.cons_ne_nil _ _

theorem sheetAll_ne_nil (depth : Nat) {ps : List (Predicate F)} (hne : ps ≠ []) :
    sheetAll depth ps ≠ [] := by
  cases ps with
  | nil => exact absurd rfl hne
  | cons p ps =>
      rw [sheetAll]
      exact List.append_ne_nil_of_left_ne_nil (sheet_ne_nil depth _ p) _

theorem intercalate_sheetAll (depth : Nat) {ps : List (Predicate F)}
    (h : ∀ p ∈ ps, ∀ comma, "\n".intercalate ((p.sheet depth comma).map (Line.written l)) =
      (p.lines l depth).value ++ if comma then "," else "") :
    "\n".intercalate ((sheetAll depth ps).map (Line.written l)) =
      ",\n".intercalate (ps.map fun p => (p.lines l depth).value) := by
  induction ps with
  | nil => rfl
  | cons p ps ih =>
      rw [List.forall_mem_cons] at h
      cases ps with
      | nil =>
          rw [sheetAll, sheetAll, List.append_nil, h.1, List.map_singleton,
            String.intercalate_singleton]
          exact String.append_empty
      | cons q qs =>
          -- the comma is the last line's on the left, part of the separator on the right
          have hp : (p.sheet depth true).map (Line.written l) ≠ [] := by
            simpa using sheet_ne_nil depth true p
          have hq : (sheetAll depth (q :: qs)).map (Line.written l) ≠ [] := by
            simpa using sheetAll_ne_nil depth (List.cons_ne_nil q qs)
          rw [sheetAll, List.isEmpty_cons, Bool.not_false, List.map_append,
            String.intercalate_append_of_ne_nil hp hq, h.1, ih h.2]
          simp only [List.map_cons, String.intercalate_cons_cons, if_true, String.append_assoc]
          rfl

/-- The lines of a predicate are its sheet, written out. -/
theorem intercalate_sheet {p : Predicate F} (hp : p.Populated) :
    ∀ depth comma, "\n".intercalate ((p.sheet depth comma).map (Line.written l)) =
      (p.lines l depth).value ++ if comma then "," else "" := by
  induction p with
  | leaf t =>
      intro depth comma
      rw [sheet, List.map_singleton, String.intercalate_singleton, Line.written_mk,
        lines_leaf_value]
  | negation p ih =>
      intro depth comma
      cases hp with
      | negation hp =>
          have hchild := ih hp (depth + 1) false
          rw [sheet, lines_negation_value]
          refine Line.intercalate_frame depth comma .negation (sheet_ne_nil _ _ p) ?_
          rw [hchild, String.intercalate_singleton]
          exact String.append_empty
  | join j ps ih =>
      intro depth comma
      cases hp with
      | join hne hps =>
          rw [sheet, lines_join_value]
          refine Line.intercalate_frame depth comma j.kind (sheetAll_ne_nil _ hne) ?_
          exact intercalate_sheetAll (depth + 1) fun p hp => ih p hp (hps p hp) (depth + 1)

end Predicate

/-! ## Taking the layout away -/

theorem Line.length_indentation (l : Layout) (depth : Nat) :
    (String.join (List.replicate depth l.indent)).toList.length = depth * l.indent.length := by
  rw [String.length_toList, String.length_join, List.map_replicate, List.sum_replicate_nat]

/-- A line whose own text ends in another character than a comma is, without the layout, that text, and
a comma and a blank if a comma separates it from what follows. -/
theorem Line.unlaid_mk (l : Layout) (depth : Nat) (comma : Bool) {own : String} {last : Char}
    (hown : own.toList.getLast? = some last) (hlast : last ≠ ',') :
    unlaid l ⟨depth, own, comma⟩ = own.toList ++ if comma then [',', ' '] else [] := by
  have hwritten : (written l ⟨depth, own, comma⟩).toList =
      (String.join (List.replicate depth l.indent)).toList ++
        (own.toList ++ if comma then [','] else []) := by
    rw [written, String.toList_append, String.toList_append, List.append_assoc]
    cases comma <;> simp
  simp only [unlaid]
  rw [hwritten, List.drop_left' (length_indentation l depth)]
  -- without a comma the line ends where its own text ends
  cases comma with
  | false => simp [List.getLast?_append, hown, hlast]
  | true => simp

namespace Predicate

theorem getLast?_text_leaf (t : Test F) : (leaf t).text.toList.getLast? = some ')' := by
  rw [text_leaf, toList_callText, List.getLast?_append, List.getLast?_cons, List.getLast?_append]
  rfl

theorem flatMap_unlaid_frame (l : Layout) (depth : Nat) (comma : Bool) (kind : Kind)
    {children : List Line} {argument : String}
    (h : children.flatMap (Line.unlaid l) = argument.toList) :
    (Line.frame depth comma kind children).flatMap (Line.unlaid l) =
      (callText kind argument).toList ++ if comma then [',', ' '] else [] := by
  have hopen := Line.unlaid_mk l depth false
    (show (kind.name ++ "(").toList.getLast? = some '(' by simp) (by decide)
  have hclose := Line.unlaid_mk l depth comma
    (show (")" : String).toList.getLast? = some ')' by rfl) (by decide)
  rw [Line.frame, List.flatMap_cons, List.flatMap_append, List.flatMap_singleton, h, hopen, hclose,
    toList_callText]
  simp

theorem flatMap_unlaid_sheetAll (l : Layout) (depth : Nat) {ps : List (Predicate F)}
    (h : ∀ p ∈ ps, ∀ comma, (p.sheet depth comma).flatMap (Line.unlaid l) =
      p.text.toList ++ if comma then [',', ' '] else []) :
    (sheetAll depth ps).flatMap (Line.unlaid l) = (", ".intercalate (ps.map text)).toList := by
  induction ps with
  | nil => rfl
  | cons p ps ih =>
      rw [List.forall_mem_cons] at h
      rw [sheetAll, List.flatMap_append, h.1, ih h.2]
      cases ps with
      | nil => simp
      | cons q qs => simp

/-- The sheet of a predicate without the layout is its compact text. -/
theorem flatMap_unlaid_sheet (l : Layout) (p : Predicate F) :
    ∀ depth comma, (p.sheet depth comma).flatMap (Line.unlaid l) =
      p.text.toList ++ if comma then [',', ' '] else [] := by
  induction p with
  | leaf t =>
      intro depth comma
      rw [sheet, List.flatMap_singleton]
      exact Line.unlaid_mk l depth comma (getLast?_text_leaf t) (by decide)
  | negation p ih =>
      intro depth comma
      have hchild := ih (depth + 1) false
      rw [if_neg Bool.false_ne_true, List.append_nil] at hchild
      rw [sheet, text_negation]
      exact flatMap_unlaid_frame l depth comma .negation hchild
  | join j ps ih =>
      intro depth comma
      have hchildren := flatMap_unlaid_sheetAll l (depth + 1) (fun p hp => ih p hp (depth + 1))
      rw [sheet, text_join]
      exact flatMap_unlaid_frame l depth comma j.kind hchildren

/-! ## No line has a line feed inside -/

theorem isControl_lineFeed : isControl '\n' = true := by decide

theorem lineFeed_not_mem_text_leaf (hnames : ∀ tag, '\n' ∉ (F.name tag).toList) (t : Test F) :
    '\n' ∉ (leaf t).text.toList := by
  intro h
  rw [text_leaf] at h
  obtain ⟨_, tag, htag⟩ :=
    Test.control_mem_argument (control_mem_callText h isControl_lineFeed) isControl_lineFeed
  exact hnames tag htag

theorem lineFeed_not_mem_frame {depth : Nat} {comma : Bool} {kind : Kind} {children : List Line}
    (h : ∀ line ∈ children, '\n' ∉ line.own.toList) :
    ∀ line ∈ Line.frame depth comma kind children, '\n' ∉ line.own.toList := by
  intro line hline
  rw [Line.frame, List.mem_cons, List.mem_append, List.mem_singleton] at hline
  rcases hline with rfl | hline | rfl
  · rw [String.toList_append, List.mem_append]
    rintro (hname | hopen)
    · have hword := isControl_of_mem_word (all_isAlpha_name kind) hname
      exact absurd hword (by decide)
    · exact absurd hopen (by decide)
  · exact h line hline
  · show '\n' ∉ (")" : String).toList
    decide

theorem lineFeed_not_mem_sheetAll {depth : Nat} {ps : List (Predicate F)}
    (h : ∀ p ∈ ps, ∀ comma, ∀ line ∈ p.sheet depth comma, '\n' ∉ line.own.toList) :
    ∀ line ∈ sheetAll depth ps, '\n' ∉ line.own.toList := by
  induction ps with
  | nil => simp [sheetAll]
  | cons p ps ih =>
      intro line hline
      rw [List.forall_mem_cons] at h
      rw [sheetAll, List.mem_append] at hline
      rcases hline with hline | hline
      · exact h.1 _ line hline
      · exact ih h.2 line hline

theorem lineFeed_not_mem_sheet (hnames : ∀ tag, '\n' ∉ (F.name tag).toList) (p : Predicate F) :
    ∀ depth comma, ∀ line ∈ p.sheet depth comma, '\n' ∉ line.own.toList := by
  induction p with
  | leaf t =>
      intro depth comma line hline
      rw [List.mem_singleton.mp hline]
      exact lineFeed_not_mem_text_leaf hnames t
  | negation p ih =>
      intro depth comma
      exact lineFeed_not_mem_frame (ih (depth + 1) false)
  | join j ps ih =>
      intro depth comma
      exact lineFeed_not_mem_frame (lineFeed_not_mem_sheetAll fun p hp => ih p hp (depth + 1))

end Predicate

theorem Line.lineFeed_not_mem_written (hindent : '\n' ∉ l.indent.toList) {line : Line}
    (hown : '\n' ∉ line.own.toList) : '\n' ∉ (line.written l).toList := by
  rw [written, String.toList_append, String.toList_append, String.toList_join, List.mem_append,
    List.mem_append, List.mem_flatMap]
  rintro ((⟨indent, hmem, hpad⟩ | hown') | hcomma)
  · rw [(List.mem_replicate.mp hmem).2] at hpad
    exact hindent hpad
  · exact hown hown'
  · revert hcomma
    cases line.comma <;> simp

namespace Predicate

/-! ## How many lines -/

/-- How many leaves a predicate has. -/
def leafCount (p : Predicate F) : Nat := p.nodes.countP fun q => !q.kind.isComposite

/-- How many negations and joins a predicate has. -/
def connectiveCount (p : Predicate F) : Nat := p.nodes.countP fun q => q.kind.isComposite

theorem length_frame (depth : Nat) (comma : Bool) (kind : Kind) (children : List Line) :
    (Line.frame depth comma kind children).length = children.length + 2 := by
  simp [Line.frame]

theorem length_sheetAll (depth : Nat) {ps : List (Predicate F)}
    (h : ∀ p ∈ ps, ∀ comma,
      (p.sheet depth comma).length = p.leafCount + 2 * p.connectiveCount) :
    (sheetAll depth ps).length =
      (nodesAll ps).countP (fun q => !q.kind.isComposite) +
        2 * (nodesAll ps).countP (fun q => q.kind.isComposite) := by
  induction ps with
  | nil => rfl
  | cons p ps ih =>
      rw [List.forall_mem_cons] at h
      rw [sheetAll, nodesAll, List.length_append, h.1, ih h.2, List.countP_append,
        List.countP_append, leafCount, connectiveCount]
      omega

/-- A sheet has one line for each leaf and two for each connective. -/
theorem length_sheet (p : Predicate F) :
    ∀ depth comma, (p.sheet depth comma).length = p.leafCount + 2 * p.connectiveCount := by
  induction p with
  | leaf t =>
      intro depth comma
      have hleaf : (leaf t).leafCount = 1 :=
        List.countP_cons_of_pos (by simp [kind, t.isComposite_kind])
      have hconnective : (leaf t).connectiveCount = 0 :=
        List.countP_cons_of_neg (by simp [kind, t.isComposite_kind])
      rw [hleaf, hconnective]
      rfl
  | negation p ih =>
      intro depth comma
      have hleaf : (negation p).leafCount = p.leafCount :=
        List.countP_cons_of_neg Bool.false_ne_true
      have hconnective : (negation p).connectiveCount = p.connectiveCount + 1 :=
        List.countP_cons_of_pos rfl
      rw [sheet, length_frame, ih, hleaf, hconnective]
      omega
  | join j ps ih =>
      intro depth comma
      have hchildren := length_sheetAll (depth + 1) (fun p hp => ih p hp (depth + 1))
      have hleaf : (join j ps).leafCount = (nodesAll ps).countP fun q => !q.kind.isComposite :=
        List.countP_cons_of_neg (by simp [kind, j.isComposite_kind])
      have hconnective : (join j ps).connectiveCount =
          ((nodesAll ps).countP fun q => q.kind.isComposite) + 1 :=
        List.countP_cons_of_pos (by simp [kind, j.isComposite_kind])
      rw [sheet, length_frame, hchildren, hleaf, hconnective]
      omega

/-! ## The statement -/

/-- **The indented form is the compact form, laid out.** It has the same failure. Its text, up to the
terminator, splits at the line feeds into the sheet of the predicate: one line for each leaf and two
for each connective, every one with as many indentations in front as its node is deep. Without the
indentations and the line breaks, and with a blank after each line that ends in a comma, it is the
compact text. The builders make populated predicates only (`Populated.not`, `Populated.joinOf`). -/
theorem indented_lays_out_compact (p : Predicate F) (l : Layout) (hp : p.Populated)
    (hindent : '\n' ∉ l.indent.toList) (hnames : ∀ tag, '\n' ∉ (F.name tag).toList) :
    (p.indented l).failure = p.compact.failure ∧
      ∃ body : String, (p.indented l).value = body ++ l.terminator ∧
        (body.split '\n').toList.map (·.copy) = (p.sheet 0 false).map (Line.written l) ∧
        (p.sheet 0 false).length = p.leafCount + 2 * p.connectiveCount ∧
        (p.sheet 0 false).flatMap (Line.unlaid l) = p.text.toList := by
  have hbody : "\n".intercalate ((p.sheet 0 false).map (Line.written l)) = (p.lines l 0).value := by
    rw [intercalate_sheet hp]
    exact String.append_empty
  have hsplit : ((p.lines l 0).value.split '\n').toList.map (·.copy) =
      (p.sheet 0 false).map (Line.written l) := by
    have hno : ∀ s ∈ (p.sheet 0 false).map (Line.written l), '\n' ∉ s.toList := by
      intro s hs
      obtain ⟨line, hline, rfl⟩ := List.mem_map.mp hs
      exact Line.lineFeed_not_mem_written hindent (lineFeed_not_mem_sheet hnames p 0 false line hline)
    have hne : (p.sheet 0 false).map (Line.written l) ≠ [] := by simpa using sheet_ne_nil 0 false p
    have hlines := String.toList_split_intercalate hno
    rw [if_neg hne] at hlines
    rw [← hbody]
    exact hlines
  have htext := flatMap_unlaid_sheet l p 0 false
  rw [if_neg Bool.false_ne_true, List.append_nil] at htext
  exact ⟨lines_failure l p 0, (p.lines l 0).value, rfl, hsplit, length_sheet p 0 false, htext⟩

/-- A literal with a comma and a line feed and one without a text, in six lines for two leaves and two
connectives. -/
theorem indented_lays_out_compact_around_line_feed :
    ((join .all [negation (leaf (.contains "a,\n")), leaf (.equals (.other .absent))] :
        Predicate .unit).indented .standard).failure =
      some (.aggregate [.unserializable .equals "absent"]) ∧
    ∃ body : String,
      ((join .all [negation (leaf (.contains "a,\n")), leaf (.equals (.other .absent))] :
        Predicate .unit).indented .standard).value = body ++ "\r\n" ∧
      ((body.split '\n').toList.map (·.copy)).length = 6 := by
  obtain ⟨hfailure, body, hvalue, hsplit, hlength, -⟩ := indented_lays_out_compact
    (join .all [negation (leaf (.contains "a,\n")), leaf (.equals (.other .absent))] :
      Predicate .unit) .standard
    (.join (List.cons_ne_nil _ _) (by simpa using ⟨.negation (.leaf _), .leaf _⟩)) (by decide)
    (fun _ => show '\n' ∉ ("unit" : String).toList by decide)
  refine ⟨hfailure.trans rfl, body, hvalue, ?_⟩
  rw [hsplit, List.length_map, hlength]
  rfl

end Predicate

end Criteria
