import StableTypes.Cascade.Printer
import StableTypes.Proofs.TreeOrder
import Mathlib.Algebra.GroupWithZero.Nat
import Mathlib.Data.List.Forall2

/-!
# Reading a printed tree

The text of a cascade tree can be read in one way, whatever the labels are, as long as no label and
no listed input has a line feed in it. Every line below the top begins with the lead of its parent.
Three characters follow that tell what the line is: a mark begins the line of a branch, a bar or a
gap the line of something further down or of an input. So the inputs of a node end where the first
mark stands, and what belongs to a branch ends where the bar behind its lead does. The induction is
on one of two trees that print alike, with any lead, and over the branches of a node one after the
other. What the lines say is written out from the reports, apart from the program.
-/

namespace StableTypes.CascadeNode

/-- What is printed of a tree. -/
inductive Outline where
  /-- The label of the top, its parameters that are listed, and what is printed of the branches. -/
  | node (label : String) (details : List String) (branches : List Outline)

/-- What the line of a node says: the name of the callable, whether it can be skipped, why the
branch is cut short and why the report is a placeholder, unless the reason is empty. -/
def heading (node : CascadeNode) : String :=
  String.join
    ([node.report.name, " [", if node.report.isSkippable then "" else "not ", "skippable]"]
    ++ node.truncation.toList.flatMap (fun truncation => [" (", truncation.reason, ")"])
    ++ (node.error.toList.filter (· ≠ "")).flatMap (fun error => [" (unavailable: ", error, ")"]))

/-- What the line of a parameter says: its name, its type and its verdict with the reason. -/
def parameterLine (parameter : ParameterReport) : String :=
  let verdict := match parameter.report.verdict with
    | .stable => "STABLE"
    | .unstable => "UNSTABLE"
    | .runtime => "RUNTIME"
  String.join ["· ", parameter.name, ": ", parameter.report.type, " ", verdict, " - ",
    parameter.report.reason]

/-- The parameters of a node that are listed: those with another verdict than stable, in order, if
any are to be shown. -/
def listed (showParameters : Bool) (node : CascadeNode) : List ParameterReport :=
  if showParameters then node.report.parameters.filter (·.report.verdict ≠ .stable) else []

/-- What the lines of the listed parameters of a node say. -/
def listedLines (showParameters : Bool) (node : CascadeNode) : List String :=
  (node.listed showParameters).map parameterLine

mutual

/-- What is printed of a tree: its shape, the labels and the parameters that are listed. -/
def outline (showParameters : Bool) : CascadeNode → Outline
  | ⟨id, depth, report, children, error, truncation⟩ =>
    .node (heading ⟨id, depth, report, children, error, truncation⟩)
      (listedLines showParameters ⟨id, depth, report, children, error, truncation⟩)
      (outlines showParameters children)
termination_by structural node => node

/-- What is printed of several trees. -/
def outlines (showParameters : Bool) : List CascadeNode → List Outline
  | [] => []
  | node :: rest => outline showParameters node :: outlines showParameters rest
termination_by structural nodes => nodes

end

/-- The three characters in front of a branch, by whether it is the last one. -/
def branchMark (last : Bool) : String := if last then "└─ " else "├─ "

/-- The three characters that lead past a branch, by whether it is the last one. -/
def branchBar (last : Bool) : String := if last then "   " else "│  "

@[simp] theorem length_branchMark (last : Bool) : (branchMark last).length = 3 := by
  cases last <;> rfl

@[simp] theorem length_branchBar (last : Bool) : (branchBar last).length = 3 := by
  cases last <;> rfl

variable {showParameters : Bool} {tree : CascadeNode} {lead : String}

theorem outline_eq (tree : CascadeNode) :
    tree.outline showParameters =
      .node tree.heading (tree.listedLines showParameters)
        (outlines showParameters tree.children) := by
  cases tree; rfl

/-- As many trees are printed as there are. -/
theorem outlines_eq_map (nodes : List CascadeNode) :
    outlines showParameters nodes = nodes.map (outline showParameters) := by
  induction nodes with
  | nil => rfl
  | cons node nodes ih => rw [outlines, ih, List.map_cons]

/-- The label of a node says what its line is to say. -/
theorem label_eq (node : CascadeNode) : node.label = node.heading := by
  have skippable : (if node.report.isSkippable then " [skippable]" else " [not skippable]") =
      String.join [" [", if node.report.isSkippable then "" else "not ", "skippable]"] := by
    cases node.report.isSkippable <;> rfl
  unfold label heading
  rw [skippable]
  rcases node.error with none | error
  · cases node.truncation <;> simp [String.append_assoc]
  · by_cases empty : error = "" <;> cases node.truncation <;> simp [String.append_assoc, empty]

/-- The details of a node are what the lines of its parameters are to say, for those that are not
stable. -/
theorem details_eq (node : CascadeNode) : node.details = node.listedLines true := by
  rw [details, listedLines, listed, if_pos rfl]
  refine List.map_congr_left fun parameter _ => ?_
  rw [parameterText, parameterLine]
  cases parameter.report.verdict <;> simp [← String.toList_inj, Verdict.name]

/-- The lines between a node and its branches are its listed parameters. -/
theorem detailLines_eq (tree : CascadeNode) :
    detailLines showParameters lead tree =
      (tree.listedLines showParameters).map (lead ++ branchBar tree.children.isEmpty ++ ·) := by
  rw [detailLines, details_eq]
  cases showParameters <;> rfl

theorem linesBelow_eq (tree : CascadeNode) :
    linesBelow showParameters lead tree =
      (tree.listedLines showParameters).map (lead ++ branchBar tree.children.isEmpty ++ ·) ++
        branchLines showParameters lead tree.children := by
  rw [← detailLines_eq]
  cases tree; rfl

theorem branchLines_cons (child : CascadeNode) (siblings : List CascadeNode) :
    branchLines showParameters lead (child :: siblings) =
      (lead ++ branchMark siblings.isEmpty ++ child.heading) ::
        (linesBelow showParameters (lead ++ branchBar siblings.isEmpty) child ++
          branchLines showParameters lead siblings) := by
  rw [← label_eq]
  rfl

/-- Texts that begin with pieces of one length have the same pieces if they are the same. -/
theorem append_inj_of_length {first second rest rest' : String}
    (length : first.length = second.length) (same : first ++ rest = second ++ rest') :
    first = second ∧ rest = rest' := by
  have chars := congrArg String.toList same
  rw [String.toList_append, String.toList_append] at chars
  rw [← String.length_toList, ← String.length_toList] at length
  obtain ⟨pieces, rests⟩ := List.append_inj chars length
  exact ⟨String.toList_inj.mp pieces, String.toList_inj.mp rests⟩

/-- A mark tells whether a branch is the last one. -/
theorem branchMark_inj {last last' : Bool} (same : branchMark last = branchMark last') :
    last = last' := by
  revert last last'
  decide

/-- Behind the lead, a line that begins with a mark is none that begins with a bar. -/
theorem mark_ne_bar {last last' : Bool} {rest rest' : String} :
    lead ++ branchMark last ++ rest ≠ lead ++ branchBar last' ++ rest' := by
  intro same
  rw [String.append_assoc, String.append_assoc, String.append_right_inj] at same
  have pieces := (append_inj_of_length (by simp) same).1
  revert pieces
  cases last <;> cases last' <;> decide

/-- Where lines of one kind end is determined by a line of another kind behind them. -/
theorem lines_unique {kind : String → Prop} {lines lines' rest rest' : List String}
    (all : ∀ line ∈ lines, kind line) (all' : ∀ line ∈ lines', kind line)
    (ends : ∀ line ∈ rest.head?, ¬ kind line) (ends' : ∀ line ∈ rest'.head?, ¬ kind line)
    (same : lines ++ rest = lines' ++ rest') : lines = lines' ∧ rest = rest' := by
  rcases List.append_eq_append_iff.mp same with ⟨more, rfl, split⟩ | ⟨more, rfl, split⟩
  · cases more with
    | nil => simpa using split
    | cons line more =>
      exact absurd (all' line (by simp)) (ends line (by simp [split]))
  · cases more with
    | nil => simpa using split.symm
    | cons line more =>
      exact absurd (all line (by simp)) (ends' line (by simp [split]))

/-- Every line below a node begins with the lead of the node. -/
theorem linesBelow_begin (tree : CascadeNode) :
    ∀ lead, ∀ line ∈ linesBelow showParameters lead tree, ∃ rest, line = lead ++ rest := by
  refine forestInduction (fun children => ∀ lead, ∀ line ∈ branchLines showParameters lead children,
    ∃ rest, line = lead ++ rest) ?node ?nil ?cons tree
  case node =>
    intro tree all lead line member
    rw [linesBelow_eq, List.mem_append] at member
    rcases member with detail | below
    · obtain ⟨text, -, rfl⟩ := List.mem_map.mp detail
      exact ⟨_, String.append_assoc ..⟩
    · exact all lead line below
  case nil => exact fun lead line member => absurd member List.not_mem_nil
  case cons =>
    intro child siblings inChild inSiblings lead line member
    rw [branchLines_cons, List.mem_cons, List.mem_append] at member
    rcases member with rfl | below | later
    · exact ⟨_, String.append_assoc ..⟩
    · obtain ⟨rest, rfl⟩ := inChild _ line below
      exact ⟨_, String.append_assoc ..⟩
    · exact inSiblings lead line later

/-- The first line of some branches has a mark behind the lead. -/
theorem head?_branchLines {nodes : List CascadeNode} {line : String}
    (first : line ∈ (branchLines showParameters lead nodes).head?) :
    ∃ last rest, line = lead ++ branchMark last ++ rest := by
  cases nodes with
  | nil => cases first
  | cons child siblings =>
    rw [branchLines_cons] at first
    cases first
    exact ⟨_, _, rfl⟩

/-- The first line of some branches has no bar behind the lead. -/
theorem not_bar_of_head? {nodes : List CascadeNode} {line : String}
    (first : line ∈ (branchLines showParameters lead nodes).head?) (last : Bool) :
    ¬ ∃ rest, line = lead ++ branchBar last ++ rest := by
  rintro ⟨rest, bar⟩
  obtain ⟨_, _, rfl⟩ := head?_branchLines first
  exact mark_ne_bar bar

/-- Trees with the same lines below them have the same parameters listed, and the same is printed of
their branches. -/
theorem details_and_outlines_of_linesBelow (tree : CascadeNode) :
    ∀ lead other,
      linesBelow showParameters lead tree = linesBelow showParameters lead other →
      tree.listedLines showParameters = other.listedLines showParameters ∧
        outlines showParameters tree.children = outlines showParameters other.children := by
  refine forestInduction (fun children => ∀ lead others,
    branchLines showParameters lead children = branchLines showParameters lead others →
    outlines showParameters children = outlines showParameters others) ?node ?nil ?cons tree
  case node =>
    intro tree all lead other same
    rw [linesBelow_eq, linesBelow_eq] at same
    have barred (node : CascadeNode) :
        ∀ line ∈ (node.listedLines showParameters).map
            (lead ++ branchBar node.children.isEmpty ++ ·),
          ∃ last rest, line = lead ++ branchBar last ++ rest := by
      intro line member
      obtain ⟨text, -, rfl⟩ := List.mem_map.mp member
      exact ⟨_, _, rfl⟩
    have marked (nodes : List CascadeNode) :
        ∀ line ∈ (branchLines showParameters lead nodes).head?,
          ¬ ∃ last rest, line = lead ++ branchBar last ++ rest := by
      rintro line first ⟨last, bar⟩
      exact not_bar_of_head? first last bar
    obtain ⟨details, branches⟩ :=
      lines_unique (barred tree) (barred other) (marked _) (marked _) same
    have below := all lead other.children branches
    have empty : tree.children.isEmpty = other.children.isEmpty := by
      have lengths := congrArg List.isEmpty below
      rwa [outlines_eq_map, outlines_eq_map, List.isEmpty_map, List.isEmpty_map] at lengths
    rw [empty] at details
    refine ⟨List.map_injective_iff.mpr (fun text text' equal => ?_) details, below⟩
    exact (String.append_right_inj _).mp equal
  case nil =>
    intro lead others same
    cases others with
    | nil => rfl
    | cons other others =>
      rw [branchLines_cons] at same
      cases same
  case cons =>
    intro child siblings inChild inSiblings lead others same
    cases others with
    | nil =>
      rw [branchLines_cons] at same
      cases same
    | cons other others =>
      rw [branchLines_cons, branchLines_cons, List.cons.injEq] at same
      obtain ⟨first, rest⟩ := same
      rw [String.append_assoc, String.append_assoc, String.append_right_inj] at first
      obtain ⟨marks, labels⟩ := append_inj_of_length (by simp) first
      -- The marks agree, so what belongs to the two branches stands behind the same bar.
      rw [branchMark_inj marks] at rest
      obtain ⟨inside, after⟩ := lines_unique (linesBelow_begin child _) (linesBelow_begin other _)
        (fun _ head => not_bar_of_head? head _) (fun _ head => not_bar_of_head? head _) rest
      obtain ⟨details, branches⟩ := inChild _ other inside
      rw [outlines, outlines, inSiblings lead others after, outline_eq, outline_eq, labels, details,
        branches]

/-- The same is printed of trees with the same lines. -/
theorem outline_of_lines {tree other : CascadeNode}
    (same : tree.lines showParameters = other.lines showParameters) :
    tree.outline showParameters = other.outline showParameters := by
  rw [lines, lines, List.cons.injEq, label_eq, label_eq] at same
  obtain ⟨details, branches⟩ := details_and_outlines_of_linesBelow tree "" other same.2
  rw [outline_eq, outline_eq, same.1, details, branches]

/-- What is printed of a node itself: its label, and its parameters that are listed. -/
def printed (showParameters : Bool) (node : CascadeNode) : List String :=
  node.heading :: node.listedLines showParameters

/-- Nothing that is printed of a node of the tree has a line feed in it. -/
def OneLined (showParameters : Bool) (tree : CascadeNode) : Prop :=
  ∀ node ∈ tree.nodes, ∀ text ∈ node.printed showParameters, '\n' ∉ text.toList

/-- The marks, the bar and the gap that a line may begin with. -/
def leadPieces : List String := ["├─ ", "└─ ", "│  ", "   "]

/-- A line has the text behind marks, bars and gaps. -/
def IsLineOf (text line : String) : Prop :=
  ∃ pieces, (∀ piece ∈ pieces, piece ∈ leadPieces) ∧ line = String.join pieces ++ text

theorem branchMark_mem (last : Bool) : branchMark last ∈ leadPieces := by
  cases last <;> decide

theorem branchBar_mem (last : Bool) : branchBar last ∈ leadPieces := by
  cases last <;> decide

/-- A text behind a lead and one more piece is a line of that text. -/
theorem isLineOf_lead {pieces : List String} {piece : String}
    (lead : ∀ piece ∈ pieces, piece ∈ leadPieces) (last : piece ∈ leadPieces) (text : String) :
    IsLineOf text (String.join pieces ++ piece ++ text) := by
  refine ⟨pieces ++ [piece], ?_, by simp⟩
  intro other member
  rcases List.mem_append.mp member with before | here
  · exact lead other before
  · exact List.mem_singleton.mp here ▸ last

/-- Below a node there are the lines of its listed parameters and then, in the order of a walk,
those of the nodes below it. -/
theorem forall₂_linesBelow (tree : CascadeNode) :
    ∀ pieces : List String, (∀ piece ∈ pieces, piece ∈ leadPieces) →
      List.Forall₂ IsLineOf
        (tree.listedLines showParameters ++
          (nodesAll tree.children).flatMap (printed showParameters))
        (linesBelow showParameters (String.join pieces) tree) := by
  refine forestInduction (fun children =>
    ∀ pieces : List String, (∀ piece ∈ pieces, piece ∈ leadPieces) →
      List.Forall₂ IsLineOf ((nodesAll children).flatMap (printed showParameters))
        (branchLines showParameters (String.join pieces) children)) ?node ?nil ?cons tree
  case node =>
    intro tree all pieces lead
    rw [linesBelow_eq]
    refine List.rel_append ?_ (all pieces lead)
    rw [List.forall₂_map_right_iff, List.forall₂_same]
    exact fun text _ => isLineOf_lead lead (branchBar_mem _) text
  case nil => exact fun pieces lead => .nil
  case cons =>
    intro child siblings inChild inSiblings pieces lead
    have below := inChild (pieces ++ [branchBar siblings.isEmpty]) (by
      intro piece member
      rcases List.mem_append.mp member with before | here
      · exact lead piece before
      · exact List.mem_singleton.mp here ▸ branchBar_mem _)
    rw [show String.join (pieces ++ [branchBar siblings.isEmpty]) =
      String.join pieces ++ branchBar siblings.isEmpty by simp] at below
    rw [branchLines_cons, nodesAll, nodes_eq, List.cons_append, List.flatMap_cons,
      List.flatMap_append, printed, List.cons_append, ← List.append_assoc]
    exact .cons (isLineOf_lead lead (branchMark_mem _) child.heading)
      (List.rel_append below (inSiblings pieces lead))

/-- The lines of a tree are those of what is printed of its nodes, in the order of a walk. -/
theorem forall₂_lines (tree : CascadeNode) :
    List.Forall₂ IsLineOf (tree.nodes.flatMap (printed showParameters))
      (tree.lines showParameters) := by
  rw [nodes_eq, List.flatMap_cons, printed, List.cons_append, lines, label_eq]
  exact .cons ⟨[], by simp, by simp⟩ (forall₂_linesBelow tree [] (by simp))

/-- The lines of a text without line feeds have none. -/
theorem IsLineOf.one_line {text line : String} (isLine : IsLineOf text line)
    (plain : '\n' ∉ text.toList) : '\n' ∉ line.toList := by
  obtain ⟨pieces, lead, rfl⟩ := isLine
  have each : ∀ piece ∈ leadPieces, '\n' ∉ piece.toList := by decide
  simp only [String.toList_append, String.toList_join, List.mem_append, List.mem_flatMap, not_or,
    not_exists, not_and]
  exact ⟨fun piece member => each piece (lead piece member), plain⟩

/-- So have the lines of several such texts. -/
theorem one_lines {texts lines : List String} (areLines : List.Forall₂ IsLineOf texts lines)
    (plain : ∀ text ∈ texts, '\n' ∉ text.toList) : ∀ line ∈ lines, '\n' ∉ line.toList := by
  induction areLines with
  | nil => exact fun line member => absurd member List.not_mem_nil
  | cons first _ ih =>
    obtain ⟨here, later⟩ := List.forall_mem_cons.mp plain
    exact List.forall_mem_cons.mpr ⟨first.one_line here, ih later⟩

/-- The text of a tree can be cut into its lines again. -/
theorem splitOn_text (plain : tree.OneLined showParameters) :
    (tree.text showParameters).toList.splitOn '\n' =
      (tree.lines showParameters).map String.toList := by
  rw [text, String.toList_intercalate]
  refine List.splitOn_intercalate '\n' ?_ (by simp [lines])
  intro chars member
  obtain ⟨line, among, rfl⟩ := List.mem_map.mp member
  refine one_lines (forall₂_lines tree) (fun text printed => ?_) line among
  obtain ⟨node, there, shown⟩ := List.mem_flatMap.mp printed
  exact plain node there text shown

/-- There are as many lines as nodes and, if parameters are to be shown, parameters that are not
stable. -/
theorem length_lines (tree : CascadeNode) :
    (tree.lines showParameters).length = tree.nodes.length + (tree.nodes.map fun node =>
      if showParameters then node.report.parameters.countP (·.report.verdict ≠ .stable)
      else 0).sum := by
  have listedLength (node : CascadeNode) : (node.listedLines showParameters).length =
      if showParameters then node.report.parameters.countP (·.report.verdict ≠ .stable) else 0 := by
    rw [listedLines, List.length_map, listed, List.countP_eq_length_filter]
    split <;> rfl
  rw [← (forall₂_lines tree).length_eq]
  induction tree.nodes with
  | nil => rfl
  | cons node nodes ih =>
    rw [List.flatMap_cons, List.length_append, ih, printed, List.length_cons, List.length_cons,
      List.map_cons, List.sum_cons, listedLength]
    omega

/-- The text of a tree, with or without the parameters that are not stable, can be read in one way,
if no label and no listed parameter has a line feed in it: trees with one text have the same shape,
the same labels and the same parameters listed. Its lines are, in the order of a walk, one for each
node and behind it one for each parameter that is not stable, if these are to be shown. -/
theorem printed_tree_is_unique (setting : Option Bool) {tree other : CascadeNode}
    (plain : tree.OneLined (setting.getD true)) (plain' : other.OneLined (setting.getD true)) :
    (textOf (some tree) setting = textOf (some other) setting →
      tree.outline (setting.getD true) = other.outline (setting.getD true)) ∧
    ∃ lines : List String,
      (textOf (some tree) setting).toList.splitOn '\n' = lines.map String.toList ∧
      List.Forall₂ IsLineOf (tree.nodes.flatMap (printed (setting.getD true))) lines ∧
      lines.length = tree.nodes.length + (tree.nodes.map fun node =>
        if setting.getD true then node.report.parameters.countP (·.report.verdict ≠ .stable)
        else 0).sum := by
  refine ⟨fun same => outline_of_lines ?_, _, splitOn_text plain, forall₂_lines tree,
    length_lines tree⟩
  have cut := congrArg (List.splitOn '\n' ∘ String.toList) same
  refine List.map_injective_iff.mpr (fun _ _ => String.toList_inj.mp) ?_
  rw [← splitOn_text plain, ← splitOn_text plain']
  exact cut

instance (tree : CascadeNode) : Decidable (tree.OneLined showParameters) :=
  inferInstanceAs (Decidable (∀ node ∈ tree.nodes, ∀ text ∈ node.printed showParameters,
    '\n' ∉ text.toList))

/-- A callable with an unstable parameter and a call, both callables with marks in their names. -/
def markedNames (id : String) : CascadeNode where
  id := id
  depth := 0
  report := { CallableReport.placeholder "│  └─ a" with
    parameters := [⟨"p", ⟨"T", .unstable "why", .unstable, "why"⟩⟩] }
  children := [{ id, depth := 1, report := .placeholder "   · b: T", children := [] }]

/-- Trees that differ only in ids have one text, from which the same is read although the names look
like what stands in front of them. -/
theorem marked_names_are_read :
    (markedNames "first").OneLined true ∧ (markedNames "second").OneLined true ∧
      textOf (some (markedNames "first")) = textOf (some (markedNames "second")) ∧
      (markedNames "first").outline true = (markedNames "second").outline true :=
  have plain : (markedNames "first").OneLined true := by decide
  have plain' : (markedNames "second").OneLined true := by decide
  have same : textOf (some (markedNames "first")) = textOf (some (markedNames "second")) := rfl
  ⟨plain, plain', same, (printed_tree_is_unique none plain plain').1 same⟩

end StableTypes.CascadeNode
