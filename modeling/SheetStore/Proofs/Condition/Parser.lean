import SheetStore.Condition.Parser
import SheetStore.Proofs.Row
import SheetStore.Proofs.Statement.Rendering

/-!
# Reading a comparison

A comparison is written as the name of a column and, after an equals sign, a value between quotes,
with any blanks on both sides of the sign (`Comparison.Renders`).  Such a text mentions a word if
and only if the value does (`Comparison.Renders.mentions_iff`).  It reads back if the names are
identifiers and the value has no quote at either end, where it would be lost with the quotes around
the value (`Comparison.Renders.comparison_eq`).

A condition that is a single comparison reads back if and only if the value mentions neither `OR`
nor `AND` (`parse_comparisonText_iff`), since a condition is cut at these words before its quotes
are looked at.
-/

namespace SheetStore

/-- The text that compares a column with a value. -/
def comparisonText (table column value : String) : String :=
  qualified table column ++ " = '" ++ value ++ "'"

namespace Condition

open Text

variable {table column value : String}

theorem toList_comparisonText (table column value : String) :
    (comparisonText table column value).toList
      = (qualified table column).toList
        ++ ' ' :: '=' :: ' ' :: '\'' :: (value.toList ++ ['\'']) := by
  simp [comparisonText]

theorem qualified_ne_nil (table column : String) : (qualified table column).toList ≠ [] := by
  rw [toList_qualified]
  simp

/-- The words that join conditions. -/
def operators : List (List Char) := [['o', 'r'], ['a', 'n', 'd']]

theorem or_mem_operators : ['o', 'r'] ∈ operators := by decide

theorem and_mem_operators : ['a', 'n', 'd'] ∈ operators := by decide

theorem solid_of_mem_operators {word : List Char} (h : word ∈ operators) : Solid word := by
  simp only [operators, List.mem_cons, List.not_mem_nil, or_false] at h
  rcases h with rfl | rfl
  · exact solid_of_head (by decide) _
  · exact solid_of_head (by decide) _

/-- The marks of a comparison are no letters of the words that join conditions. -/
theorem mark_not_mem_operator {word : List Char} (h : word ∈ operators) :
    ∀ c ∈ ['.', '=', '\''], foldCase c ∉ word := by
  simp only [operators, List.mem_cons, List.not_mem_nil, or_false] at h
  simp only [List.forall_mem_cons, List.not_mem_nil, false_imp_iff, implies_true, and_true]
  rcases h with rfl | rfl
  · decide +kernel
  · decide +kernel

/-- The parts of a text with a mention are joined. -/
theorem exists_chain_eq {word s : List Char} (hword : Solid word) (h : Mentions word s)
    (join : Condition → Condition → Condition) (read : List Char → Condition) :
    ∃ left right, chain join ((splitBy word s).map read) = join left right := by
  have hlen := two_le_length_splitFrom hword [] h (by simp)
  rw [splitBy]
  rcases hparts : splitFrom word [] s with _ | ⟨first, _ | ⟨second, rest⟩⟩
  · rw [hparts] at hlen
    exact absurd hlen (by simp)
  · rw [hparts] at hlen
    exact absurd hlen (by simp)
  · exact ⟨read first, chain join ((second :: rest).map read), rfl⟩

section Identifiers

variable (htable : isIdentifier table = true) (hcolumn : isIdentifier column = true)

include htable hcolumn

/-- A qualified name has no blank, no equals sign and no quote. -/
theorem not_mem_qualified {c : Char} (hname : isIdentifierChar c = false) (hpoint : c ≠ '.') :
    c ∉ (qualified table column).toList := by
  rw [toList_qualified, List.mem_append, List.mem_cons, not_or, not_or]
  exact ⟨not_mem_of_isIdentifier htable hname, hpoint, not_mem_of_isIdentifier hcolumn hname⟩

theorem isBlank_of_mem_qualified {c : Char} (h : c ∈ (qualified table column).toList) :
    isBlank c = false := by
  refine Bool.eq_false_iff.2 fun hblank => not_mem_qualified htable hcolumn ?_ ?_ h
  · refine Bool.eq_false_iff.2 fun hname => ?_
    rw [isBlank_of_isIdentifierChar hname] at hblank
    cases hblank
  · rintro rfl
    exact absurd hblank (by decide)

end Identifiers

/-! ## The texts of a comparison -/

/-- A comparison of a column with a value. -/
structure Comparison where
  /-- The table of the column. -/
  table : String
  /-- The column. -/
  column : String
  /-- The value. -/
  value : String
deriving DecidableEq

namespace Comparison

/-- The condition that consists of the comparison. -/
def condition (a : Comparison) : Condition := .equals a.table a.column a.value

/-- A comparison and a text of it, without blanks around the text. -/
inductive Renders (a : Comparison) : List Char → Prop where
  /-- The qualified column, the equals sign between blanks, and the value in quotes. -/
  | intro {before after : List Char} (hbefore : IsBlanks before) (hafter : IsBlanks after) :
      Renders a ((qualified a.table a.column).toList
        ++ (before ++ '=' :: (after ++ quotedLiteral a.value)))

variable {a : Comparison} {s : List Char}

theorem Renders.getLast? (h : a.Renders s) : s.getLast? = some '\'' := by
  cases h
  simp [quotedLiteral, List.getLast?_append, List.getLast?_cons]

theorem Renders.ends (h : a.Renders s) : Ends s := ⟨'\'', h.getLast?, by decide⟩

/-- The table and the column are identifiers. -/
structure Named (a : Comparison) : Prop where
  /-- The table is an identifier. -/
  table : isIdentifier a.table = true
  /-- The column is an identifier. -/
  column : isIdentifier a.column = true

theorem Renders.begins (h : a.Renders s) (hnamed : a.Named) : Begins s := by
  obtain ⟨c, rest, hcons⟩ := List.exists_cons_of_ne_nil (qualified_ne_nil a.table a.column)
  have hblank := isBlank_of_mem_qualified hnamed.table hnamed.column (hcons ▸ List.mem_cons_self)
  cases h
  rw [hcons]
  exact ⟨c, rfl, hblank⟩

/-- With blanks before it, a comparison mentions what its value mentions. -/
theorem Renders.mentions_iff {word blanks : List Char} (h : a.Renders s) (hnamed : a.Named)
    (hword : word ∈ operators) (hblanks : IsBlanks blanks) (back : List Char) :
    Mentions word (blanks ++ (s ++ back)) ↔ Mentions word a.value.toList ∨ Mentions word back := by
  have hsolid := solid_of_mem_operators hword
  have hmarks := mark_not_mem_operator hword
  simp only [List.forall_mem_cons] at hmarks
  obtain ⟨hpoint, hequals, hquote, -⟩ := hmarks
  have hname : ∀ {name : String}, isIdentifier name = true →
      ∀ c ∈ name.toList, isBlank c = false := by
    intro name hid c hc
    rw [isIdentifier, Bool.and_eq_true, List.all_eq_true] at hid
    exact isBlank_of_isIdentifierChar (hid.2 c hc)
  obtain @⟨before, after, hbefore, hafter⟩ := h
  have htext : blanks ++ (((qualified a.table a.column).toList
        ++ (before ++ '=' :: (after ++ quotedLiteral a.value))) ++ back)
      = (blanks ++ a.table.toList) ++ '.' :: ((a.column.toList ++ before) ++ '=' :: (after
        ++ '\'' :: (a.value.toList ++ '\'' :: back))) := by
    simp [quotedLiteral, toList_qualified]
  have hfront : ¬ Mentions word (blanks ++ a.table.toList) :=
    not_mentions_blanks_append hsolid hblanks (hname hnamed.table)
  have hmiddle : ¬ Mentions word (a.column.toList ++ before) := fun h =>
    not_mentions_of_isBlanks hsolid hbefore (mentions_of_append (hname hnamed.column) h)
  have hgap : ¬ Mentions word after := not_mentions_of_isBlanks hsolid hafter
  rw [htext, mentions_append_cons (by decide) hpoint, mentions_append_cons (by decide) hequals,
    mentions_append_cons (by decide) hquote, mentions_append_cons (by decide) hquote]
  simp only [hfront, hmiddle, hgap, false_or]

/-- By itself, a comparison mentions what its value mentions. -/
theorem Renders.mentions_value_iff {word : List Char} (h : a.Renders s) (hnamed : a.Named)
    (hword : word ∈ operators) : Mentions word s ↔ Mentions word a.value.toList := by
  have hiff := h.mentions_iff hnamed hword (List.forall_mem_nil _) []
  rwa [List.nil_append, List.append_nil, or_iff_left not_mentions_nil] at hiff

theorem Renders.trim_eq (h : a.Renders s) (hnamed : a.Named) : trim s = s := by
  have hnil : IsBlanks [] := List.forall_mem_nil _
  have hself := trim_append hnil hnil (h.begins hnamed) h.ends
  rwa [List.nil_append, List.append_nil] at hself

/-- The parts of a comparison are read. -/
theorem Renders.comparison_eq (h : a.Renders s) (hnamed : a.Named)
    (hfirst : a.value.toList.head? ≠ some '\'')
    (hlast : a.value.toList.getLast? ≠ some '\'') : comparison s = a.condition := by
  have htrim := h.trim_eq hnamed
  obtain ⟨htable, hcolumn⟩ := hnamed
  obtain @⟨before, after, hbefore, hafter⟩ := h
  have hcut : cut? '=' ((qualified a.table a.column).toList
        ++ (before ++ '=' :: (after ++ quotedLiteral a.value)))
      = some ((qualified a.table a.column).toList ++ before, after ++ quotedLiteral a.value) := by
    rw [← List.append_assoc]
    refine cut?_append _ ?_
    rw [List.mem_append, not_or]
    exact ⟨not_mem_qualified htable hcolumn (by decide) (by decide), hbefore.not_mem (by decide)⟩
  have hfield : trim ((qualified a.table a.column).toList ++ before)
      = (qualified a.table a.column).toList := by
    rw [trim_append_blanks _ hbefore]
    exact strip_of_forall fun c hc => isBlank_of_mem_qualified htable hcolumn hc
  have hliteral : trim (after ++ quotedLiteral a.value) = quotedLiteral a.value := by
    have hself := trim_append hafter (List.forall_mem_nil _)
      (Statement.begins_quotedLiteral a.value) (Statement.ends_quotedLiteral a.value)
    rwa [List.append_nil] at hself
  have hbare : strip (· == '\'') (quotedLiteral a.value) = a.value.toList := by
    rw [quotedLiteral, strip_cons (by decide), strip_concat _ (by decide)]
    exact strip_of_ends (fun c hc => beq_eq_false_iff_ne.2 fun heq => hfirst (heq ▸ hc))
      fun c hc => beq_eq_false_iff_ne.2 fun heq => hlast (heq ▸ hc)
  have hnames : a.table.toList.isEmpty = false ∧ a.column.toList.isEmpty = false :=
    ⟨List.isEmpty_eq_false_iff.2 (toList_ne_nil_of_isIdentifier htable),
      List.isEmpty_eq_false_iff.2 (toList_ne_nil_of_isIdentifier hcolumn)⟩
  have hpoint : '.' ∉ a.table.toList := not_mem_of_isIdentifier htable (by decide)
  simp only [comparison, htrim, hcut, hfield, cut?_qualified hpoint, hnames, hliteral, hbare,
    condition, Bool.or_self, Bool.false_eq_true, if_false, String.ofList_toList]

end Comparison

/-! ## A condition that is a comparison -/

theorem renders_comparisonText (table column value : String) :
    (Comparison.mk table column value).Renders (comparisonText table column value).toList := by
  have hgap : IsBlanks [' '] := by decide
  have htext : (comparisonText table column value).toList
      = (qualified table column).toList ++ ([' '] ++ '=' :: ([' '] ++ quotedLiteral value)) :=
    toList_comparisonText table column value
  rw [htext]
  exact .intro hgap hgap

/-- A comparison is read as it is meant if and only if its value mentions no operator. -/
theorem parse_comparisonText_iff (htable : isIdentifier table = true)
    (hcolumn : isIdentifier column = true) (hvalue : '\'' ∉ value.toList) :
    parse (comparisonText table column value) = .ok (.equals table column value) ↔
      ¬ Mentions ['o', 'r'] value.toList ∧ ¬ Mentions ['a', 'n', 'd'] value.toList := by
  have hrenders := renders_comparisonText table column value
  have hnamed : (Comparison.mk table column value).Named := ⟨htable, hcolumn⟩
  have hnonempty : (comparisonText table column value).toList.isEmpty = false := by
    rw [toList_comparisonText]
    simp
  have hparse : parse (comparisonText table column value) = .ok (chain .or ((splitBy ['o', 'r']
      (comparisonText table column value).toList).map conjunction)) := by
    simp only [parse, hrenders.trim_eq hnamed, hnonempty, Bool.false_eq_true, if_false]
  have hor := hrenders.mentions_value_iff hnamed or_mem_operators
  have hand := hrenders.mentions_value_iff hnamed and_mem_operators
  have hsolidOr := solid_of_mem_operators or_mem_operators
  have hsolidAnd := solid_of_mem_operators and_mem_operators
  rw [hparse, ← hor, ← hand]
  by_cases hmentionsOr : Mentions ['o', 'r'] (comparisonText table column value).toList
  · -- the text is cut at `OR`, so that it reads as a disjunction
    obtain ⟨left, right, hchain⟩ := exists_chain_eq hsolidOr hmentionsOr .or conjunction
    rw [hchain]
    exact iff_of_false (by simp) fun h => h.1 hmentionsOr
  rw [(splitBy_eq_iff hsolidOr _).2 hmentionsOr, List.map_singleton, chain, conjunction]
  by_cases hmentionsAnd : Mentions ['a', 'n', 'd'] (comparisonText table column value).toList
  · obtain ⟨left, right, hchain⟩ := exists_chain_eq hsolidAnd hmentionsAnd .and comparison
    rw [hchain]
    exact iff_of_false (by simp) fun h => h.2 hmentionsAnd
  rw [(splitBy_eq_iff hsolidAnd _).2 hmentionsAnd, List.map_singleton, chain,
    hrenders.comparison_eq hnamed (fun h => hvalue (List.mem_of_mem_head? h))
      fun h => hvalue (List.mem_of_getLast? h)]
  exact iff_of_true rfl ⟨hmentionsOr, hmentionsAnd⟩

end Condition

end SheetStore
