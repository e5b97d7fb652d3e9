import SheetStore.Proofs.Condition.Parser

/-!
# Conditions in disjunctive normal form

A condition without malformed parts is a disjunction of conjunctions of comparisons.  It has many
texts: the operators may be written in any case, and around each of them stands a gap (`JoinedBy`).
Comparisons that are *plain* (`Comparison.IsPlain`) can be told from such a text, so the condition
is read as it is meant, and it is true if all comparisons of one of its conjunctions are
(`parse_normalForm`).

The text is cut twice before any comparison is read, first at `OR` and then at `AND`.  A text that
joins parts is cut into these parts if no part mentions the operator and each ends with a character
that stands in no operator (`JoinedBy.map_splitBy`).  That a conjunction mentions no `OR` does not
follow from its comparisons alone, since `AND` and the gaps around it lie between them, and the name
of the next table may be `or` (`JoinedBy.not_mentions`).
-/

namespace SheetStore.Condition

open Text

variable {α : Type}

/-- The texts of the items, with a spelling of the word between each two of them and a gap on both
sides of it. -/
inductive JoinedBy (word : List Char) (text : α → List Char → Prop) :
    List α → List Char → Prop where
  /-- A single item. -/
  | single {a : α} {s : List Char} (htext : text a s) : JoinedBy word text [a] s
  /-- An item, the word and further items. -/
  | cons {a : α} {items : List α} {s gap spelled gap' rest : List Char} (htext : text a s)
      (hgap : IsGap gap) (hspelled : spelled.map foldCase = word) (hgap' : IsGap gap')
      (hrest : JoinedBy word text items rest) :
      JoinedBy word text (a :: items) (s ++ (gap ++ (spelled ++ (gap' ++ rest))))

/-! ## Cutting a joined text -/

namespace JoinedBy

variable {word : List Char} {text : α → List Char → Prop} {items : List α} {t : List Char}

theorem ne_nil (h : JoinedBy word text items t) : items ≠ [] := by
  cases h <;> exact List.cons_ne_nil _ _

/-- Every item has a text. -/
theorem exists_text (h : JoinedBy word text items t) : ∀ a ∈ items, ∃ s, text a s := by
  induction h with
  | single htext => exact List.forall_mem_singleton.2 ⟨_, htext⟩
  | cons htext _ _ _ _ ih => exact List.forall_mem_cons.2 ⟨⟨_, htext⟩, ih⟩

/-- A joined text begins as its first item does. -/
theorem begins (h : JoinedBy word text items t)
    (hitems : ∀ a ∈ items, ∀ s, text a s → Begins s) : Begins t := by
  cases h with
  | single htext => exact hitems _ List.mem_cons_self _ htext
  | cons htext => exact (hitems _ List.mem_cons_self _ htext).append _

/-- A joined text ends as its last item does. -/
theorem getLast?_eq {c : Char} (h : JoinedBy word text items t)
    (hitems : ∀ a ∈ items, ∀ s, text a s → s.getLast? = some c) : t.getLast? = some c := by
  induction h with
  | single htext => exact hitems _ List.mem_cons_self _ htext
  | cons htext _ _ _ _ ih =>
      rw [List.forall_mem_cons] at hitems
      simp only [List.getLast?_append, ih hitems.2, Option.some_or]

/-- Cutting undoes joining, whatever the parts are read as. -/
theorem map_splitBy {β : Type} {read : List Char → β} {meaning : α → β}
    (h : JoinedBy word text items t) (hword : Solid word)
    (hitems : ∀ a ∈ items, ∀ s, text a s → IsPart word s ∧ read s = meaning a) :
    (splitBy word t).map read = items.map meaning := by
  induction h with
  | single htext =>
      obtain ⟨hpart, hread⟩ := hitems _ List.mem_cons_self _ htext
      rw [(splitBy_eq_iff hword _).2 hpart.whole, List.map_singleton, List.map_singleton, hread]
  | cons htext hgap hspelled hgap' hrest ih =>
      rw [List.forall_mem_cons] at hitems
      obtain ⟨hpart, hread⟩ := hitems.1 _ htext
      have hbegins := hrest.begins fun a ha s hs => (hitems.2 a ha s hs).1.first
      rw [hpart.splitBy_append hword hgap hspelled hgap' hbegins, List.map_cons, List.map_cons,
        hread, ih hitems.2]

/-- A text that is joined by one word does not mention another word if its items do not, wherever
they stand, and the two words have no letter in common. -/
theorem not_mentions {other : List Char} (h : JoinedBy word text items t) (hword : Solid word)
    (hother : Solid other) (hletters : ∀ c ∈ word, isBlank c = false ∧ c ∉ other)
    (hitems : ∀ a ∈ items, ∀ s, text a s → ∀ blanks back, IsBlanks blanks →
      Mentions other (blanks ++ (s ++ back)) → Mentions other back)
    {blanks : List Char} (hblanks : IsBlanks blanks) : ¬ Mentions other (blanks ++ t) := by
  induction h generalizing blanks with
  | @single a s htext =>
      intro hmentions
      rw [← List.append_nil s] at hmentions
      exact not_mentions_nil (hitems a List.mem_cons_self s htext blanks [] hblanks hmentions)
  | @cons a items s gap spelled gap' rest htext hgap hspelled hgap' hrest ih =>
      rw [List.forall_mem_cons] at hitems
      intro hmentions
      have hlater := hitems.1 s htext blanks _ hblanks hmentions
      obtain ⟨c, more, rfl⟩ := List.exists_cons_of_ne_nil (l := spelled) <| by
        rintro rfl
        obtain ⟨d, hd, -⟩ := begins_of_spelled hword hspelled
        cases hd
      have hspelling : ∀ d ∈ c :: more, isBlank d = false ∧ foldCase d ∉ other := by
        intro d hd
        obtain ⟨hblank, hnot⟩ := hletters _ (hspelled ▸ List.mem_map_of_mem hd)
        refine ⟨Bool.eq_false_iff.2 fun hd => ?_, hnot⟩
        rw [foldCase_of_isBlank hd, hd] at hblank
        cases hblank
      rw [List.forall_mem_cons] at hspelling
      -- no mention reaches over the first letter of the word, and none begins in the others
      rcases (mentions_append_cons hspelling.1.1 hspelling.1.2).1 hlater with hfirst | hrest
      · exact not_mentions_of_isBlanks hother hgap.2 hfirst
      · exact ih hitems.2 hgap'.2 (mentions_of_append (fun d hd => (hspelling.2 d hd).1) hrest)

end JoinedBy

/-! ## Reading the parts -/

/-- The names of the comparison are identifiers, and its value can stand between quotes in a
condition: it has no quote at either end and mentions no operator. -/
structure Comparison.IsPlain (a : Comparison) : Prop extends a.Named where
  /-- The value does not begin with a quote. -/
  first : a.value.toList.head? ≠ some '\''
  /-- The value does not end with a quote. -/
  last : a.value.toList.getLast? ≠ some '\''
  /-- The value does not mention `OR`. -/
  no_or : ¬ Mentions ['o', 'r'] a.value.toList
  /-- The value does not mention `AND`. -/
  no_and : ¬ Mentions ['a', 'n', 'd'] a.value.toList

/-- Two blanks are needed to mention an operator. -/
theorem Comparison.isPlain_of_countP {a : Comparison} (hnamed : a.Named)
    (hfirst : a.value.toList.head? ≠ some '\'') (hlast : a.value.toList.getLast? ≠ some '\'')
    (hblanks : a.value.toList.countP isBlank < 2) : a.IsPlain :=
  ⟨hnamed, hfirst, hlast, not_mentions_of_countP hblanks, not_mentions_of_countP hblanks⟩

variable {atoms : List Comparison} {t : List Char}

/-- A conjunction of plain comparisons is read as the chain of them. -/
theorem conjunction_eq (h : JoinedBy ['a', 'n', 'd'] Comparison.Renders atoms t)
    (hplain : ∀ a ∈ atoms, a.IsPlain) :
    conjunction t = chain .and (atoms.map Comparison.condition) := by
  have hsolid := solid_of_mem_operators and_mem_operators
  refine congrArg _ (h.map_splitBy hsolid fun a ha s hs => ⟨⟨?_, ?_, ?_⟩, ?_⟩)
  · rw [hs.mentions_value_iff (hplain a ha).toNamed and_mem_operators]
    exact (hplain a ha).no_and
  · exact hs.begins (hplain a ha).toNamed
  · exact ⟨'\'', hs.getLast?, by decide, by decide +kernel⟩
  · exact hs.comparison_eq (hplain a ha).toNamed (hplain a ha).first (hplain a ha).last

/-- A conjunction of plain comparisons is a part of a disjunction. -/
theorem isPart_conjunction (h : JoinedBy ['a', 'n', 'd'] Comparison.Renders atoms t)
    (hplain : ∀ a ∈ atoms, a.IsPlain) : IsPart ['o', 'r'] t where
  whole := by
    have hletters : ∀ c ∈ ['a', 'n', 'd'], isBlank c = false ∧ c ∉ ['o', 'r'] := by
      simp only [List.forall_mem_cons, List.not_mem_nil, false_imp_iff, implies_true, and_true]
      decide
    refine h.not_mentions (solid_of_mem_operators and_mem_operators)
      (solid_of_mem_operators or_mem_operators) hletters ?_ (List.forall_mem_nil _)
    intro a ha s hs blanks back hblanks hmentions
    rw [hs.mentions_iff (hplain a ha).toNamed or_mem_operators hblanks] at hmentions
    exact hmentions.resolve_left (hplain a ha).no_or
  first := h.begins fun a ha s hs => hs.begins (hplain a ha).toNamed
  last := ⟨'\'', h.getLast?_eq fun a _ s hs => hs.getLast?, by decide, by decide +kernel⟩

/-! ## Readings of a chain -/

theorem chain_cons {join : Condition → Condition → Condition} (first : Condition)
    {rest : List Condition} (h : rest ≠ []) :
    chain join (first :: rest) = join first (chain join rest) := by
  cases rest with
  | nil => exact absurd rfl h
  | cons => rfl

section Readings

variable {reading : Condition → Bool}

/-- A disjunction is true if one of its parts is. -/
theorem reading_chain_or (hmalformed : ∀ text, reading (.malformed text) = false)
    (hor : ∀ left right, reading (.or left right) = (reading left || reading right))
    (parts : List Condition) : reading (chain .or parts) = parts.any reading := by
  induction parts with
  | nil => exact hmalformed ""
  | cons first rest ih =>
      cases rest with
      | nil => rw [chain, List.any_cons, List.any_nil, Bool.or_false]
      | cons second rest =>
          rw [chain_cons _ (List.cons_ne_nil second rest), hor, ih]
          exact List.any_cons.symm

/-- A conjunction is true if all of its parts are. -/
theorem reading_chain_and
    (hand : ∀ left right, reading (.and left right) = (reading left && reading right))
    {parts : List Condition} (hparts : parts ≠ []) :
    reading (chain .and parts) = parts.all reading := by
  induction parts with
  | nil => exact absurd rfl hparts
  | cons first rest ih =>
      cases rest with
      | nil => rw [chain, List.all_cons, List.all_nil, Bool.and_true]
      | cons second rest =>
          have hrest := List.cons_ne_nil second rest
          rw [chain_cons _ hrest, hand, ih hrest]
          exact List.all_cons.symm

/-- A disjunction of conjunctions is true if all parts of one of the conjunctions are. -/
theorem reading_chains (hmalformed : ∀ text, reading (.malformed text) = false)
    (hor : ∀ left right, reading (.or left right) = (reading left || reading right))
    (hand : ∀ left right, reading (.and left right) = (reading left && reading right))
    {dnf : List (List Comparison)} (hdnf : ∀ atoms ∈ dnf, atoms ≠ []) :
    reading (chain .or (dnf.map fun atoms => chain .and (atoms.map Comparison.condition)))
      = dnf.any fun atoms => atoms.all fun a => reading a.condition := by
  rw [reading_chain_or hmalformed hor, List.any_map, Bool.eq_iff_iff, List.any_eq_true,
    List.any_eq_true]
  refine exists_congr fun atoms => and_congr_right fun hatoms => ?_
  have hparts : atoms.map Comparison.condition ≠ [] := mt List.map_eq_nil_iff.1 (hdnf atoms hatoms)
  rw [Function.comp_apply, reading_chain_and hand hparts, List.all_map]
  rfl

end Readings

/-! ## Reading the condition -/

/-- A disjunction of conjunctions of plain comparisons, with operators in any case, any gaps around
them and any blanks around the equals signs and around the whole, is read as the chain of the chains
of exactly these comparisons.  Under both readings it is true if and only if all comparisons of one
of the conjunctions are. -/
theorem parse_normalForm {dnf : List (List Comparison)} {line : String}
    {before text after : List Char} (hplain : ∀ atoms ∈ dnf, ∀ a ∈ atoms, a.IsPlain)
    (htext : JoinedBy ['o', 'r'] (JoinedBy ['a', 'n', 'd'] Comparison.Renders) dnf text)
    (hbefore : IsBlanks before) (hafter : IsBlanks after)
    (hline : line.toList = before ++ (text ++ after)) :
    ∃ c, parse line = .ok c ∧
      c = chain .or (dnf.map fun atoms => chain .and (atoms.map Comparison.condition)) ∧
      (∀ scope row, c.holds scope row
        = dnf.any fun atoms => atoms.all fun a => a.condition.holds scope row) ∧
      ∀ scope current row, c.admits scope current row
        = dnf.any fun atoms => atoms.all fun a => a.condition.admits scope current row := by
  have hbegins : Begins text := htext.begins fun atoms hatoms t ht =>
    (isPart_conjunction ht (hplain atoms hatoms)).first
  have hends : Ends text := by
    refine ⟨'\'', htext.getLast?_eq fun atoms hatoms t ht => ?_, by decide⟩
    exact ht.getLast?_eq fun a _ s hs => hs.getLast?
  have htrim : trim line.toList = text := by
    rw [hline, trim_append hbefore hafter hbegins hends]
  have hnonempty : text.isEmpty = false := by
    obtain ⟨c, hc, -⟩ := hbegins
    cases text with
    | nil => cases hc
    | cons => rfl
  have hsplit : (splitBy ['o', 'r'] text).map conjunction
      = dnf.map fun atoms => chain .and (atoms.map Comparison.condition) :=
    htext.map_splitBy (solid_of_mem_operators or_mem_operators) fun atoms hatoms t ht =>
      ⟨isPart_conjunction ht (hplain atoms hatoms), conjunction_eq ht (hplain atoms hatoms)⟩
  have hdnf : ∀ atoms ∈ dnf, atoms ≠ [] := by
    intro atoms hatoms
    obtain ⟨t, ht⟩ := htext.exists_text atoms hatoms
    exact ht.ne_nil
  refine ⟨_, ?_, rfl, fun scope row => ?_, fun scope current row => ?_⟩
  · rw [parse, htrim, hnonempty, hsplit]
    rfl
  · exact reading_chains (fun _ => rfl) (fun _ _ => rfl) (fun _ _ => rfl) hdnf
  · exact reading_chains (fun _ => rfl) (fun _ _ => rfl) (fun _ _ => rfl) hdnf

/-- Tables and columns with the names of operators, an operator in a value, and an empty value. -/
theorem sample_parse_normalForm :
    parse " or.and=' AND'\taNd beer.name = 'Orval' Or  t._1\t='' "
      = .ok (.or (.and (.equals "or" "and" " AND") (.equals "beer" "name" "Orval"))
          (.equals "t" "_1" "")) := by
  have hparts : ∀ atoms ∈ [[Comparison.mk "or" "and" " AND", .mk "beer" "name" "Orval"],
      [.mk "t" "_1" ""]], ∀ a ∈ atoms,
        (isIdentifier a.table = true ∧ isIdentifier a.column = true) ∧
          a.value.toList.head? ≠ some '\'' ∧ a.value.toList.getLast? ≠ some '\'' ∧
            a.value.toList.countP isBlank < 2 := by decide +kernel
  have hplain : ∀ atoms ∈ [[Comparison.mk "or" "and" " AND", .mk "beer" "name" "Orval"],
      [.mk "t" "_1" ""]], ∀ a ∈ atoms, a.IsPlain := by
    intro atoms hatoms a ha
    obtain ⟨⟨htable, hcolumn⟩, hfirst, hlast, hblanks⟩ := hparts atoms hatoms a ha
    exact Comparison.isPlain_of_countP ⟨htable, hcolumn⟩ hfirst hlast hblanks
  have hnil : IsBlanks [] := List.forall_mem_nil _
  have hblank : IsGap [' '] := by decide
  have htab : IsGap ['\t'] := by decide
  have hgap : IsGap [' ', ' '] := by decide
  have hand : ['a', 'N', 'd'].map foldCase = ['a', 'n', 'd'] := by decide
  have hor : ['O', 'r'].map foldCase = ['o', 'r'] := by decide
  have hfirst := JoinedBy.cons
    (Comparison.Renders.intro (a := .mk "or" "and" " AND") hnil hnil) htab hand hblank
    (.single (renders_comparisonText "beer" "name" "Orval"))
  have hsecond : JoinedBy ['a', 'n', 'd'] Comparison.Renders [.mk "t" "_1" ""] _ :=
    .single (.intro htab.2 hnil)
  obtain ⟨c, hparse, rfl, -⟩ := @parse_normalForm _
    " or.and=' AND'\taNd beer.name = 'Orval' Or  t._1\t='' " _ _ _ hplain
    (.cons hfirst hblank hor hgap (.single hsecond)) hblank.2 hblank.2 (by decide +kernel)
  exact hparse

end SheetStore.Condition
