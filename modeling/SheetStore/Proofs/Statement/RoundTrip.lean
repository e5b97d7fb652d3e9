import SheetStore.Proofs.Statement.Parser

/-!
# Reading what was printed

A statement of which all parts can be told reads back from each of its texts, whatever its names and
its condition hold (`parse_of_renders`).
-/

namespace SheetStore.Statement

open Text

/-- A plain statement is read from each of its texts, with blanks around the text. -/
theorem parse_of_renders {statement : Statement} {line : String} {before text after : List Char}
    (hplain : statement.IsPlain) (h : statement.Renders text) (hbefore : IsBlanks before)
    (hafter : IsBlanks after) (hline : line.toList = before ++ (text ++ after)) :
    parse line = .ok statement := by
  have htrim : trim line.toList = text := by
    rw [hline, trim_append hbefore hafter h.begins (h.ends hplain)]
  cases h with
  | select hselect hgap hfields hgap' hscope hend =>
      refine parse_of_selection? ?_
      rw [htrim, keyword?_append hselect, Option.bind_some]
      exact selection?_append hgap hfields hgap' hscope hend hplain
  | @insert table values _ _ _ _ _ _ _ left valueText right _ hinsert hgap hinto hgap' hgap''
      hvalues hbefore hleft hlist hright hfree hend =>
      have hread : (keyword? ['i', 'n', 's', 'e', 'r', 't'] (trim line.toList)).bind insertion?
          = some (table, left ++ (valueText ++ right)) := by
        rw [htrim, keyword?_append hinsert, Option.bind_some]
        exact insertion?_append hgap hinto hgap' hplain.1 hgap'' hvalues hbefore hfree hend
      rw [parse_of_insertion? hread, values_of_joined hlist hplain.2 hleft hright]
      rfl
  | delete hdelete hgap hscope hend =>
      refine parse_of_deletion? ?_
      rw [htrim, keyword?_append hdelete, Option.bind_some]
      exact deletion?_append hgap hscope hend hplain nofun
  | deleteWhere hdelete hgap hscope hend =>
      refine parse_of_deletion? ?_
      rw [htrim, keyword?_append hdelete, Option.bind_some]
      exact deletion?_append hgap hscope hend hplain.1 fun c hc => Option.some.inj hc ▸ hplain.2

/-- Keywords stand as names, and a condition holds what ends the fields elsewhere. -/
theorem sample_parse_of_renders :
    parse "\t Select from.from  ,where.values\nFROM from,\twhere WHERE from.x = ' from y; where' ; "
      = .ok (.select ["from.from", "where.values"] ["from", "where"]
          (some "from.x = ' from y; where'")) := by
  have hword : ∀ name ∈ ["from", "where", "values"], IsWord name.toList := by decide +kernel
  have hfields : ∀ f ∈ ["from.from", "where.values"], IsField f.toList :=
    List.forall_mem_cons.2
      ⟨⟨"from".toList, "from".toList, hword _ (by simp), hword _ (by simp), rfl⟩,
      List.forall_mem_singleton.2
        ⟨"where".toList, "values".toList, hword _ (by simp), hword _ (by simp), rfl⟩⟩
  have hcondition : Printed "from.x = ' from y; where'" :=
    ⟨⟨'f', by decide, by decide⟩, ⟨'\'', by decide, by decide⟩, by decide⟩
  have hplain : (select ["from.from", "where.values"] ["from", "where"]
      (some "from.x = ' from y; where'")).IsPlain :=
    ⟨hfields, fun t ht => hword t (List.mem_of_mem_take (i := 2) ht),
      fun c hc => Option.some.inj hc ▸ hcondition⟩
  -- the parts of the line from left to right
  have hfieldText : Joined String.toList ["from.from", "where.values"]
      ("from.from".toList ++ ("  ".toList ++ ',' :: ([] ++ "where.values".toList))) :=
    .cons _ (by decide) (by decide) (.single _)
  have hnames : Joined String.toList ["from", "where"]
      ("from".toList ++ ([] ++ ',' :: ("\t".toList ++ "where".toList))) :=
    .cons _ (by decide) (by decide) (.single _)
  have hscope : ScopeText ["from", "where"] (some "from.x = ' from y; where'")
      (("FROM".toList
          ++ ([' '] ++ ("from".toList ++ ([] ++ ',' :: ("\t".toList ++ "where".toList)))))
        ++ ([' '] ++ ("WHERE".toList ++ ([' '] ++ "from.x = ' from y; where'".toList)))) :=
    .selected (.all (by decide) (by decide) hnames) (by decide) (by decide) (by decide)
  have hselect : "Select".toList.map foldCase = ['s', 'e', 'l', 'e', 'c', 't'] := by decide
  have hspace : IsGap [' '] := by decide
  have hlineFeed : IsGap ['\n'] := by decide
  have hbefore : IsBlanks "\t ".toList := by decide
  exact parse_of_renders hplain
    (.select hselect hspace hfieldText hlineFeed hscope (.semicolon hspace.2)) hbefore hspace.2 rfl

end SheetStore.Statement
