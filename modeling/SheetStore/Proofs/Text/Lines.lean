import SheetStore.Text.Pieces

/-!
# Cutting undoes joining

The fields of values joined by a separator are the values (`fields_intercalate`), and the lines of a
text that begins with a line are that line and the lines of the rest (`lines_line`).  A value may
not hold the separator, and a line may not hold a line feed.  The other way round there is nothing
to ask for: the fields of any text, joined again, are the text (`intercalate_fields`).  Cutting at
the first separator gives what was joined by it if the first part does not hold it (`cut?_append`).

Whatever text is cut, its fields are free of the separator and have no other characters than the
text (`of_mem_fields`), and its lines are free of line feeds (`oneLine_of_mem_lines`).

A text is put at the end of another one without a change to the lines that are there only if those
are complete (`lines_append`).  Every text is made of complete lines and a rest
(`exists_lines_rest`).
-/

namespace SheetStore.Text

/-! ## Fields -/

/-- A part is free of the separator and has no other characters than the text. -/
theorem of_mem_splitOn {sep : Char} {s part : List Char} (h : part ∈ s.splitOn sep) :
    sep ∉ part ∧ ∀ c ∈ part, c ∈ s := by
  induction s generalizing part with
  | nil =>
      rw [List.splitOn_nil, List.mem_singleton] at h
      subst h
      exact ⟨List.not_mem_nil, List.forall_mem_nil _⟩
  | cons c s ih =>
      have hlonger : ∀ {part}, part ∈ s.splitOn sep → sep ∉ part ∧ ∀ d ∈ part, d ∈ c :: s :=
        fun hpart => ⟨(ih hpart).1, fun d hd => List.mem_cons_of_mem c ((ih hpart).2 d hd)⟩
      obtain ⟨first, others, hparts⟩ := List.exists_cons_of_ne_nil (List.splitOn_ne_nil sep s)
      rw [List.splitOn_cons_eq_if_modifyHead] at h
      split at h
      · rcases List.mem_cons.1 h with rfl | h
        · exact ⟨List.not_mem_nil, List.forall_mem_nil _⟩
        · exact hlonger h
      · rename_i hc
        rw [hparts] at h hlonger
        rcases List.mem_cons.1 h with rfl | h
        · obtain ⟨hsep, hchars⟩ := hlonger List.mem_cons_self
          refine ⟨List.not_mem_cons_of_ne_of_not_mem ?_ hsep,
            List.forall_mem_cons.2 ⟨List.mem_cons_self, hchars⟩⟩
          exact fun heq => hc (beq_iff_eq.2 heq.symm)
        · exact hlonger (List.mem_cons_of_mem first h)

/-- A field is free of the separator and has no other characters than the text. -/
theorem of_mem_fields {sep : Char} {s field : String} (h : field ∈ fields sep s) :
    sep ∉ field.toList ∧ ∀ c ∈ field.toList, c ∈ s.toList := by
  obtain ⟨part, hpart, rfl⟩ := List.mem_map.1 h
  rw [String.toList_ofList]
  exact of_mem_splitOn hpart

/-- There is one part more than there are separators. -/
theorem length_splitOn (sep : Char) (s : List Char) :
    (s.splitOn sep).length = s.count sep + 1 := by
  induction s with
  | nil => rfl
  | cons c s ih =>
      rw [List.splitOn_cons_eq_if_modifyHead, List.count_cons]
      split
      · rw [List.length_cons, ih]
      · rw [List.length_modifyHead, ih, Nat.add_zero]

/-- Values that are free of commas are the fields of the text that joins them. -/
theorem fields_intercalate {values : List String} (hne : values ≠ [])
    (hfree : ∀ v ∈ values, ',' ∉ v.toList) :
    fields ',' (",".intercalate values) = values := by
  have hparts : ∀ part ∈ values.map String.toList, ',' ∉ part := List.forall_mem_map.2 hfree
  have hcut := List.splitOn_intercalate ',' hparts (mt List.map_eq_nil_iff.1 hne)
  have hstrings : String.ofList ∘ String.toList = id := funext fun _ => String.ofList_toList
  rw [fields, String.toList_intercalate]
  refine (congrArg _ hcut).trans ?_
  rw [List.map_map, hstrings, List.map_id]

/-- The fields of a text make the text again. -/
theorem intercalate_fields (s : String) : ",".intercalate (fields ',' s) = s := by
  apply String.toList_inj.1
  rw [String.toList_intercalate, fields, List.map_map]
  have hparts : String.toList ∘ String.ofList = id := funext fun _ => String.toList_ofList
  rw [hparts, List.map_id]
  exact List.intercalate_splitOn ','

theorem fields_ne_nil (sep : Char) (s : String) : fields sep s ≠ [] :=
  mt List.map_eq_nil_iff.1 (List.splitOn_ne_nil sep s.toList)

/-- What stands before and after the first separator. -/
theorem cut?_append {sep : Char} {s : List Char} (rest : List Char) (h : sep ∉ s) :
    cut? sep (s ++ sep :: rest) = some (s, rest) := by
  have hbefore : ∀ c ∈ s, decide (c ≠ sep) = true := by
    intro c hc
    exact decide_eq_true fun heq => h (heq ▸ hc)
  rw [cut?, List.dropWhile_append_of_pos hbefore, List.takeWhile_append_of_pos hbefore]
  simp

/-- A text that is cut has a separator, and none before the first one. -/
theorem of_cut? {sep : Char} {s before after : List Char} (h : cut? sep s = some (before, after)) :
    s = before ++ sep :: after ∧ sep ∉ before := by
  rw [cut?] at h
  split at h
  · rename_i c rest hdrop
    cases h
    have hc : c = sep := by
      have := List.head?_dropWhile_not (fun c => decide (c ≠ sep)) s
      rw [hdrop] at this
      simpa using this
    subst hc
    constructor
    · rw [← hdrop, List.takeWhile_append_dropWhile]
    · intro hmem
      have := List.all_eq_true.1 List.all_takeWhile c hmem
      simp at this
  · cases h

/-! ## Lines -/

/-- A text without a line feed. -/
def OneLine (s : String) : Prop := '\n' ∉ s.toList

instance (s : String) : Decidable (OneLine s) := inferInstanceAs (Decidable (¬ _))

theorem OneLine.append {s t : String} (hs : OneLine s) (ht : OneLine t) : OneLine (s ++ t) := by
  rw [OneLine, String.toList_append, List.mem_append, not_or]
  exact ⟨hs, ht⟩

theorem OneLine.intercalate {sep : String} {items : List String} (hsep : OneLine sep)
    (hitems : ∀ s ∈ items, OneLine s) : OneLine (sep.intercalate items) := by
  induction items with
  | nil => exact List.not_mem_nil
  | cons s rest ih =>
      rw [List.forall_mem_cons] at hitems
      cases rest with
      | nil =>
          rw [String.intercalate_singleton]
          exact hitems.1
      | cons t rest =>
          rw [String.intercalate_cons_cons]
          exact (hitems.1.append hsep).append (ih hitems.2)

@[simp] theorem lines_empty : lines "" = [] := rfl

/-- Parts in front of those of another text are lines in front of its lines. -/
theorem lines_of_splitOn {s rest : String} {front : List (List Char)}
    (h : s.toList.splitOn '\n' = front ++ rest.toList.splitOn '\n') :
    lines s = front.map (fun part => String.ofList (dropReturn part)) ++ lines rest := by
  have hne := List.splitOn_ne_nil '\n' rest.toList
  obtain ⟨last, hlast⟩ : ∃ last, (rest.toList.splitOn '\n').getLast? = some last :=
    ⟨_, List.getLast?_eq_some_getLast hne⟩
  simp only [lines, h, List.dropLast_append_of_ne_nil hne, List.getLast?_append, hlast]
  simp [Function.comp_def]

/-- A text that begins with a line has that line in front of the lines of its rest. -/
theorem lines_line {line rest : String} (h : '\n' ∉ line.toList) :
    lines (line ++ "\n" ++ rest) = String.ofList (dropReturn line.toList) :: lines rest := by
  have htext : (line ++ "\n" ++ rest).toList = line.toList ++ '\n' :: rest.toList := by simp
  have hparts : (line ++ "\n" ++ rest).toList.splitOn '\n'
      = [line.toList] ++ rest.toList.splitOn '\n' := by
    rw [htext, List.splitOn_append_cons_self_of_not_mem h, List.singleton_append]
  exact lines_of_splitOn hparts

/-- A text without a line feed is its only line. -/
theorem lines_of_not_mem {s : String} (hne : s ≠ "") (h : '\n' ∉ s.toList) : lines s = [s] := by
  unfold lines
  rw [List.splitOn_eq_singleton h]
  simp [hne]

/-- The lines of a text that is empty or ends with a line feed are followed by those of the rest. -/
theorem lines_append {s : String} (h : ∀ c, s.toList.getLast? = some c → c = '\n')
    (rest : String) : lines (s ++ rest) = lines s ++ lines rest := by
  rcases List.eq_nil_or_concat s.toList with hnil | ⟨front, c, hs⟩
  · have hempty : s = "" := String.toList_inj.1 hnil
    rw [hempty, String.empty_append, lines_empty, List.nil_append]
  · obtain rfl : c = '\n' := h c (by rw [hs]; simp)
    rw [List.concat_eq_append] at hs
    have hs' : s.toList.splitOn '\n' = front.splitOn '\n' ++ "".toList.splitOn '\n' := by
      rw [hs, List.splitOn_append_cons_self]
      rfl
    have hall : (s ++ rest).toList.splitOn '\n'
        = front.splitOn '\n' ++ rest.toList.splitOn '\n' := by
      rw [String.toList_append, hs, List.append_assoc]
      exact List.splitOn_append_cons_self front rest.toList
    rw [lines_of_splitOn hs', lines_of_splitOn hall, lines_empty, List.append_nil]

theorem oneLine_of_mem_lines {s line : String} (h : line ∈ lines s) : OneLine line := by
  have hreturn : ∀ part : List Char, ∀ c ∈ dropReturn part, c ∈ part := by
    intro part c hc
    rw [dropReturn] at hc
    split at hc
    · exact (List.dropLast_sublist _).mem hc
    · exact hc
  obtain ⟨part, hpart, rfl⟩ := List.mem_map.1 h
  rw [OneLine, String.toList_ofList]
  rcases List.mem_append.1 hpart with hpart | hpart
  · obtain ⟨whole, hwhole, rfl⟩ := List.mem_map.1 hpart
    exact mt (hreturn whole _) (of_mem_splitOn ((List.dropLast_sublist _).mem hwhole)).1
  · split at hpart
    · cases hpart
    · obtain rfl := List.mem_singleton.1 hpart
      cases hlast : (s.toList.splitOn '\n').getLast? with
      | none => exact List.not_mem_nil
      | some last => exact (of_mem_splitOn (List.mem_of_getLast? hlast)).1

/-- Lines are found again between the line feeds after them. -/
theorem fields_join_lines {items : List String} (h : ∀ line ∈ items, OneLine line) :
    fields '\n' (String.join (items.map (· ++ "\n"))) = items ++ [""] := by
  induction items with
  | nil => rfl
  | cons line rest ih =>
      rw [List.forall_mem_cons] at h
      have hchars : (line ++ "\n" ++ String.join (rest.map (· ++ "\n"))).toList
          = line.toList ++ '\n' :: (String.join (rest.map (· ++ "\n"))).toList := by simp
      rw [List.map_cons, String.join_cons, List.cons_append, ← ih h.2, fields, hchars,
        List.splitOn_append_cons_self_of_not_mem h.1, List.map_cons, String.ofList_toList, fields]

/-- Every text is made of complete lines and a rest without a line feed. -/
theorem exists_lines_rest (s : String) : ∃ front rest : String, s = front ++ rest ∧
    (∀ c, front.toList.getLast? = some c → c = '\n') ∧ '\n' ∉ rest.toList := by
  obtain ⟨chars, hchars⟩ : ∃ chars, chars = s.toList.reverse := ⟨_, rfl⟩
  refine ⟨String.ofList (chars.dropWhile (· ≠ '\n')).reverse,
    String.ofList (chars.takeWhile (· ≠ '\n')).reverse, ?_, ?_, ?_⟩
  · apply String.toList_inj.1
    rw [String.toList_append, String.toList_ofList, String.toList_ofList, ← List.reverse_append,
      List.takeWhile_append_dropWhile, hchars, List.reverse_reverse]
  · intro c hc
    rw [String.toList_ofList, List.getLast?_reverse] at hc
    have := List.head?_dropWhile_not (fun c => decide (c ≠ '\n')) chars
    rw [hc] at this
    simpa using this
  · rw [String.toList_ofList, List.mem_reverse]
    intro hmem
    have := List.all_eq_true.1 List.all_takeWhile _ hmem
    simp at this

theorem dropReturn_of_getLast? {s : List Char} (h : s.getLast? ≠ some '\r') :
    dropReturn s = s := if_neg h

/-- A text that keeps its end does not end with a return. -/
theorem getLast?_ne_of_dropReturn {s : List Char} (h : dropReturn s = s) :
    s.getLast? ≠ some '\r' := by
  intro hlast
  rw [dropReturn, if_pos hlast] at h
  have hlen := congrArg List.length h
  have hpos := List.length_pos_of_mem (List.mem_of_getLast? hlast)
  rw [List.length_dropLast] at hlen
  omega

end SheetStore.Text
