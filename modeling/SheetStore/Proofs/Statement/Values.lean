import SheetStore.Proofs.Statement.Parser
import SheetStore.Proofs.Text.Lines

/-!
# Values and commas

The values of an insertion are cut at the commas outside of single quotes.  A comma is inside if an
odd number of quotes stands before it, counted from the start of the text and not of its value, and
then it stays in its value: neither the blanks nor the quotes that a value loses at its ends are
commas.  A value with a comma refuses all.  So the quotes decide only whether there are values, and
if there are, they are what one gets by cutting at every comma (`values_eq_cut`).
-/

namespace SheetStore.Statement

open Text

/-! ## Inside of quotes -/

/-- Whether the end of a text is inside of quotes, given whether its start is. -/
def endsQuoted (quoted : Bool) (s : List Char) : Bool := quoted ^^ (s.count '\'' % 2 == 1)

theorem endsQuoted_cons (quoted : Bool) (c : Char) (s : List Char) :
    endsQuoted quoted (c :: s) = endsQuoted (quoted ^^ c == '\'') s :=
  (quoted_count_cons quoted c s).symm

/-- A comma of the text has an odd number of single quotes before it. -/
def HasQuotedComma (s : List Char) : Prop :=
  ∃ i < s.length, s[i]? = some ',' ∧ (s.take i).count '\'' % 2 = 1

instance (s : List Char) : Decidable (HasQuotedComma s) :=
  inferInstanceAs (Decidable (∃ i < s.length, s[i]? = some ',' ∧ (s.take i).count '\'' % 2 = 1))

theorem hasQuotedComma_iff {s : List Char} :
    HasQuotedComma s ↔ ∃ i, s[i]? = some ',' ∧ endsQuoted false (s.take i) = true := by
  simp only [HasQuotedComma, endsQuoted, Bool.false_xor, beq_iff_eq]
  constructor
  · rintro ⟨i, -, hcomma, hodd⟩
    exact ⟨i, hcomma, hodd⟩
  · rintro ⟨i, hcomma, hodd⟩
    exact ⟨i, (List.getElem?_eq_some_iff.1 hcomma).1, hcomma, hodd⟩

/-! ## Cutting -/

variable {s : List Char} {quoted : Bool}

/-- If no comma is inside of quotes, the text is cut at all of them. -/
theorem valuesFrom_eq_splitOn
    (h : ∀ i, s[i]? = some ',' → endsQuoted quoted (s.take i) = false) (value : List Char) :
    valuesFrom quoted value s = s.splitOnPPrepend (· == ',') value := by
  induction s generalizing quoted value with
  | nil => rfl
  | cons c s ih =>
      have hrest : ∀ i, s[i]? = some ',' → endsQuoted (quoted ^^ c == '\'') (s.take i) = false := by
        intro i hi
        rw [← endsQuoted_cons]
        exact h (i + 1) hi
      rw [valuesFrom, List.splitOnPPrepend]
      by_cases hc : c = ','
      · subst hc
        have hout : quoted = false := by simpa [endsQuoted] using h 0 rfl
        subst hout
        rw [if_pos (by decide), if_pos (by decide)]
        exact congrArg (value.reverse :: ·) (ih hrest [])
      · rw [if_neg (by simp [hc]), if_neg (by simp [hc]), ih hrest]

/-- What was passed is in the first value. -/
theorem exists_mem_valuesFrom {c : Char} {value : List Char} (h : c ∈ value) (quoted : Bool)
    (s : List Char) : ∃ v ∈ valuesFrom quoted value s, c ∈ v := by
  induction s generalizing quoted value with
  | nil => exact ⟨_, List.mem_singleton_self _, List.mem_reverse.2 h⟩
  | cons d s ih =>
      rw [valuesFrom]
      split
      · exact ⟨_, List.mem_cons_self, List.mem_reverse.2 h⟩
      · exact ih (List.mem_cons_of_mem _ h) _

/-- A comma inside of quotes stays in its value. -/
theorem exists_comma_mem_valuesFrom {i : Nat} (hcomma : s[i]? = some ',')
    (hquoted : endsQuoted quoted (s.take i) = true) (value : List Char) :
    ∃ v ∈ valuesFrom quoted value s, ',' ∈ v := by
  induction s generalizing quoted value i with
  | nil => cases hcomma
  | cons c s ih =>
      rw [valuesFrom]
      cases i with
      | zero =>
          have hin : quoted = true := by simpa [endsQuoted] using hquoted
          rw [if_neg (by simp [hin])]
          obtain rfl : c = ',' := Option.some.inj hcomma
          exact exists_mem_valuesFrom List.mem_cons_self _ s
      | succ i =>
          rw [List.take_succ_cons, endsQuoted_cons] at hquoted
          rw [List.getElem?_cons_succ] at hcomma
          split
          · rename_i hcut
            obtain ⟨rfl, rfl⟩ : c = ',' ∧ quoted = false := by simpa using hcut
            obtain ⟨v, hv, hmem⟩ := ih hcomma hquoted []
            exact ⟨v, List.mem_cons_of_mem _ hv, hmem⟩
          · exact ih hcomma hquoted _

/-- A value that is stripped keeps its commas and gets none. -/
theorem comma_mem_bareValue {value : List Char} : ',' ∈ bareValue value ↔ ',' ∈ value := by
  rw [bareValue, mem_strip_iff (by decide), trim, mem_strip_iff (by decide)]

/-! ## The values -/

/-- The text cut at every comma, each part without the blanks around it and then without the quotes
at both of its ends. -/
def cutValues (s : List Char) : List String :=
  (s.splitOn ',').map fun part => String.ofList (strip (· == '\'') (trim part))

theorem comma_not_mem_of_mem_cutValues {v : String} (h : v ∈ cutValues s) : ',' ∉ v.toList := by
  obtain ⟨part, hpart, rfl⟩ := List.mem_map.1 h
  rw [String.toList_ofList]
  exact mt comma_mem_bareValue.1 (of_mem_splitOn hpart).1

theorem length_cutValues (s : List Char) : (cutValues s).length = s.count ',' + 1 := by
  rw [cutValues, List.length_map, length_splitOn]

theorem values_of_hasQuotedComma (h : HasQuotedComma s) : values s = .error .commaInValue := by
  obtain ⟨i, hi, hodd⟩ := hasQuotedComma_iff.1 h
  obtain ⟨v, hv, hmem⟩ := exists_comma_mem_valuesFrom hi hodd []
  have hany : ((valuesFrom false [] s).map bareValue).any (·.contains ',') = true :=
    List.any_eq_true.2 ⟨_, List.mem_map_of_mem hv,
      List.contains_iff_mem.2 (comma_mem_bareValue.2 hmem)⟩
  rw [values, if_pos hany]

theorem values_of_not_hasQuotedComma (h : ¬ HasQuotedComma s) : values s = .ok (cutValues s) := by
  have hcut : valuesFrom false [] s = s.splitOn ',' := by
    refine valuesFrom_eq_splitOn (fun i hi => ?_) []
    rw [← Bool.not_eq_true]
    exact fun hodd => h (hasQuotedComma_iff.2 ⟨i, hi, hodd⟩)
  have hnone : ((s.splitOn ',').map bareValue).any (·.contains ',') = false := by
    rw [List.any_map, List.any_eq_false]
    intro part hpart hcontains
    exact (of_mem_splitOn hpart).1 (comma_mem_bareValue.1 (List.contains_iff_mem.1 hcontains))
  rw [values, hcut, hnone, if_neg Bool.false_ne_true, List.map_map]
  rfl

/-- The values of an insertion are refused if a comma has an odd number of quotes before it, and
otherwise are what is between the commas, without blanks and quotes at the ends.  So none of them
holds a comma, and they are one more than there are commas. -/
theorem values_eq_cut (s : List Char) :
    values s = (if HasQuotedComma s then .error .commaInValue else .ok (cutValues s)) ∧
      ∀ all, values s = .ok all →
        (∀ v ∈ all, ',' ∉ v.toList) ∧ all.length = s.count ',' + 1 := by
  by_cases h : HasQuotedComma s
  · rw [if_pos h, values_of_hasQuotedComma h]
    exact ⟨rfl, fun all hall => by cases hall⟩
  · rw [if_neg h, values_of_not_hasQuotedComma h]
    refine ⟨rfl, fun all hall => ?_⟩
    cases hall
    exact ⟨fun v hv => comma_not_mem_of_mem_cutValues hv, length_cutValues s⟩

/-- Quotes may be doubled, stand alone or be all there is.  A comma after three of them refuses the
values. -/
theorem sample_values_eq_cut :
    let text := " 'it''s' ,'''',  c d  ,'".toList
    let all := ["it''s", "", "c d", ""]
    values text = .ok all ∧ (∀ v ∈ all, ',' ∉ v.toList) ∧ all.length = text.count ',' + 1 ∧
      values "'''a, b', 'c'".toList = .error .commaInValue := by
  intro text all
  have hall : values text = .ok all := (values_eq_cut text).1.trans (by decide +kernel)
  obtain ⟨hfree, hlength⟩ := (values_eq_cut text).2 all hall
  exact ⟨hall, hfree, hlength, (values_eq_cut _).1.trans (by decide +kernel)⟩

end SheetStore.Statement
