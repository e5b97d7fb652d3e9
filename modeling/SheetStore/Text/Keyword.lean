import SheetStore.Text.Blank

/-!
# Keywords

The words of the command language are matched without regard to case.  Besides the two cases of
each Latin letter there is one more spelling of `s`, the long `ſ`, and one of `k`, the Kelvin sign.
A keyword is written in lower case where it is asked for.

A keyword can also stand *between* two texts, with at least one blank on each side.  `between?`
recognises it there, and `splitBy` cuts a text at every such keyword from the left: the blanks on
both sides belong to the separator, so of two keywords in a row that share their blanks the second
is text.
-/

namespace SheetStore.Text

/-- The lower-case letter of which a character is a spelling. -/
def foldCase (c : Char) : Char :=
  if c = 'ſ' then 's' else if c = '\u212A' then 'k' else c.toLower

/-- The rest of a text after a keyword at its start. -/
def keyword? : List Char → List Char → Option (List Char)
  | [], s => some s
  | _ :: _, [] => none
  | k :: word, c :: rest => if foldCase c = k then keyword? word rest else none

/-- The rest of a text after blanks, a keyword and blanks at its start. -/
def between? (word s : List Char) : Option (List Char) :=
  (blankRun? s).bind fun s => (keyword? word s).bind blankRun?

theorem length_dropBlanks_le (s : List Char) : (dropBlanks s).length ≤ s.length :=
  (List.dropWhile_sublist isBlank).length_le

theorem length_lt_of_blankRun? {s rest : List Char} (h : blankRun? s = some rest) :
    rest.length < s.length := by
  cases s with
  | nil => simp [blankRun?] at h
  | cons c s =>
      simp only [blankRun?] at h
      split at h
      · cases h
        exact Nat.lt_succ_of_le (length_dropBlanks_le s)
      · cases h

theorem length_le_of_keyword? {word s rest : List Char} (h : keyword? word s = some rest) :
    rest.length ≤ s.length := by
  induction word generalizing s with
  | nil => simp_all [keyword?]
  | cons k word ih =>
      cases s with
      | nil => simp [keyword?] at h
      | cons c s =>
          simp only [keyword?] at h
          split at h
          · exact Nat.le_succ_of_le (ih h)
          · cases h

theorem length_lt_of_between? {word s rest : List Char} (h : between? word s = some rest) :
    rest.length < s.length := by
  simp only [between?, Option.bind_eq_some_iff] at h
  obtain ⟨a, ha, b, hb, hrest⟩ := h
  have := length_lt_of_blankRun? ha
  have := length_le_of_keyword? hb
  have := length_lt_of_blankRun? hrest
  omega

/-- Cuts a text at every keyword between blanks.  The first argument holds, in reverse, the
characters of the part under construction.  A keyword is looked for where a run of blanks begins,
since all blanks before it belong to it. -/
def splitFrom (word part : List Char) : List Char → List (List Char)
  | [] => [part.reverse]
  | c :: rest =>
      if part.head?.any isBlank then splitFrom word (c :: part) rest
      else
        match _h : between? word (c :: rest) with
        | some after => part.reverse :: splitFrom word [] after
        | none => splitFrom word (c :: part) rest
termination_by s => s.length
decreasing_by
  all_goals first | exact length_lt_of_between? _h | simp

/-- The parts of a text between the keywords that stand between blanks. -/
def splitBy (word s : List Char) : List (List Char) := splitFrom word [] s

end SheetStore.Text
