import SheetStore.Statement
import SheetStore.Failure
import SheetStore.Text.Keyword
import SheetStore.Text.Word

/-!
# Reading statements

A line is trimmed and then has to be one of the four statement forms as a whole.  Keywords are
matched without regard to case and names are runs of word characters.  Blanks are required between
words and allowed around commas, inside and around the parentheses, and before the semicolon that
may end the line.

Keywords are not reserved.  Only the text itself tells a name from a keyword, so each form is read
from left to right and takes the longest run of blanks and of word characters everywhere, with one
exception: the fields of a selection end at the first blank from which the rest of the line reads
as `FROM`, tables, and the end or a condition (`selection?`).

The text of a condition and the values of an insertion may hold any character but a line feed.
-/

namespace SheetStore.Statement

open Text

/-! ## Parts of the line -/

/-- The word at the start of a text, as long as possible, and the rest. -/
def word? (s : List Char) : Option (List Char × List Char) :=
  let word := s.takeWhile isWordChar
  if word.isEmpty then none else some (word, s.dropWhile isWordChar)

/-- The rest after a keyword and the blanks that have to follow it. -/
def keywordThen? (word s : List Char) : Option (List Char) := (keyword? word s).bind blankRun?

theorem length_lt_of_word? {s word rest : List Char} (h : word? s = some (word, rest)) :
    rest.length < s.length := by
  simp only [word?, List.isEmpty_iff] at h
  split at h
  · cases h
  · rename_i hne
    cases h
    have hlen := congrArg List.length (List.takeWhile_append_dropWhile (p := isWordChar) (l := s))
    rw [List.length_append] at hlen
    have := List.length_pos_iff.2 hne
    omega

/-- The names at the start of a text, separated by commas, and the rest.  A comma has to be
followed by a further name. -/
def names? (s : List Char) : Option (List String × List Char) :=
  match _hword : word? s with
  | none => none
  | some (word, rest) =>
      match _hrest : dropBlanks rest with
      | ',' :: more =>
          match names? (dropBlanks more) with
          | none => none
          | some (names, rest) => some (String.ofList word :: names, rest)
      | _ => some ([String.ofList word], rest)
termination_by s.length
decreasing_by
  have hword := length_lt_of_word? _hword
  have hblanks := length_dropBlanks_le rest
  have hmore := length_dropBlanks_le more
  rw [_hrest, List.length_cons] at hblanks
  omega

/-- What the text holds before the semicolon that may end it and the blanks before that. -/
def withoutEnd (s : List Char) : List Char :=
  if s.getLast? = some ';' then trimEnd s.dropLast else trimEnd s

/-- The condition after `WHERE`: the rest of the line without its end, all in one line. -/
def condition? (s : List Char) : Option String :=
  let body := withoutEnd s
  if body.contains '\n' then none else some (String.ofList body)

/-- What follows the tables of a statement: nothing but the end of the line, or a condition. -/
def where? (s : List Char) : Option (Option String) :=
  if (withoutEnd s).isEmpty then some none
  else ((between? ['w', 'h', 'e', 'r', 'e'] s).bind condition?).map some

/-- The tables of a statement and its condition, up to the end of the line. -/
def scope? (s : List Char) : Option (List String × Option String) :=
  match names? s with
  | none => none
  | some (tables, rest) => (where? rest).map (tables, ·)

/-- The tables and the condition after the keyword `FROM`. -/
def from? (s : List Char) : Option (List String × Option String) :=
  (keywordThen? ['f', 'r', 'o', 'm'] s).bind scope?

/-! ## Selections -/

/-- Whether a character may stand in the fields of a selection. -/
def isFieldChar (c : Char) : Bool := isWordChar c || c == '.' || c == ',' || isBlank c

/-- The fields of a selection, separated by commas. -/
def fieldList (s : List Char) : List String :=
  (s.splitOn ',').map fun field => String.ofList (trim field)

/-- Looks for the end of the fields.  The first argument holds, in reverse, the characters passed
so far.  The fields end where a run of blanks begins from which the rest of the line is right. -/
def selectionFrom? (passed : List Char) : List Char → Option Statement
  | [] => none
  | c :: rest =>
      if !isFieldChar c then none
      else if !isBlank c || passed.head?.all isBlank then selectionFrom? (c :: passed) rest
      else
        match from? (dropBlanks rest) with
        | some (tables, condition) => some (.select (fieldList passed.reverse) tables condition)
        | none => selectionFrom? (c :: passed) rest

/-- Reads a selection after its keyword.  The keyword is followed by blanks and the fields.  Three
blanks may also be followed by `FROM` at once: then one of them is the field, which has no name. -/
def selection? (s : List Char) : Option Statement :=
  match blankRun? s with
  | none => none
  | some body =>
      match selectionFrom? [] body with
      | some statement => some statement
      | none =>
          if (s.takeWhile isBlank).length < 3 then none
          else (from? body).map fun (tables, condition) => .select [""] tables condition

/-! ## Insertions -/

/-- Cuts the values of an insertion at every comma that has an even number of single quotes before
it.  The second argument holds, in reverse, the characters of the value under construction. -/
def valuesFrom (quoted : Bool) (value : List Char) : List Char → List (List Char)
  | [] => [value.reverse]
  | c :: rest =>
      if c = ',' && !quoted then value.reverse :: valuesFrom quoted [] rest
      else valuesFrom (quoted ^^ c == '\'') (c :: value) rest

/-- A value without the blanks around it and then without the quotes at both of its ends. -/
def bareValue (value : List Char) : List Char := strip (· == '\'') (trim value)

/-- The values of an insertion.  A comma left inside one refuses them all. -/
def values (s : List Char) : Except Failure (List String) :=
  let all := (valuesFrom false [] s).map bareValue
  if all.any (·.contains ',') then .error .commaInValue else .ok (all.map String.ofList)

/-- The text between the parentheses that hold the values, the last of which closes the line. -/
def parenthesized? (s : List Char) : Option (List Char) :=
  match s with
  | '(' :: rest =>
      let body := withoutEnd rest
      if body.getLast? = some ')' && !body.dropLast.contains '\n' then some body.dropLast else none
  | _ => none

/-- Reads the table and the text of the values of an insertion after its keyword. -/
def insertion? (s : List Char) : Option (String × List Char) :=
  (between? ['i', 'n', 't', 'o'] s).bind fun s =>
  (word? s).bind fun (table, s) =>
  (blankRun? s).bind fun s =>
  (keyword? ['v', 'a', 'l', 'u', 'e', 's'] s).bind fun s =>
  (parenthesized? (dropBlanks s)).map (String.ofList table, ·)

/-! ## Deletions -/

/-- Reads a deletion after its keyword. -/
def deletion? (s : List Char) : Option Statement :=
  ((blankRun? s).bind from?).map fun
    | (tables, none) => .delete tables
    | (tables, some condition) => .deleteWhere tables condition

/-! ## Statements -/

/-- Reads a statement. -/
def parse (line : String) : Except Failure Statement :=
  let s := trim line.toList
  match (keyword? ['s', 'e', 'l', 'e', 'c', 't'] s).bind selection? with
  | some statement => .ok statement
  | none =>
      match (keyword? ['i', 'n', 's', 'e', 'r', 't'] s).bind insertion? with
      | some (table, text) => (values text).map (.insert table)
      | none =>
          match (keyword? ['d', 'e', 'l', 'e', 't', 'e'] s).bind deletion? with
          | some statement => .ok statement
          | none => .error .notAStatement

end SheetStore.Statement
