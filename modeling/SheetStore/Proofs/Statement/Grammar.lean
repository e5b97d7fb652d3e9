import Mathlib.Computability.Language
import SheetStore.Proofs.Statement.Names
import SheetStore.Proofs.Statement.Parser

/-!
# The grammar of the command language

The four statement forms as formal languages (`Form.language`).  Each is a product of the languages
of its parts, and a product says nothing about where one part ends and the next begins: a text
belongs to it if there is any way to take it apart.  The parts overlap, since the fields of a
selection may hold blanks and the word `FROM`, the text of a condition may hold all but a line feed,
and so may the text between the parentheses of an insertion.

A reader takes as much as it can.  That is no loss before a language from which blanks can be
dropped (`AbsorbsBlanks`), and after a word or a list of names before what cannot go on with it.  So
each product that begins with one of these parts is read by the reader of the part and then as the
rest of the product (`mem_gap_mul`, `mem_word_mul`, `mem_nameList_mul`).
-/

namespace SheetStore.Statement

open Text Computability

/-! ## Parts of a line -/

namespace Grammar

/-- Any run of blanks, also none. -/
def anyBlanks : Language Char := {s | IsBlanks s}

/-- One or more blanks. -/
def gap : Language Char := {s | IsGap s}

/-- One or more word characters. -/
def word : Language Char := {s | IsWord s}

/-- The spellings of a keyword. -/
def keyword (letters : List Char) : Language Char := {s | s.map foldCase = letters}

/-- A single character. -/
def symbol (c : Char) : Language Char := {[c]}

/-- Any text in one line. -/
def anyText : Language Char := {s | '\n' ∉ s}

/-- One or more characters that may stand in the fields of a selection. -/
def fieldText : Language Char := {s | s ≠ [] ∧ ∀ c ∈ s, isFieldChar c = true}

/-- Words with commas between them and any blanks around the commas. -/
def nameList : Language Char := word * (anyBlanks * symbol ',' * anyBlanks * word)∗

/-- `FROM` and the names of tables. -/
def tablesPart : Language Char := keyword ['f', 'r', 'o', 'm'] * gap * nameList

/-- `WHERE` and any text, with the gap before it. -/
def conditionPart : Language Char := gap * keyword ['w', 'h', 'e', 'r', 'e'] * gap * anyText

/-- The end of a line: any blanks, and possibly a semicolon. -/
def ending : Language Char := anyBlanks * (1 + symbol ';')

end Grammar

open Grammar

/-! ## The forms -/

/-- The forms of statements. -/
inductive Form where
  /-- A selection. -/
  | select
  /-- An insertion. -/
  | insert
  /-- A deletion of all rows. -/
  | delete
  /-- A deletion with a condition. -/
  | deleteWhere
deriving DecidableEq, Repr

/-- The form of a statement. -/
def form : Statement → Form
  | .select .. => .select
  | .insert .. => .insert
  | .delete .. => .delete
  | .deleteWhere .. => .deleteWhere

namespace Form

/-- The keyword that a form begins with. -/
def keyword : Form → List Char
  | .select => ['s', 'e', 'l', 'e', 'c', 't']
  | .insert => ['i', 'n', 's', 'e', 'r', 't']
  | .delete | .deleteWhere => ['d', 'e', 'l', 'e', 't', 'e']

/-- What follows the keyword of a form. -/
def body : Form → Language Char
  | .select => gap * fieldText * gap * tablesPart * (1 + conditionPart) * ending
  | .insert => gap * Grammar.keyword ['i', 'n', 't', 'o'] * gap * word * gap
      * Grammar.keyword ['v', 'a', 'l', 'u', 'e', 's'] * anyBlanks * symbol '(' * anyText
      * symbol ')' * ending
  | .delete => gap * tablesPart * ending
  | .deleteWhere => gap * tablesPart * conditionPart * ending

/-- The lines of a form, without the blanks around them. -/
def language (form : Form) : Language Char := Grammar.keyword form.keyword * form.body

end Form

variable {s : List Char} {l : Language Char} {c : Char}

/-! ## Readers and products -/

theorem mem_keyword_mul {letters : List Char} :
    s ∈ keyword letters * l ↔ ∃ rest, keyword? letters s = some rest ∧ rest ∈ l := by
  rw [Language.mem_mul]
  constructor
  · rintro ⟨spelled, hspelled, rest, hrest, rfl⟩
    exact ⟨rest, keyword?_append hspelled rest, hrest⟩
  · rintro ⟨rest, hkeyword, hrest⟩
    obtain ⟨spelled, hspelled, rfl⟩ := keyword?_eq_some.1 hkeyword
    exact ⟨spelled, hspelled, rest, hrest, rfl⟩

/-- A language that blanks can be dropped from: a run of blanks before it may be as long as
possible. -/
def AbsorbsBlanks (l : Language Char) : Prop := ∀ s ∈ l, dropBlanks s ∈ l

theorem absorbsBlanks_of_begins (h : ∀ s ∈ l, Begins s) : AbsorbsBlanks l := by
  intro s hs
  rwa [dropBlanks_of_begins (h s hs)]

theorem mem_anyBlanks_mul (hl : AbsorbsBlanks l) :
    s ∈ anyBlanks * l ↔ dropBlanks s ∈ l := by
  rw [Language.mem_mul]
  constructor
  · rintro ⟨blanks, hblanks, t, ht, rfl⟩
    rw [dropBlanks, List.dropWhile_append_of_pos hblanks]
    exact hl t ht
  · intro h
    exact ⟨s.takeWhile isBlank, fun c hc => List.mem_takeWhile_imp hc, dropBlanks s, h,
      List.takeWhile_append_dropWhile⟩

theorem mem_gap_mul (hl : AbsorbsBlanks l) :
    s ∈ gap * l ↔ ∃ rest, blankRun? s = some rest ∧ rest ∈ l := by
  rw [Language.mem_mul]
  constructor
  · rintro ⟨blanks, hblanks, t, ht, rfl⟩
    exact ⟨dropBlanks t, blankRun?_gap_append hblanks t, hl t ht⟩
  · rintro ⟨rest, hrun, hrest⟩
    obtain ⟨blanks, hblanks, rfl⟩ := exists_gap_of_blankRun? hrun
    exact ⟨blanks, hblanks, rest, hrest, rfl⟩

theorem mem_word_mul (hl : ∀ s ∈ l, ∀ c, s.head? = some c → isWordChar c = false) :
    s ∈ word * l ↔ ∃ name rest, word? s = some (name, rest) ∧ rest ∈ l := by
  rw [Language.mem_mul]
  constructor
  · rintro ⟨name, hname, rest, hrest, rfl⟩
    exact ⟨name, rest, word?_append hname (hl rest hrest), hrest⟩
  · rintro ⟨name, rest, hword, hrest⟩
    have hname := isWord_of_word? hword
    rw [word?] at hword
    split at hword
    · cases hword
    · cases hword
      exact ⟨_, hname, _, hrest, List.takeWhile_append_dropWhile⟩

theorem mem_symbol_mul : s ∈ symbol c * l ↔ ∃ rest, s = c :: rest ∧ rest ∈ l := by
  rw [Language.mem_mul]
  constructor
  · rintro ⟨_, rfl, rest, hrest, rfl⟩
    exact ⟨rest, rfl, hrest⟩
  · rintro ⟨rest, rfl, hrest⟩
    exact ⟨[c], rfl, rest, hrest, rfl⟩

/-- Texts that begin with a keyword begin with something to read. -/
theorem absorbsBlanks_keyword_mul {letters : List Char} (hletters : Solid letters) :
    AbsorbsBlanks (keyword letters * l) := by
  refine absorbsBlanks_of_begins fun s hs => ?_
  obtain ⟨spelled, hspelled, rest, -, rfl⟩ := Language.mem_mul.1 hs
  exact (begins_of_spelled hletters hspelled).append rest

theorem absorbsBlanks_word_mul : AbsorbsBlanks (word * l) := by
  refine absorbsBlanks_of_begins fun s hs => ?_
  obtain ⟨name, hname, rest, -, rfl⟩ := Language.mem_mul.1 hs
  exact (IsWord.begins hname).append rest

theorem absorbsBlanks_symbol_mul (hc : isBlank c = false) : AbsorbsBlanks (symbol c * l) := by
  refine absorbsBlanks_of_begins fun s hs => ?_
  obtain ⟨rest, rfl, -⟩ := mem_symbol_mul.1 hs
  exact ⟨c, rfl, hc⟩

/-- No word goes on where a gap begins. -/
theorem isWordChar_of_mem_gap_mul (h : s ∈ gap * l) :
    ∀ c, s.head? = some c → isWordChar c = false := by
  obtain ⟨blanks, hblanks, rest, -, rfl⟩ := Language.mem_mul.1 h
  obtain ⟨b, blanks, rfl, hb, -⟩ := IsGap.exists_cons hblanks
  exact fun c hc => isWordChar_of_isBlank (Option.some.inj hc ▸ hb)

/-! ## Names -/

/-- A list of names is a name, or a name with a comma and a list of names after it. -/
theorem nameList_eq :
    nameList = word + word * (anyBlanks * (symbol ',' * (anyBlanks * nameList))) := by
  have hunroll : nameList = word * (1 + (anyBlanks * symbol ',' * anyBlanks * word)
      * (anyBlanks * symbol ',' * anyBlanks * word)∗) := by
    rw [Language.one_add_self_mul_kstar_eq_kstar]
    rfl
  conv_lhs => rw [hunroll, mul_add, mul_one]
  simp only [nameList, mul_assoc]

theorem absorbsBlanks_nameList_mul : AbsorbsBlanks (nameList * l) := by
  rw [nameList, mul_assoc]
  exact absorbsBlanks_word_mul

/-- The first name of a list and what follows it. -/
theorem mem_nameList_mul_iff (hl : ∀ s ∈ l, StopsNames s) : s ∈ nameList * l ↔
    ∃ name rest, word? s = some (name, rest) ∧
      (rest ∈ l ∨ ∃ more, dropBlanks rest = ',' :: more ∧ dropBlanks more ∈ nameList * l) := by
  have hcomma : ∀ s ∈ anyBlanks * (symbol ',' * (anyBlanks * (nameList * l))), ∀ c,
      s.head? = some c → isWordChar c = false := by
    intro s hs c hc
    obtain ⟨blanks, hblanks, t, ht, rfl⟩ := Language.mem_mul.1 hs
    obtain ⟨rest, rfl, -⟩ := mem_symbol_mul.1 ht
    exact isWordChar_of_head_blanks hblanks (by decide +kernel) hc
  have hproduct : nameList * l
      = word * l + word * (anyBlanks * (symbol ',' * (anyBlanks * (nameList * l)))) := by
    conv_lhs => rw [nameList_eq]
    simp only [add_mul, mul_assoc]
  refine (iff_of_eq (congrArg (s ∈ ·) hproduct)).trans ?_
  rw [Language.mem_add, mem_word_mul fun s hs => (hl s hs).word, mem_word_mul hcomma]
  simp only [mem_anyBlanks_mul (absorbsBlanks_symbol_mul (c := ',') (by decide)), mem_symbol_mul,
    mem_anyBlanks_mul absorbsBlanks_nameList_mul, ← exists_or, ← and_or_left]

theorem mem_nameList_mul (hl : ∀ s ∈ l, StopsNames s) :
    s ∈ nameList * l ↔ ∃ tables rest, names? s = some (tables, rest) ∧ rest ∈ l := by
  fun_induction names? s with
  | case1 s hword =>
      rw [mem_nameList_mul_iff hl, hword]
      simp
  | case2 s name rest hword more hrest hnone ih =>
      have hstops : rest ∉ l := fun h => (hl rest h).comma more hrest
      rw [mem_nameList_mul_iff hl, hword]
      simp [hrest, hstops, ih, hnone]
  | case3 s name rest hword more hrest later last hlater ih =>
      have hstops : rest ∉ l := fun h => (hl rest h).comma more hrest
      rw [mem_nameList_mul_iff hl, hword]
      simp [hrest, hstops, ih, hlater]
  | case4 s name rest hword hnot =>
      have hcomma : ∀ more, dropBlanks rest ≠ ',' :: more := hnot
      rw [mem_nameList_mul_iff hl, hword]
      simp [hcomma]

end SheetStore.Statement
