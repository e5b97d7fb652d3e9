import Mathlib.Data.List.Infix
import SheetStore.Text.Keyword
import SheetStore.Proofs.Text.Blank

/-!
# Keywords that a text mentions

A text *mentions* a word if a spelling of the word stands in it with a blank on each side
(`Mentions`).  `splitBy` cuts a text at a word if and only if the text mentions it
(`splitBy_eq_iff`).  That does not follow from the definition at once: a word is looked for only
where a run of blanks begins, and what was passed is not looked at again.

A character that is neither blank nor in the word stands in no mention, so it may be used to take a
text apart (`mentions_append_cons`).  A part that ends with such a character and does not mention
the word is cut off as a whole where a keyword follows it (`IsPart.splitBy_append`).
-/

namespace SheetStore.Text

/-- A spelling of the word stands in the text with a blank on each side. -/
def Mentions (word s : List Char) : Prop :=
  ∃ before spelled after, isBlank before = true ∧ spelled.map foldCase = word ∧
    isBlank after = true ∧ before :: (spelled ++ [after]) <:+: s

/-- A spelling of the word and a blank stand at the start of the text. -/
def Leads (word s : List Char) : Prop :=
  ∃ spelled after rest, spelled.map foldCase = word ∧ isBlank after = true ∧
    s = spelled ++ after :: rest

variable {word s rest : List Char} {c : Char}

/-! ## Finding a keyword -/

theorem keyword?_eq_some : keyword? word s = some rest ↔
    ∃ spelled, spelled.map foldCase = word ∧ s = spelled ++ rest := by
  induction word generalizing s with
  | nil => simp [keyword?, eq_comm]
  | cons k word ih =>
      cases s with
      | nil => simp [keyword?]
      | cons d s =>
          rw [keyword?]
          constructor
          · intro h
            split at h
            · rename_i hfold
              obtain ⟨spelled, hspelled, rfl⟩ := ih.1 h
              exact ⟨d :: spelled, by rw [List.map_cons, hfold, hspelled], rfl⟩
            · cases h
          · rintro ⟨spelled, hspelled, hs⟩
            obtain ⟨e, spelled, rfl, hfold, hrest⟩ := List.map_eq_cons_iff.1 hspelled
            cases hs
            rw [if_pos hfold, ih]
            exact ⟨spelled, hrest, rfl⟩

theorem mem_of_mem_keyword? (h : keyword? word s = some rest) : ∀ d ∈ rest, d ∈ s := by
  obtain ⟨spelled, -, rfl⟩ := keyword?_eq_some.1 h
  exact fun d hd => List.mem_append_right _ hd

theorem mem_of_mem_blankRun? (h : blankRun? s = some rest) : ∀ d ∈ rest, d ∈ s := by
  cases s with
  | nil => cases h
  | cons e s =>
      rw [blankRun?] at h
      split at h
      · cases h
        exact fun d hd => List.mem_cons_of_mem _ ((List.dropWhile_sublist isBlank).mem hd)
      · cases h

theorem isSome_blankRun? :
    (blankRun? s).isSome = true ↔ ∃ c rest, isBlank c = true ∧ s = c :: rest := by
  cases s with
  | nil => simp [blankRun?]
  | cons c rest => cases h : isBlank c <;> simp [blankRun?, h]

/-- What `between?` looks for. -/
theorem isSome_between?_cons : (between? word (c :: rest)).isSome = true ↔
    isBlank c = true ∧ Leads word (dropBlanks rest) := by
  cases hc : isBlank c with
  | false => simp [between?, blankRun?, hc]
  | true =>
      have hrun : between? word (c :: rest) = (keyword? word (dropBlanks rest)).bind blankRun? := by
        simp [between?, blankRun?, hc]
      rw [hrun, Option.isSome_bind]
      constructor
      · intro h
        obtain ⟨s, hkeyword, hblank⟩ := (Option.any_eq_true _ _).1 h
        obtain ⟨spelled, hspelled, heq⟩ := keyword?_eq_some.1 hkeyword
        obtain ⟨after, rest', hafter, rfl⟩ := isSome_blankRun?.1 hblank
        exact ⟨rfl, spelled, after, rest', hspelled, hafter, heq⟩
      · rintro ⟨-, spelled, after, rest', hspelled, hafter, heq⟩
        rw [keyword?_eq_some.2 ⟨spelled, hspelled, heq⟩]
        exact isSome_blankRun?.2 ⟨after, rest', hafter, rfl⟩

/-! ## Mentions -/

theorem mentions_cons : Mentions word (c :: s) ↔
    isBlank c = true ∧ Leads word s ∨ Mentions word s := by
  constructor
  · rintro ⟨before, spelled, after, hbefore, hspelled, hafter, hinfix⟩
    rcases List.infix_cons_iff.1 hinfix with ⟨rest, hprefix⟩ | hinfix
    · rw [List.cons_append, List.append_assoc, List.cons.injEq] at hprefix
      obtain ⟨rfl, rfl⟩ := hprefix
      exact .inl ⟨hbefore, spelled, after, rest, hspelled, hafter, rfl⟩
    · exact .inr ⟨before, spelled, after, hbefore, hspelled, hafter, hinfix⟩
  · rintro (⟨hc, spelled, after, rest, hspelled, hafter, rfl⟩ |
      ⟨before, spelled, after, hbefore, hspelled, hafter, hinfix⟩)
    · refine ⟨c, spelled, after, hc, hspelled, hafter, ?_⟩
      exact List.IsPrefix.isInfix ⟨rest, by simp⟩
    · exact ⟨before, spelled, after, hbefore, hspelled, hafter,
        hinfix.trans (List.suffix_cons c s).isInfix⟩

theorem not_mentions_nil : ¬ Mentions word [] := by
  rintro ⟨before, spelled, after, -, -, -, hinfix⟩
  cases List.eq_nil_of_infix_nil hinfix

/-- The blanks before a word may be passed. -/
theorem mentions_of_leads_dropBlanks (hc : isBlank c = true) (h : Leads word (dropBlanks s)) :
    Mentions word (c :: s) := by
  induction s generalizing c with
  | nil => exact mentions_cons.2 (.inl ⟨hc, h⟩)
  | cons d s ih =>
      rw [dropBlanks, List.dropWhile_cons] at h
      split at h
      · rename_i hd
        exact mentions_cons.2 (.inr (ih hd h))
      · exact mentions_cons.2 (.inl ⟨hc, h⟩)

/-- The word is not empty, and no blank is a spelling of its first letter. -/
def Solid (word : List Char) : Prop :=
  ∃ k rest, word = k :: rest ∧ ∀ c, foldCase c = k → isBlank c = false

theorem begins_of_spelled {spelled : List Char} (hword : Solid word)
    (hspelled : spelled.map foldCase = word) : Begins spelled := by
  obtain ⟨k, ks, rfl, hsolid⟩ := hword
  obtain ⟨c, rest, rfl, hfold, -⟩ := List.map_eq_cons_iff.1 hspelled
  exact ⟨c, rfl, hsolid c hfold⟩

theorem begins_of_leads (hword : Solid word) (h : Leads word s) : Begins s := by
  obtain ⟨spelled, after, rest, hspelled, -, rfl⟩ := h
  exact (begins_of_spelled hword hspelled).append _

theorem dropBlanks_of_leads (hword : Solid word) (h : Leads word s) : dropBlanks s = s :=
  dropBlanks_of_begins (begins_of_leads hword h)

/-- A block without a character of a text lies before or after that character. -/
theorem infix_append_cons_iff {block front back : List Char} (hne : block ≠ []) (hc : c ∉ block) :
    block <:+: front ++ c :: back ↔ block <:+: front ∨ block <:+: back := by
  constructor
  · rintro ⟨before, after, h⟩
    rw [List.append_assoc] at h
    rcases List.append_eq_append_iff.1 h with ⟨gap, hfront, hgap⟩ | ⟨gap, -, hgap⟩
    · -- the block begins before the character
      rcases List.append_eq_append_iff.1 hgap with ⟨more, hmore, -⟩ | ⟨more, hmore, hback⟩
      · exact .inl ⟨before, more, by rw [hfront, hmore, List.append_assoc]⟩
      · cases more with
        | nil => exact .inl ⟨before, [], by simp [hfront, hmore]⟩
        | cons d more =>
            cases hback
            exact absurd (hmore ▸ List.mem_append_right _ List.mem_cons_self) hc
    · -- the block begins at the character or after it
      cases gap with
      | nil =>
          cases block with
          | nil => exact absurd rfl hne
          | cons d block =>
              cases hgap
              exact absurd List.mem_cons_self hc
      | cons d gap =>
          cases hgap
          exact .inr ⟨gap, after, List.append_assoc ..⟩
  · rintro (h | h)
    · exact h.trans (List.prefix_append _ _).isInfix
    · exact h.trans (((List.suffix_cons c back).trans (List.suffix_append _ _)).isInfix)

/-- A character that is neither blank nor in the word stands in no mention. -/
theorem mentions_append_cons {front back : List Char} (hblank : isBlank c = false)
    (hword : foldCase c ∉ word) :
    Mentions word (front ++ c :: back) ↔ Mentions word front ∨ Mentions word back := by
  have hblock : ∀ before spelled after, isBlank before = true → spelled.map foldCase = word →
      isBlank after = true → c ∉ before :: (spelled ++ [after]) := by
    rintro before spelled after hbefore rfl hafter hmem
    rcases List.mem_cons.1 hmem with rfl | hmem
    · rw [hblank] at hbefore
      cases hbefore
    · rcases List.mem_append.1 hmem with hmem | hmem
      · exact hword (List.mem_map_of_mem hmem)
      · rw [List.mem_singleton.1 hmem, hafter] at hblank
        cases hblank
  constructor
  · rintro ⟨before, spelled, after, hbefore, hspelled, hafter, hinfix⟩
    exact ((infix_append_cons_iff (List.cons_ne_nil _ _)
      (hblock before spelled after hbefore hspelled hafter)).1 hinfix).imp
      (fun h => ⟨before, spelled, after, hbefore, hspelled, hafter, h⟩)
      (fun h => ⟨before, spelled, after, hbefore, hspelled, hafter, h⟩)
  · rintro (h | h) <;> obtain ⟨before, spelled, after, hbefore, hspelled, hafter, hinfix⟩ := h
    · exact ⟨before, spelled, after, hbefore, hspelled, hafter,
        hinfix.trans (List.prefix_append _ _).isInfix⟩
    · exact ⟨before, spelled, after, hbefore, hspelled, hafter,
        hinfix.trans ((List.suffix_cons c back).trans (List.suffix_append _ _)).isInfix⟩

/-- The word at the start of a text does not reach over such a character either. -/
theorem leads_of_append_cons {front back : List Char} (hblank : isBlank c = false)
    (hword : foldCase c ∉ word) (h : Leads word (front ++ c :: back)) : Leads word front := by
  obtain ⟨spelled, after, rest, rfl, hafter, heq⟩ := h
  have hne : ∀ more, after :: rest ≠ c :: more := by
    rintro more hcons
    cases hcons
    rw [hblank] at hafter
    cases hafter
  rcases List.append_eq_append_iff.1 heq with ⟨gap, rfl, hgap⟩ | ⟨gap, rfl, hgap⟩
  · cases gap with
    | nil => exact absurd hgap.symm (hne _)
    | cons d gap =>
        cases hgap
        exact absurd (List.mem_map_of_mem (by simp)) hword
  · cases gap with
    | nil => exact absurd hgap (hne _)
    | cons d gap =>
        cases hgap
        exact ⟨spelled, after, gap, rfl, hafter, rfl⟩

/-- A mention does not begin in a text without blanks. -/
theorem mentions_of_append {front back : List Char} (hfront : ∀ d ∈ front, isBlank d = false)
    (h : Mentions word (front ++ back)) : Mentions word back := by
  induction front with
  | nil => exact h
  | cons d front ih =>
      rw [List.forall_mem_cons] at hfront
      rcases mentions_cons.1 h with ⟨hd, -⟩ | h
      · rw [hfront.1] at hd
        cases hd
      · exact ih hfront.2 h

/-- A mention takes two blanks. -/
theorem not_mentions_of_countP (h : s.countP isBlank < 2) : ¬ Mentions word s := by
  rintro ⟨before, spelled, after, hbefore, -, hafter, hinfix⟩
  have hle := hinfix.sublist.countP_le (p := isBlank)
  rw [List.countP_cons_of_pos hbefore, List.countP_append, List.countP_singleton, if_pos hafter]
    at hle
  omega

/-- A blank is a spelling of no other character. -/
theorem foldCase_of_isBlank (h : isBlank c = true) : foldCase c = c :=
  bne_eq_false_iff_eq.1 (of_isBlank (p := fun c => foldCase c != c) (by decide +kernel) h)

theorem solid_of_head {k : Char} (hk : isBlank k = false) (rest : List Char) :
    Solid (k :: rest) := by
  refine ⟨k, rest, rfl, fun c hfold => Bool.eq_false_iff.2 fun hblank => ?_⟩
  rw [foldCase_of_isBlank hblank] at hfold
  rw [hfold, hk] at hblank
  cases hblank

/-- Between blanks and the end of a text, no mention fits if no blank is after the first ones. -/
theorem not_mentions_blanks_append {blanks : List Char} (hword : Solid word)
    (hblanks : IsBlanks blanks) (hs : ∀ d ∈ s, isBlank d = false) :
    ¬ Mentions word (blanks ++ s) := by
  have hleads : ¬ Leads word s := by
    rintro ⟨spelled, after, rest, -, hafter, rfl⟩
    rw [hs after (by simp)] at hafter
    cases hafter
  induction blanks with
  | nil =>
      intro h
      rw [List.nil_append, ← List.append_nil s] at h
      exact not_mentions_nil (mentions_of_append hs h)
  | cons b blanks ih =>
      rw [IsBlanks, List.forall_mem_cons] at hblanks
      intro h
      rcases mentions_cons.1 h with ⟨-, hrest⟩ | h
      · cases blanks with
        | nil => exact hleads hrest
        | cons d blanks =>
            obtain ⟨e, he, hblank⟩ := begins_of_leads hword hrest
            cases he
            rw [hblanks.2 d List.mem_cons_self] at hblank
            cases hblank
      · exact ih hblanks.2 h

theorem not_mentions_of_isBlanks (hword : Solid word) (h : IsBlanks s) : ¬ Mentions word s := by
  have hnot := not_mentions_blanks_append hword h (List.forall_mem_nil _)
  rwa [List.append_nil] at hnot

/-! ## A keyword at its place -/

theorem keyword?_append {spelled : List Char} (h : spelled.map foldCase = word)
    (rest : List Char) : keyword? word (spelled ++ rest) = some rest :=
  keyword?_eq_some.2 ⟨spelled, h, rfl⟩

/-- A text that begins with no spelling of the first letter does not begin with the word. -/
theorem keyword?_of_head {k : Char} (h : ∀ c, s.head? = some c → foldCase c ≠ k) :
    keyword? (k :: word) s = none := by
  cases s with
  | nil => rfl
  | cons c s => rw [keyword?, if_neg (h c rfl)]

/-- A keyword between two gaps is found. -/
theorem between?_append {before spelled after : List Char} (hword : Solid word)
    (hbefore : IsGap before) (hspelled : spelled.map foldCase = word) (hafter : IsGap after)
    (hrest : Begins rest) :
    between? word (before ++ (spelled ++ (after ++ rest))) = some rest := by
  have hbegins := (begins_of_spelled hword hspelled).append (after ++ rest)
  rw [between?, blankRun?_append hbefore hbegins, Option.bind_some, keyword?_append hspelled,
    Option.bind_some, blankRun?_append hafter hrest]

/-! ## Cutting at a keyword -/

theorem splitFrom_ne_nil (word part s : List Char) : splitFrom word part s ≠ [] := by
  fun_induction splitFrom word part s <;> simp_all

/-- A text without a mention stays whole. -/
theorem splitFrom_of_not_mentions (part : List Char) (h : ¬ Mentions word s) :
    splitFrom word part s = [part.reverse ++ s] := by
  fun_induction splitFrom word part s with
  | case1 part => simp
  | case2 part c rest hblank ih =>
      rw [ih fun hrest => h (mentions_cons.2 (.inr hrest))]
      simp
  | case3 part c rest hblank after hbetween ih =>
      obtain ⟨hc, hleads⟩ := isSome_between?_cons.1 (Option.isSome_of_eq_some hbetween)
      exact absurd (mentions_of_leads_dropBlanks hc hleads) h
  | case4 part c rest hblank hbetween ih =>
      rw [ih fun hrest => h (mentions_cons.2 (.inr hrest))]
      simp

/-- A text with a mention is cut, unless the mention begins in a run of blanks that was entered
before. -/
theorem two_le_length_splitFrom (hword : Solid word) (part : List Char) (h : Mentions word s)
    (hopen : part.head?.any isBlank = true → ¬ Leads word (dropBlanks s)) :
    2 ≤ (splitFrom word part s).length := by
  fun_induction splitFrom word part s with
  | case1 part => exact absurd h not_mentions_nil
  | case2 part c rest hblank ih =>
      have hclosed := hopen hblank
      have hrest : Mentions word rest := by
        rcases mentions_cons.1 h with ⟨hc, hleads⟩ | hrest
        · rw [dropBlanks, List.dropWhile_cons, if_pos hc, ← dropBlanks,
            dropBlanks_of_leads hword hleads] at hclosed
          exact absurd hleads hclosed
        · exact hrest
      refine ih hrest fun hc => ?_
      rw [List.head?_cons, Option.any_some] at hc
      rwa [dropBlanks, List.dropWhile_cons, if_pos hc, ← dropBlanks] at hclosed
  | case3 part c rest hblank after hbetween ih =>
      rw [List.length_cons]
      exact Nat.succ_le_succ (List.length_pos_iff.2 (splitFrom_ne_nil word [] after))
  | case4 part c rest hblank hbetween ih =>
      have hfails : ¬ (isBlank c = true ∧ Leads word (dropBlanks rest)) := by
        rw [← isSome_between?_cons, hbetween]
        simp
      have hrest : Mentions word rest := by
        rcases mentions_cons.1 h with ⟨hc, hleads⟩ | hrest
        · rw [dropBlanks_of_leads hword hleads] at hfails
          exact absurd ⟨hc, hleads⟩ hfails
        · exact hrest
      exact ih hrest fun hc hleads => hfails ⟨by simpa using hc, hleads⟩

/-- A text is cut at a word if and only if it mentions the word. -/
theorem splitBy_eq_iff (hword : Solid word) (s : List Char) :
    splitBy word s = [s] ↔ ¬ Mentions word s := by
  constructor
  · intro h hmentions
    have hlen := two_le_length_splitFrom hword [] hmentions (by simp)
    rw [← splitBy, h] at hlen
    exact absurd hlen (by simp)
  · exact splitFrom_of_not_mentions []

/-- What comes before a character in no mention is passed if it does not mention the word. -/
theorem splitFrom_append_cons {front : List Char} (hblank : isBlank c = false)
    (hword : foldCase c ∉ word) (h : ¬ Mentions word front) (part rest : List Char) :
    splitFrom word part (front ++ c :: rest)
      = splitFrom word (c :: (front.reverse ++ part)) rest := by
  have hpass : ∀ part d more, between? word (d :: more) = none →
      splitFrom word part (d :: more) = splitFrom word (d :: part) more := by
    intro part d more hnone
    rw [splitFrom]
    split
    · rfl
    · split
      · rename_i hsome
        cases hnone.symm.trans hsome
      · rfl
  induction front generalizing part with
  | nil =>
      refine hpass part c rest ?_
      simp [between?, blankRun?, hblank]
  | cons d front ih =>
      have hnone : between? word (d :: (front ++ c :: rest)) = none := by
        rw [← Option.not_isSome_iff_eq_none, isSome_between?_cons]
        rintro ⟨hd, hleads⟩
        rw [dropBlanks_append_cons hblank] at hleads
        exact h (mentions_of_leads_dropBlanks hd (leads_of_append_cons hblank hword hleads))
      rw [List.cons_append, hpass part d _ hnone,
        ih fun hfront => h (mentions_cons.2 (.inr hfront)),
        List.reverse_cons, List.append_assoc, List.singleton_append]

/-- A text that a keyword can be cut off from: it does not mention the word, and no mention reaches
over either of its ends. -/
structure IsPart (word s : List Char) : Prop where
  /-- It does not mention the word. -/
  whole : ¬ Mentions word s
  /-- It does not begin with a blank. -/
  first : Begins s
  /-- It ends with a character in no mention. -/
  last : ∃ c, s.getLast? = some c ∧ isBlank c = false ∧ foldCase c ∉ word

/-- A part before a keyword is cut off. -/
theorem IsPart.splitBy_append {gap spelled gap' : List Char} (h : IsPart word s)
    (hword : Solid word) (hgap : IsGap gap) (hspelled : spelled.map foldCase = word)
    (hgap' : IsGap gap') (hrest : Begins rest) :
    splitBy word (s ++ (gap ++ (spelled ++ (gap' ++ rest)))) = s :: splitBy word rest := by
  obtain ⟨c, hlast, hblank, hfold⟩ := h.last
  obtain ⟨front, rfl⟩ := List.getLast?_eq_some_iff.1 hlast
  have hfront : ¬ Mentions word front := fun hfront =>
    h.whole ((mentions_append_cons hblank hfold).2 (.inl hfront))
  have hbetween := between?_append hword hgap hspelled hgap' hrest
  obtain ⟨b, blanks, rfl, -, -⟩ := hgap.exists_cons
  rw [splitBy, List.append_assoc, List.singleton_append,
    splitFrom_append_cons hblank hfold hfront, List.cons_append, splitFrom, List.head?_cons,
    Option.any_some, hblank, if_neg Bool.false_ne_true]
  split
  · rename_i after hafter
    cases hafter.symm.trans hbetween
    simp [splitBy]
  · rename_i hnone
    cases hnone.symm.trans hbetween

end SheetStore.Text
