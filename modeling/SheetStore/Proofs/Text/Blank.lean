import Mathlib.Data.List.DropRight
import Mathlib.Data.List.Induction
import Mathlib.Data.List.TakeWhile
import SheetStore.Text.Blank
import SheetStore.Text.Word

/-!
# Blanks and trimming

The blanks are few, so what they are not can be checked for each of them (`of_isBlank`): no blank
stands in a word or in an identifier.

`strip` takes accepted items away at both ends, one after the other (`strip_cons`, `strip_concat`),
and stops at items that are not accepted (`strip_of_ends`).

A text that begins with something to read (`Begins`) is what is left of a run of blanks and itself,
and a text that ends so (`Ends`) is what is left of itself and a run of blanks (`trim_append`).
-/

namespace SheetStore.Text

variable {c : Char}

/-! ## The class -/

theorem exists_range_of_holds {ranges : Ranges} {n : Nat} (h : ranges.holds n = true) :
    ∃ r ∈ ranges, n ∈ List.range' r.1 (r.2 + 1 - r.1) := by
  induction ranges with
  | nil => cases h
  | cons r rest ih =>
      rw [Ranges.holds] at h
      split at h
      · cases h
      · rename_i hlo
        rcases Bool.or_eq_true_iff.1 h with hhi | h
        · refine ⟨r, List.mem_cons_self, ?_⟩
          rw [List.mem_range'_1]
          have := of_decide_eq_true hhi
          omega
        · obtain ⟨q, hq, hn⟩ := ih h
          exact ⟨q, List.mem_cons_of_mem _ hq, hn⟩

/-- What no character with the code point of a blank has, no blank has. -/
theorem of_isBlank {p : Char → Bool}
    (hp : ∀ r ∈ blanks, ∀ n ∈ List.range' r.1 (r.2 + 1 - r.1), p (Char.ofNat n) = false)
    (h : isBlank c = true) : p c = false := by
  obtain ⟨r, hr, hn⟩ := exists_range_of_holds h
  have hchar := hp r hr _ hn
  rwa [Char.ofNat_toNat] at hchar

theorem isWordChar_of_isBlank (h : isBlank c = true) : isWordChar c = false :=
  of_isBlank (by decide +kernel) h

theorem isBlank_of_isWordChar (h : isWordChar c = true) : isBlank c = false :=
  Bool.eq_false_iff.2 fun hblank => Bool.eq_false_iff.1 (isWordChar_of_isBlank hblank) h

theorem isBlank_of_isIdentifierChar (h : isIdentifierChar c = true) : isBlank c = false :=
  Bool.eq_false_iff.2 fun hblank =>
    Bool.eq_false_iff.1 (of_isBlank (p := isIdentifierChar) (by decide +kernel) hblank) h

/-! ## Trimming -/

section Strip

variable {p : α → Bool} {s : List α} {a : α}

theorem strip_cons (h : p a = true) (s : List α) : strip p (a :: s) = strip p s := by
  rw [strip, strip, List.dropWhile_cons, if_pos h]

/-- The end of a list is dropped as the library does it. -/
theorem dropWhileEnd_eq_rdropWhile (p : α → Bool) (s : List α) :
    dropWhileEnd p s = s.rdropWhile p := rfl

theorem strip_concat (s : List α) (h : p a = true) : strip p (s ++ [a]) = strip p s := by
  rw [strip, strip, List.dropWhile_append]
  split
  · rename_i hempty
    rw [List.isEmpty_iff.1 hempty, List.dropWhile_cons, if_pos h]
    rfl
  · exact List.rdropWhile_concat_pos p _ a h

theorem mem_of_mem_dropWhileEnd (h : a ∈ dropWhileEnd p s) : a ∈ s :=
  (List.rdropWhile_prefix p s).subset h

theorem mem_of_mem_strip (h : a ∈ strip p s) : a ∈ s :=
  (List.dropWhile_sublist p).mem (mem_of_mem_dropWhileEnd h)

theorem mem_dropWhile_iff (h : p a = false) : a ∈ s.dropWhile p ↔ a ∈ s := by
  refine ⟨(List.dropWhile_sublist p).mem, fun ha => ?_⟩
  rw [← List.takeWhile_append_dropWhile (p := p) (l := s)] at ha
  refine (List.mem_append.1 ha).resolve_left fun hfront => ?_
  rw [List.mem_takeWhile_imp hfront] at h
  cases h

/-- What is not accepted stays. -/
theorem mem_strip_iff (h : p a = false) : a ∈ strip p s ↔ a ∈ s := by
  rw [strip, dropWhileEnd, List.mem_reverse, mem_dropWhile_iff h, List.mem_reverse,
    mem_dropWhile_iff h]

/-- What is dropped at the end is accepted. -/
theorem exists_dropWhileEnd_append (p : α → Bool) (s : List α) :
    ∃ rest, s = dropWhileEnd p s ++ rest ∧ ∀ a ∈ rest, p a = true := by
  exact ⟨s.rtakeWhile p, List.rdropWhile_append_rtakeWhile.symm,
    fun a ha => List.mem_rtakeWhile_imp ha⟩

theorem dropWhile_of_first (h : ∀ a, s.head? = some a → p a = false) : s.dropWhile p = s := by
  cases s with
  | nil => rfl
  | cons a s => simp [h a rfl]

theorem dropWhileEnd_of_last (h : ∀ a, s.getLast? = some a → p a = false) :
    dropWhileEnd p s = s := by
  rw [dropWhileEnd_eq_rdropWhile, List.rdropWhile_eq_self_iff]
  intro hne hlast
  rw [h _ (List.getLast?_eq_some_getLast hne)] at hlast
  cases hlast

/-- What has no accepted item at either end stays as it is. -/
theorem strip_of_ends (hfirst : ∀ a, s.head? = some a → p a = false)
    (hlast : ∀ a, s.getLast? = some a → p a = false) : strip p s = s := by
  rw [strip, dropWhile_of_first hfirst, dropWhileEnd_of_last hlast]

theorem strip_of_forall (h : ∀ a ∈ s, p a = false) : strip p s = s :=
  strip_of_ends (fun a ha => h a (List.mem_of_mem_head? ha))
    fun a ha => h a (List.mem_of_getLast? ha)

/-- Accepted items at both ends are taken away. -/
theorem strip_enclosed (ha : p a = true) (h : ∀ b ∈ s, p b = false) :
    strip p (a :: (s ++ [a])) = s := by
  rw [strip_cons ha, strip_concat s ha, strip_of_forall h]

end Strip

/-! ## Runs of blanks -/

/-- A run of blanks, which may be empty. -/
def IsBlanks (s : List Char) : Prop := ∀ c ∈ s, isBlank c = true

/-- A run of blanks with at least one. -/
def IsGap (s : List Char) : Prop := s ≠ [] ∧ IsBlanks s

instance (s : List Char) : Decidable (IsBlanks s) :=
  decidable_of_iff (s.all isBlank = true) List.all_eq_true

instance (s : List Char) : Decidable (IsGap s) :=
  inferInstanceAs (Decidable (s ≠ [] ∧ IsBlanks s))

/-- The text begins with something to read. -/
def Begins (s : List Char) : Prop := ∃ c, s.head? = some c ∧ isBlank c = false

/-- The text ends with something to read. -/
def Ends (s : List Char) : Prop := ∃ c, s.getLast? = some c ∧ isBlank c = false

variable {s before after : List Char}

theorem IsBlanks.not_mem (h : IsBlanks s) (hc : isBlank c = false) : c ∉ s := fun hmem => by
  rw [h c hmem] at hc
  cases hc

/-- A gap begins with a blank. -/
theorem IsGap.exists_cons (h : IsGap s) : ∃ c blanks, s = c :: blanks ∧ isBlank c = true ∧
    IsBlanks blanks := by
  obtain ⟨hne, hblanks⟩ := h
  obtain ⟨c, blanks, rfl⟩ := List.exists_cons_of_ne_nil hne
  rw [IsBlanks, List.forall_mem_cons] at hblanks
  exact ⟨c, blanks, rfl, hblanks⟩

theorem Begins.append (h : Begins s) (rest : List Char) : Begins (s ++ rest) := by
  obtain ⟨c, hc, hblank⟩ := h
  exact ⟨c, by rw [List.head?_append, hc, Option.some_or], hblank⟩

theorem Ends.append (h : Ends s) (front : List Char) : Ends (front ++ s) := by
  obtain ⟨c, hc, hblank⟩ := h
  exact ⟨c, by rw [List.getLast?_append, hc, Option.some_or], hblank⟩

theorem ends_concat (hc : isBlank c = false) (s : List Char) : Ends (s ++ [c]) :=
  ⟨c, List.getLast?_concat, hc⟩

theorem dropBlanks_of_begins (h : Begins s) : dropBlanks s = s := by
  obtain ⟨c, hc, hblank⟩ := h
  refine dropWhile_of_first fun d hd => ?_
  rw [hc] at hd
  exact Option.some.inj hd ▸ hblank

/-- Blanks before a text are dropped. -/
theorem dropBlanks_append (hbefore : IsBlanks before) (h : Begins s) :
    dropBlanks (before ++ s) = s := by
  rw [dropBlanks, List.dropWhile_append_of_pos hbefore]
  exact dropBlanks_of_begins h

/-- No blank is dropped after the first character to read. -/
theorem dropBlanks_append_cons (hc : isBlank c = false) (rest : List Char) :
    dropBlanks (s ++ c :: rest) = dropBlanks s ++ c :: rest := by
  rw [dropBlanks, List.dropWhile_append]
  split
  · rename_i hempty
    rw [dropBlanks, List.isEmpty_iff.1 hempty, List.nil_append]
    exact dropBlanks_of_begins ⟨c, rfl, hc⟩
  · rfl

/-- A gap and all blanks after it are one run of blanks. -/
theorem blankRun?_gap_append (hbefore : IsGap before) (rest : List Char) :
    blankRun? (before ++ rest) = some (dropBlanks rest) := by
  obtain ⟨b, blanks, rfl, hb, hblanks⟩ := hbefore.exists_cons
  rw [List.cons_append, blankRun?, if_pos hb, dropBlanks, List.dropWhile_append_of_pos hblanks,
    dropBlanks]

/-- A gap before a text is a run of blanks. -/
theorem blankRun?_append (hbefore : IsGap before) (h : Begins s) :
    blankRun? (before ++ s) = some s := by
  rw [blankRun?_gap_append hbefore, dropBlanks_of_begins h]

/-- The blanks before what a run of blanks leaves. -/
theorem exists_gap_of_blankRun? {rest : List Char} (h : blankRun? s = some rest) :
    ∃ blanks, IsGap blanks ∧ s = blanks ++ rest := by
  cases s with
  | nil => cases h
  | cons b s =>
      rw [blankRun?] at h
      split at h
      · rename_i hb
        cases h
        refine ⟨b :: s.takeWhile isBlank, ⟨List.cons_ne_nil _ _, ?_⟩, ?_⟩
        · exact List.forall_mem_cons.2 ⟨hb, fun c hc => List.mem_takeWhile_imp hc⟩
        · rw [List.cons_append, dropBlanks, List.takeWhile_append_dropWhile]
      · cases h

theorem dropBlanks_of_blankRun? {rest : List Char} (h : blankRun? s = some rest) :
    dropBlanks s = rest := by
  cases s with
  | nil => cases h
  | cons b s =>
      rw [blankRun?] at h
      split at h
      · rename_i hb
        cases h
        rw [dropBlanks, List.dropWhile_cons, if_pos hb, dropBlanks]
      · cases h

/-- Blanks at the end make no difference to what is left without them. -/
theorem trimEnd_append_blanks (s : List Char) (hafter : IsBlanks after) :
    trimEnd (s ++ after) = trimEnd s := by
  have hreverse : ∀ d ∈ after.reverse, isBlank d = true := fun d hd =>
    hafter d (List.mem_reverse.1 hd)
  rw [trimEnd, dropWhileEnd, List.reverse_append, List.dropWhile_append_of_pos hreverse,
    ← dropWhileEnd, trimEnd]

theorem trimEnd_of_ends (h : Ends s) : trimEnd s = s := by
  obtain ⟨c, hc, hblank⟩ := h
  refine dropWhileEnd_of_last fun d hd => ?_
  rw [hc] at hd
  exact Option.some.inj hd ▸ hblank

/-- Blanks after a text are dropped. -/
theorem trimEnd_append (h : Ends s) (hafter : IsBlanks after) : trimEnd (s ++ after) = s := by
  rw [trimEnd_append_blanks s hafter, trimEnd_of_ends h]

/-- Trimming drops the blanks around a text and nothing else. -/
theorem trim_append (hbefore : IsBlanks before) (hafter : IsBlanks after) (hbegins : Begins s)
    (hends : Ends s) : trim (before ++ (s ++ after)) = s := by
  have hstart : (before ++ (s ++ after)).dropWhile isBlank = s ++ after :=
    dropBlanks_append hbefore (hbegins.append after)
  rw [trim, strip, hstart]
  exact trimEnd_append hends hafter

/-- Blanks at the end make no difference to what trimming leaves. -/
theorem trim_append_blanks (s : List Char) (hafter : IsBlanks after) :
    trim (s ++ after) = trim s := by
  induction after generalizing s with
  | nil => rw [List.append_nil]
  | cons c after ih =>
      rw [IsBlanks, List.forall_mem_cons] at hafter
      rw [← List.singleton_append, ← List.append_assoc, ih _ hafter.2]
      exact strip_concat s hafter.1

/-- The last character of a text that is not blank. -/
theorem exists_last_of_not_isBlanks (h : ¬ IsBlanks s) :
    ∃ front d blanks, s = front ++ d :: blanks ∧ isBlank d = false ∧ IsBlanks blanks := by
  induction s using List.reverseRecOn with
  | nil => exact absurd (List.forall_mem_nil _) h
  | append_singleton front c ih =>
      cases hc : isBlank c with
      | false => exact ⟨front, c, [], rfl, hc, List.forall_mem_nil _⟩
      | true =>
          have hfront : ¬ IsBlanks front := fun hfront => h fun d hd =>
            (List.mem_append.1 hd).elim (hfront d) fun hd => List.mem_singleton.1 hd ▸ hc
          obtain ⟨front, d, blanks, rfl, hd, hblanks⟩ := ih hfront
          refine ⟨front, d, blanks ++ [c], by simp, hd, fun e he => ?_⟩
          exact (List.mem_append.1 he).elim (hblanks e) fun he => List.mem_singleton.1 he ▸ hc

end SheetStore.Text
