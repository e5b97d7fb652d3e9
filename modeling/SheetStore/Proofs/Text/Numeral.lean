import SheetStore.Text.Numeral
import SheetStore.Proofs.Text.Blank

/-!
# Reading back a written number

A number is written with the decimal digits and nothing else (`isDigit_of_mem_toString`), so it
reads back (`word?_toString`) as long as it fits into a word, also as the trimmed text of a file
(`signedWord?_trim_toString`).  Writing different numbers gives different texts, since no two
numbers read back from one text (`digitsValue_toString`).

Reading takes more than writing gives: zeros may stand in front.  That is all it takes more, as far
as positive numbers go (`word?_eq_some_iff`).
-/

namespace SheetStore.Text

theorem isDigit_of_mem_toString {n : Nat} {c : Char} (h : c ∈ (toString n).toList) :
    c.isDigit = true := by
  rw [Nat.toString_eq_repr, Nat.toList_repr] at h
  exact Nat.isDigit_of_mem_toDigits (by decide) (by decide) h

theorem toString_ne_nil (n : Nat) : (toString n).toList ≠ [] := by
  rw [Nat.toString_eq_repr, Nat.toList_repr]
  exact Nat.toDigits_ne_nil

/-- The digits of a number have its value. -/
@[simp] theorem digitsValue_toString (n : Nat) : digitsValue 0 (toString n).toList = n := by
  rw [Nat.toString_eq_repr, Nat.toList_repr, digitsValue, ← Nat.ofDigitChars_eq_foldl]
  exact Nat.ofDigitChars_ten_toDigits

/-- A character that is no digit does not occur in a number. -/
theorem not_mem_toString {c : Char} (hc : c.isDigit = false) (n : Nat) :
    c ∉ (toString n).toList := by
  intro h
  rw [isDigit_of_mem_toString h] at hc
  cases hc

theorem numeral?_toString (n : Nat) : numeral? (toString n).toList = some n := by
  have hall : (toString n).toList.all Char.isDigit = true :=
    List.all_eq_true.2 fun c hc => isDigit_of_mem_toString hc
  have hne : (toString n).toList.isEmpty = false :=
    Bool.eq_false_iff.2 fun h => toString_ne_nil n (List.isEmpty_iff.1 h)
  rw [numeral?, hall, hne, digitsValue_toString]
  rfl

theorem word?_toString {n : Nat} (h : n < wordBound) : word? (toString n).toList = some n := by
  rw [word?, numeral?_toString, Option.filter_some, if_pos (decide_eq_true h)]

/-! ## Zeros in front -/

theorem digitsValue_zeros (zeros : Nat) (s : List Char) :
    digitsValue 0 (List.replicate zeros '0' ++ s) = digitsValue 0 s := by
  induction zeros with
  | zero => rfl
  | succ zeros ih => exact ih

theorem digitChar_toNat_sub {c : Char} (h : c.isDigit = true) :
    Nat.digitChar (c.toNat - '0'.toNat) = c ∧ c.toNat - '0'.toNat < 10 := by
  have hrange : 48 ≤ c.toNat ∧ c.toNat ≤ 57 := by
    simpa [Char.isDigit, UInt32.le_iff_toNat_le] using h
  have hlt : c.toNat - '0'.toNat < 10 := by
    rw [show '0'.toNat = 48 from rfl]
    omega
  refine ⟨Char.toNat_inj.1 ?_, hlt⟩
  rw [Nat.toNat_digitChar_of_lt_ten hlt, show '0'.toNat = 48 from rfl]
  omega

/-- Digits that come after those of a positive number are the later digits of a number. -/
theorem toDigits_append_of_digits {s : List Char} (hs : ∀ c ∈ s, c.isDigit = true) {n : Nat}
    (hpos : 0 < n) : Nat.toDigits 10 n ++ s = Nat.toDigits 10 (digitsValue n s) := by
  induction s generalizing n with
  | nil => exact List.append_nil _
  | cons c rest ih =>
      rw [List.forall_mem_cons] at hs
      obtain ⟨hchar, hlt⟩ := digitChar_toNat_sub hs.1
      have hnext := Nat.toDigits_append_toDigits (b := 10) (by decide) hpos hlt
      rw [Nat.toDigits_of_lt_base hlt, hchar] at hnext
      rw [← List.singleton_append, ← List.append_assoc, hnext, ih hs.2 (by omega)]
      rfl

/-- Digits with a positive value are zeros and the digits of the value. -/
theorem exists_zeros {s : List Char} (hs : ∀ c ∈ s, c.isDigit = true)
    (hpos : 0 < digitsValue 0 s) :
    ∃ zeros, s = List.replicate zeros '0' ++ (toString (digitsValue 0 s)).toList := by
  induction s with
  | nil => cases hpos
  | cons c rest ih =>
      rw [List.forall_mem_cons] at hs
      by_cases hc : c = '0'
      · subst hc
        obtain ⟨zeros, hrest⟩ := ih hs.2 hpos
        exact ⟨zeros + 1, congrArg ('0' :: ·) hrest⟩
      · obtain ⟨hchar, hlt⟩ := digitChar_toNat_sub hs.1
        have hfirst : 0 < c.toNat - '0'.toNat := by
          refine Nat.pos_of_ne_zero fun hzero => hc ?_
          rw [← hchar, hzero]
          rfl
        refine ⟨0, ?_⟩
        have hdigits := toDigits_append_of_digits hs.2 hfirst
        rw [Nat.toDigits_of_lt_base hlt, hchar, List.singleton_append] at hdigits
        have hvalue : digitsValue 0 (c :: rest) = digitsValue (c.toNat - '0'.toNat) rest := by
          rw [digitsValue, List.foldl_cons, Nat.mul_zero, Nat.zero_add]
          rfl
        rw [hvalue, Nat.toString_eq_repr, Nat.toList_repr, ← hdigits]
        rfl

/-- A positive number is read from its digits with zeros in front, and from nothing else. -/
theorem word?_eq_some_iff {s : List Char} {n : Nat} (hpos : 0 < n) :
    word? s = some n ↔
      n < wordBound ∧ ∃ zeros, s = List.replicate zeros '0' ++ (toString n).toList := by
  rw [word?, Option.filter_eq_some_iff, decide_eq_true_iff, and_comm, numeral?]
  refine and_congr_right fun _ => ?_
  constructor
  · intro h
    split at h
    · rename_i hdigits
      rw [Bool.and_eq_true, List.all_eq_true] at hdigits
      obtain rfl := Option.some.inj h
      exact exists_zeros hdigits.2 hpos
    · cases h
  · rintro ⟨zeros, rfl⟩
    have hdigits : (List.replicate zeros '0' ++ (toString n).toList).all Char.isDigit = true := by
      rw [List.all_append, Bool.and_eq_true, List.all_eq_true, List.all_eq_true]
      exact ⟨fun c hc => by rw [List.eq_of_mem_replicate hc]; rfl,
        fun c hc => isDigit_of_mem_toString hc⟩
    have hne : (List.replicate zeros '0' ++ (toString n).toList).isEmpty = false := by
      rw [Bool.eq_false_iff, ne_eq, List.isEmpty_iff, List.append_eq_nil_iff]
      exact fun h => toString_ne_nil n h.2
    rw [hdigits, hne, digitsValue_zeros, digitsValue_toString]
    rfl

/-! ## Numbers in files -/

/-- No digit is blank: the digits are the code points from 48 to 57. -/
theorem isBlank_of_isDigit {c : Char} (h : c.isDigit = true) : isBlank c = false := by
  have hrange : 48 ≤ c.toNat ∧ c.toNat ≤ 57 := by
    simpa [Char.isDigit, UInt32.le_iff_toNat_le] using h
  simp [isBlank, blanks, Ranges.holds]
  omega

theorem trim_toString (n : Nat) : trim (toString n).toList = (toString n).toList :=
  strip_of_forall fun _ hc => isBlank_of_isDigit (isDigit_of_mem_toString hc)

theorem signedWord?_trim_toString_eq (n : Nat) :
    signedWord? (trim (toString n).toList) = word? (toString n).toList := by
  rw [trim_toString]
  unfold signedWord?
  split
  · rename_i s hplus
    have : '+' ∈ (toString n).toList := by rw [hplus]; exact List.mem_cons_self
    exact absurd this (not_mem_toString (by decide) n)
  · rfl

/-- The text of a number reads back as a number. -/
theorem signedWord?_trim_toString {n : Nat} (h : n < wordBound) :
    signedWord? (trim (toString n).toList) = some n := by
  rw [signedWord?_trim_toString_eq, word?_toString h]

/-- The text of a number that is no word is refused. -/
theorem signedWord?_trim_toString_of_not_lt {n : Nat} (h : ¬ n < wordBound) :
    signedWord? (trim (toString n).toList) = none := by
  rw [signedWord?_trim_toString_eq, word?, numeral?_toString, Option.filter_some, if_neg]
  exact fun hlt => h (of_decide_eq_true hlt)

end SheetStore.Text
