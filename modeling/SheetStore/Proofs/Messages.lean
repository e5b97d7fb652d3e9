import SheetStore.Failure
import SheetStore.Proofs.Text.Lines
import SheetStore.Proofs.Text.Numeral

/-!
# Messages on one line

The message of a failure stands on one line as long as the paths and the names in it do
(`Failure.oneLine_message`).  All else that it shows is text of its own, numbers, and text from
files, which is quoted: a quoted text is on one line whatever it holds (`Text.oneLine_quote`).
-/

namespace SheetStore

namespace Text

theorem oneLine_toString (n : Nat) : OneLine (toString n) := not_mem_toString (by decide) n

/-! ## Quoted text -/

theorem lineFeed_not_mem_toDigits (n : Nat) : '\n' ∉ Nat.toDigits 16 n := by
  induction n using Nat.strongRecOn with
  | ind n ih =>
      have hdigit : ∀ m : Nat, '\n' ≠ m.digitChar := fun m =>
        (Nat.digitChar_ne '\n' (by decide)).symm
      rw [Nat.toDigits_eq_if (by decide)]
      split
      · exact mt List.mem_singleton.1 (hdigit n)
      · rw [List.mem_append, not_or, List.mem_singleton]
        exact ⟨ih _ (Nat.div_lt_self (by omega) (by decide)), hdigit _⟩

theorem lineFeed_not_mem_escape (c : Char) : '\n' ∉ escape c := by
  unfold escape
  split
  any_goals decide
  rename_i hne _ _ _
  split
  · rw [codePointEscape, List.mem_append, List.mem_append, not_or, not_or]
    exact ⟨⟨by decide, lineFeed_not_mem_toDigits _⟩, by decide⟩
  · exact mt List.mem_singleton.1 (Ne.symm hne)

/-- A quoted text is on one line. -/
theorem oneLine_quote (s : String) : OneLine (quote s) := by
  rw [OneLine, quote, String.toList_ofList, List.mem_append, List.mem_cons, List.mem_flatMap]
  rintro ((h | ⟨c, -, hc⟩) | h)
  · exact absurd h (by decide)
  · exact lineFeed_not_mem_escape c hc
  · exact absurd h (by decide)

theorem oneLine_quoteList (items : List String) : OneLine (quoteList items) := by
  have hitems : OneLine (", ".intercalate (items.map quote)) :=
    .intercalate (by decide) (List.forall_mem_map.2 fun s _ => oneLine_quote s)
  exact (OneLine.append (by decide) hitems).append (by decide)

end Text

/-! ## Messages -/

open Text

theorem SheetFault.oneLine_message (fault : SheetFault) : OneLine fault.message := by
  cases fault with
  | noHeader => decide
  | wrongHeader header columns =>
      exact ((OneLine.append (by decide) (oneLine_quote header)).append (by decide)).append
        (oneLine_quoteList columns)
  | blankRow row => exact (OneLine.append (by decide) (oneLine_toString row)).append (by decide)
  | wrongWidth row found expected =>
      exact ((((OneLine.append (by decide) (oneLine_toString row)).append (by decide)).append
        (oneLine_toString found)).append (by decide)).append (oneLine_toString expected)

theorem FieldFault.oneLine_message (fault : FieldFault) : OneLine fault.message := by
  cases fault <;> decide

theorem FileError.oneLine_message (cause : FileError) : OneLine cause.message := by
  cases cause <;> decide

namespace Failure

/-- The names and paths that the message of a failure shows as they are. -/
def shown : Failure → List String
  | .unknownTable table => [table]
  | .invalidField field _ => [field]
  | .storage path _ => [path.text]
  | .unreadable (.sheetFile path _) => [path.text]
  | .unreadable (.keySequence path _) => [path.text]
  | _ => []

/-- A message is on one line if the names and paths in it are. -/
theorem oneLine_message {failure : Failure} (h : ∀ s ∈ failure.shown, OneLine s) :
    OneLine failure.message := by
  cases failure with
  | notAStatement => decide
  | unknownTable table => exact OneLine.append (by decide) (h _ List.mem_cons_self)
  | wrongValueCount expected got =>
      exact ((OneLine.append (by decide) (oneLine_toString expected)).append (by decide)).append
        (oneLine_toString got)
  | invalidField field fault =>
      exact ((OneLine.append (by decide) (h _ List.mem_cons_self)).append (by decide)).append
        fault.oneLine_message
  | commaInValue => decide
  | lineBreakInValue => decide
  | storage path cause =>
      exact ((OneLine.append (by decide) (h _ List.mem_cons_self)).append (by decide)).append
        cause.oneLine_message
  | unreadable fault =>
      refine OneLine.append (by decide) ?_
      cases fault with
      | emptyCondition => decide
      | sheet fault => exact fault.oneLine_message
      | sheetFile path fault =>
          exact (OneLine.append (h _ List.mem_cons_self) (by decide)).append fault.oneLine_message
      | keySequence path text =>
          exact (((OneLine.append (by decide) (h _ List.mem_cons_self)).append (by decide)).append
            (oneLine_quote text)).append (by decide)

end Failure

end SheetStore
