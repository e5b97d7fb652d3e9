import SheetStore.Statement.Run

/-!
# Sessions

A session serves one client over a stream of bytes.  It writes a prompt, reads a line, runs it as a
statement and writes the response, until the client ends its input, sends `exit`, sends bytes that
are not UTF-8, or sends a line that is too long.

A line is read up to its line feed, the end of the input, or `lineLimit` bytes, whichever comes
first (`nextLine`).  Bytes are looked at only after that, so a line that is too long is refused with
a message if its first `lineLimit` bytes are text, and otherwise ends the session without one.
`turn` is what comes of one line, and `run` takes turns until one ends the session.  Each turn makes
the input shorter (`length_lt_of_turn`), and what comes after the last one is never looked at.

A client may also fall silent and keep its side open.  Then the session ends when the idle limit is
reached, and a line that was begun is not run.
-/

namespace SheetStore.Session

/-! ## Lines -/

/-- The most bytes a line may have, its line feed included. -/
def lineLimit : Nat := 65536

/-- The byte that ends a line. -/
def lineFeed : UInt8 := 10

/-- What a session reads next. -/
inductive Received where
  /-- The input is at its end. -/
  | nothing
  /-- A line, and the input after it.  `ended` says whether its line feed was read. -/
  | line (bytes : List UInt8) (ended : Bool) (rest : List UInt8)
  /-- The first bytes of a line that is too long. -/
  | overlong (bytes : List UInt8)
deriving DecidableEq, Repr

/-- Reads the next line of the input. -/
def nextLine (input : List UInt8) : Received :=
  let body := input.takeWhile (· != lineFeed)
  if lineLimit ≤ body.length then .overlong (body.take lineLimit)
  else
    match input.dropWhile (· != lineFeed) with
    | feed :: rest => .line (body ++ [feed]) true rest
    | [] => if body.isEmpty then .nothing else .line body false []

/-- The text of bytes, if they are UTF-8. -/
def text? (bytes : List UInt8) : Option String := String.fromUTF8? ⟨bytes.toArray⟩

/-- A line without its line ending. -/
def command (line : String) : String :=
  String.ofList (Text.dropWhileEnd (fun c => c == '\n' || c == '\r') line.toList)

/-- Whether a command ends the session. -/
def isExit (command : String) : Bool := Text.trim command.toList == ['e', 'x', 'i', 't']

/-! ## Responses -/

/-- What is written before a line is read. -/
def prompt : String := ">> "

/-- The response to a statement that succeeds. -/
def success (outcome : Outcome) : String :=
  "command executed successfully\n" ++
    match outcome.payload? with
    | none => ""
    | some payload =>
        "output:\n" ++ payload ++ if payload.toList.getLast? = some '\n' then "" else "\n"

/-- The response to a statement that fails. -/
def refusal (failure : Failure) : String := "error: " ++ failure.message ++ "\n"

/-- The response to a line that is too long. -/
def tooLong : String := "error: command longer than " ++ toString lineLimit ++ " bytes\n"

/-- Runs a command, and answers the response and the files it leaves. -/
def respond (db : Database) (command : String) (files : FileTree) : String × FileTree :=
  match db.execute command files with
  | .ok outcome files' => (success outcome, files')
  | .error failure files' => (refusal failure, files')

/-! ## Turns -/

/-- What the client does after its last byte. -/
inductive Ending where
  /-- It ends its input. -/
  | closed
  /-- It waits until the idle limit is reached. -/
  | silent
deriving DecidableEq, Repr

/-- What comes of one line. -/
structure Turn where
  /-- What is written. -/
  output : String
  /-- The files that are left. -/
  files : FileTree
  /-- The input after the line, unless the session ends. -/
  rest : Option (List UInt8)

/-- Reads a line after the prompt and answers it. -/
def turn (db : Database) (ending : Ending) (input : List UInt8) (files : FileTree) : Turn :=
  match nextLine input with
  | .nothing => ⟨"", files, none⟩
  | .overlong bytes => ⟨if (text? bytes).isSome then tooLong else "", files, none⟩
  | .line bytes ended rest =>
      if !ended && ending = .silent then ⟨"", files, none⟩
      else
        match (text? bytes).map command with
        | none => ⟨"", files, none⟩
        | some line =>
            if isExit line then ⟨"", files, none⟩
            else
              let (response, files) := respond db line files
              ⟨response, files, some rest⟩

theorem length_lt_of_nextLine {input bytes rest : List UInt8} {ended : Bool}
    (h : nextLine input = .line bytes ended rest) : rest.length < input.length := by
  unfold nextLine at h
  have hlen := congrArg List.length
    (List.takeWhile_append_dropWhile (p := (· != lineFeed)) (l := input))
  rw [List.length_append] at hlen
  simp only at h
  split at h
  · cases h
  · split at h
    · rename_i feed after hdrop
      cases h
      rw [hdrop, List.length_cons] at hlen
      omega
    · rename_i hdrop
      rw [hdrop, List.length_nil] at hlen
      split at h
      · cases h
      · rename_i hbody
        cases h
        have := List.length_pos_iff.2 (mt List.isEmpty_iff.2 hbody)
        simp only [List.length_nil]
        omega

/-- Each turn takes some of the input. -/
theorem length_lt_of_turn {db : Database} {ending : Ending} {input rest : List UInt8}
    {files : FileTree} (h : (turn db ending input files).rest = some rest) :
    rest.length < input.length := by
  unfold turn at h
  split at h
  · cases h
  · cases h
  · rename_i hline
    split at h
    · cases h
    · split at h
      · cases h
      · split at h
        · cases h
        · cases h
          exact length_lt_of_nextLine hline

/-! ## The session -/

/-- Serves a client that sends the input, and answers all that is written and the files that are
left. -/
def run (db : Database) (ending : Ending) (input : List UInt8) (files : FileTree) :
    String × FileTree :=
  let t := turn db ending input files
  match _h : t.rest with
  | none => (prompt ++ t.output, t.files)
  | some rest =>
      let (output, files) := run db ending rest t.files
      (prompt ++ t.output ++ output, files)
termination_by input.length
decreasing_by exact length_lt_of_turn _h

end SheetStore.Session
