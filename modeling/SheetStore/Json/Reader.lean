import SheetStore.Json.Token

/-!
# Reading JSON of a known shape

A reader takes tokens from the front of a list and answers a value or the first fault it meets.
Where the list ends too early the text is truncated.  There is one reader per shape: texts, whole
numbers below a bound, lists, objects, and structures.

A structure is an object with known fields, or an array of its fields in order.  In an object the
fields come in any order, each at most once, and unknown fields are skipped.  `members` reads an
object and leaves it to its argument to read the value of each field, so that a field that comes
twice is refused before its second value is looked at.
-/

namespace SheetStore.Json

/-- Reads a value from the front of a list of tokens. -/
abbrev Reader := StateT (List Token) (Except Fault)

namespace Reader

/-! ## Single tokens -/

/-- The next token, which stays in front. -/
def peek : Reader Token := fun tokens =>
  match tokens with
  | [] => .error .truncated
  | token :: _ => .ok (token, tokens)

/-- Takes the next token. -/
def next : Reader Token := fun tokens =>
  match tokens with
  | [] => .error .truncated
  | token :: rest => .ok (token, rest)

/-- The fault of a value that is not of the expected type. -/
def unexpected (token : Token) (expected : String) : Fault :=
  match token with
  | .null => .wrongType .null expected
  | .boolean value => .wrongType (.boolean value) expected
  | .number n => .wrongType (.number n) expected
  | .text s => .wrongType (.text s) expected
  | .openArray => .wrongType .sequence expected
  | .openObject => .wrongType .map expected
  | .flawed _ wanted _ => wanted
  | .closeObject | .closeArray | .colon | .comma => .malformed

/-- The colon between a name and its value. -/
def colon : Reader Unit := do
  match ← next with
  | .colon => return ()
  | _ => throw .malformed

/-! ## Values without parts -/

/-- A text. -/
def text (expected : String) : Reader String := do
  match ← next with
  | .text s => return s
  | token => throw (unexpected token expected)

/-- A whole number below the bound. -/
def natural (bound : Nat) (expected : String) : Reader Nat := do
  match ← next with
  | .number (.natural n) =>
      if n < bound then return n else throw (.wrongValue (.natural n) expected)
  | .number (.negative n) => throw (.wrongValue (.negative n) expected)
  | token => throw (unexpected token expected)

/-- The null value, which carries no information. -/
def unit (expected : String) : Reader Unit := do
  match ← next with
  | .null => return ()
  | token => throw (unexpected token expected)

/-- A value that may be null. -/
def optional (value : Reader α) : Reader (Option α) := do
  match ← peek with
  | .null => do
      let _ ← next
      return none
  | _ => some <$> value

/-! ## Skipping -/

/-- What may follow while a value is skipped. -/
inductive Place where
  /-- A value. -/
  | value
  /-- The first item, or the end of what was opened. -/
  | start
  /-- The name of a field. -/
  | name
  /-- The colon behind a name. -/
  | colon
  /-- A comma, or the end of what is open. -/
  | after

/-- Passes over tokens until everything that is open is closed again.  The stack says of each thing
that is open whether it is an object. -/
def skipFrom : List Bool → Place → List Token → Except Fault (List Token)
  | [], .after, tokens => .ok tokens
  | _, _, [] => .error .truncated
  | stack, .colon, .colon :: rest => skipFrom stack .value rest
  | _, .colon, _ :: _ => .error .malformed
  | true :: stack, .start, .closeObject :: rest => skipFrom stack .after rest
  | false :: stack, .start, .closeArray :: rest => skipFrom stack .after rest
  | true :: stack, .after, .closeObject :: rest => skipFrom stack .after rest
  | false :: stack, .after, .closeArray :: rest => skipFrom stack .after rest
  | true :: stack, .after, .comma :: rest => skipFrom (true :: stack) .name rest
  | false :: stack, .after, .comma :: rest => skipFrom (false :: stack) .value rest
  | _ :: _, .after, _ :: _ => .error .malformed
  | stack, place, token :: rest =>
      let isName := match place, stack with
        | .name, _ => true
        | .start, true :: _ => true
        | _, _ => false
      match token with
      | .flawed isText _ (some fault) =>
          if isName && !isText then .error .malformed else .error fault
      | .flawed isText _ none =>
          if !isName then skipFrom stack .after rest
          else if isText then skipFrom stack .colon rest else .error .malformed
      | .text _ => skipFrom stack (if isName then .colon else .after) rest
      | .null | .boolean _ | .number _ =>
          if isName then .error .malformed else skipFrom stack .after rest
      | .openObject => if isName then .error .malformed else skipFrom (true :: stack) .start rest
      | .openArray => if isName then .error .malformed else skipFrom (false :: stack) .start rest
      | .closeObject | .closeArray | .colon | .comma => .error .malformed

/-- Passes over one value. -/
def skip : Reader Unit := fun tokens => (skipFrom [] .value tokens).map ((), ·)

/-! ## Lists -/

/-- Whether another item follows in an array.  The end of the array stays in front, and the comma
before a further item is taken. -/
def hasItem (isFirst : Bool) : Reader Bool := do
  match ← peek with
  | .closeArray => return false
  | token =>
      if isFirst then return true
      match token with
      | .comma =>
          let _ ← next
          match ← peek with
          | .closeArray => throw .malformed
          | _ => return true
      | _ => throw .malformed

/-- The end of an array, when no further item is wanted. -/
def endArray : Reader Unit := do
  match ← next with
  | .closeArray => return ()
  | _ => throw .malformed

/-- Reads at most so many items, and the end of the array. -/
def items (item : Reader α) (isFirst : Bool) : Nat → Reader (List α)
  | 0 => throw .truncated
  | n + 1 => do
      if ← hasItem isFirst then
        let first ← item
        let rest ← items item false n
        return first :: rest
      else
        endArray
        return []

/-- An array of items.  Each takes one token at least. -/
def list (item : Reader α) : Reader (List α) := do
  match ← next with
  | .openArray => items item true ((← get).length + 1)
  | token => throw (unexpected token "a sequence")

/-! ## Objects -/

/-- The name of the next member of an object, or nothing at the end of the object. -/
def memberName? (isFirst : Bool) : Reader (Option String) := do
  match ← next with
  | .closeObject => return none
  | .comma =>
      if isFirst then throw .malformed
      name
  | .text s => if isFirst then return some s else throw .malformed
  | .flawed true wanted _ => if isFirst then throw wanted else throw .malformed
  | _ => throw .malformed
where
  /-- The name behind a comma. -/
  name : Reader (Option String) := do
    match ← next with
    | .text s => return some s
    | .flawed true wanted _ => throw wanted
    | _ => throw .malformed

/-- Reads at most so many members. -/
def membersFrom (member : σ → String → Reader σ) (isFirst : Bool) (state : σ) : Nat → Reader σ
  | 0 => throw .truncated
  | n + 1 => do
      match ← memberName? isFirst with
      | none => return state
      | some name => membersFrom member false (← member state name) n

/-- Reads the members of an object up to its end.  Each takes one token at least. -/
def members (member : σ → String → Reader σ) (state : σ) : Reader σ := do
  membersFrom member true state ((← get).length + 1)

/-- Reads the value of a field that may come once. -/
def once (name : String) (old : Option α) (value : Reader α) : Reader (Option α) := do
  if old.isSome then throw (.duplicateField name)
  colon
  some <$> value

/-- Passes over the value of a field that nobody asked for. -/
def ignore : Reader Unit := do
  colon
  skip

/-! ## Structures -/

/-- The value of a field that has to be there. -/
def required (name : String) (value : Option α) : Reader α :=
  match value with
  | some a => pure a
  | none => throw (.missingField name)

/-- The field at a position of a structure that is given as an array, or its default. -/
def position (expected : String) (index : Nat) (default? : Option α) (value : Reader α) :
    Reader α := do
  if ← hasItem (index == 0) then value
  else
    match default? with
    | some a => return a
    | none => throw (.tooShort index expected)

/-- A structure, by its reader for an object and its reader for an array. -/
def struct (expected : String) (ofObject ofArray : Reader α) : Reader α := do
  match ← next with
  | .openObject => ofObject
  | .openArray =>
      let a ← ofArray
      endArray
      return a
  | token => throw (unexpected token expected)

/-! ## Whole texts -/

/-- Reads a text that holds one value and nothing else. -/
def run (value : Reader α) (s : String) : Except Fault α :=
  match value (Token.ofText s) with
  | .error fault => .error fault
  | .ok (a, []) => .ok a
  | .ok (_, _ :: _) => .error .malformed

end Reader

end SheetStore.Json
