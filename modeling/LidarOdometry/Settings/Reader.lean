/-!
# Readers of Text

A reader takes a value off the front of a text, or fails. Readers compose in sequence and by
choice; a choice that fails gives back what it took. Repetition ends as soon as a round takes
nothing, so every reader ends.

## Main definitions

* `Reader`: a value and the rest of the text.
* `Reader.satisfy`, `Reader.exactly`: one character of a kind, one given word.
* `Reader.many`, `Reader.separatedBy`, `Reader.times`: repetition.
* `Reader.all?`: the value of a whole text.
-/

namespace LidarOdometry

/-- **A reader of text.** -/
abbrev Reader (β : Type) := StateT (List Char) Option β

namespace Reader

variable {β γ : Type}

/-- The next character, if it is of the wanted kind. -/
def satisfy (isWanted : Char → Bool) : Reader Char
  | [] => none
  | c :: rest => if isWanted c then some (c, rest) else none

/-- The given character. -/
def char (c : Char) : Reader Unit := do
  let _ ← satisfy (· == c)

/-- The given word. -/
def exactly : List Char → Reader Unit
  | [] => pure ()
  | c :: word => do
      char c
      exactly word

/-- The end of the text. -/
def atEnd : Reader Unit
  | [] => some ((), [])
  | _ :: _ => none

/-- Succeeds, taking nothing, where the given word does not follow. -/
def notFollowedBy (word : List Char) : Reader Unit := fun s =>
  if word.isPrefixOf s then none else some ((), s)

/-- The values that a reader takes off a text one after the other, and what is left. -/
def takeMany (p : Reader β) (s : List Char) : List β × List Char :=
  match p s with
  | none => ([], s)
  | some (x, rest) =>
      if _h : rest.length < s.length then
        let (xs, rest) := takeMany p rest
        (x :: xs, rest)
      else ([], s)
termination_by s.length

/-- **As many values as there are**, each taking something. -/
def many (p : Reader β) : Reader (List β) := fun s =>
  some (takeMany p s)

/-- At least one value. -/
def many1 (p : Reader β) : Reader (List β) := do
  let x ← p
  let xs ← many p
  return x :: xs

/-- Values with something in between. -/
def separatedBy (p : Reader β) (separator : Reader γ) : Reader (List β) := do
  let x ← p
  let xs ← many do
    let _ ← separator
    p
  return x :: xs

/-- A fixed number of characters of a kind. -/
def times : Nat → Reader β → Reader (List β)
  | 0, _ => pure []
  | n + 1, p => do
      let x ← p
      let xs ← times n p
      return x :: xs

/-- The value of a text that is read to its end. -/
def all? (p : Reader β) (s : List Char) : Option β :=
  match p s with
  | some (x, []) => some x
  | _ => none

end Reader

end LidarOdometry
