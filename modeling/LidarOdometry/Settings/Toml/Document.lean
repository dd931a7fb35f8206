import LidarOdometry.Settings.Toml.Literal
import LidarOdometry.Settings.Toml.Tree

/-!
# TOML Documents

A document is read line by line into assignments and headers, which then build the tree of
tables. Lists and inline tables nest to a limited depth, which bounds the reader's recursion.

## Main definitions

* `Toml.value`: a value of limited depth.
* `Toml.Line`: a line of a document.
* `Toml.read?`: the settings of a document, `none` if it is malformed or gives something twice.
* `Toml.conventions`: how records stand in TOML.
-/

namespace LidarOdometry.Toml

open Reader

/-! ### Keys and values -/

/-- A character that a key may have without quotes. -/
def isBare (c : Char) : Bool :=
  c.isAlphanum || c == '_' || c == '-'

/-- One part of a key. -/
def keyPart : Reader String :=
  quoted <|> do return String.ofList (← many1 (satisfy isBare))

/-- **A key**: one part, or several with dots between them. The last one names the entry, the
others lead to its table. -/
def key : Reader (List String × String) := do
  let parts ← separatedBy (do blanks; let part ← keyPart; blanks; return part) (char '.')
  match parts.getLast? with
  | some last => return (parts.dropLast, last)
  | none => failure

/-- A list, over as many lines as it likes. -/
def list (element : Reader Setting) : Reader Setting := do
  char '['
  gaps
  let items ← optional (separatedBy element (do gaps; char ','; gaps))
  gaps
  if items.isSome then
    let _ ← optional (char ',')
    gaps
  char ']'
  return .list (items.getD [])

/-- A table on one line. -/
def inlineTable (element : Reader Setting) : Reader Setting := do
  char '\x7b'
  let entry : Reader ((List String × String) × Setting) := do
    let k ← key
    char '='
    blanks
    let v ← element
    blanks
    return (k, v)
  let entries ← optional (separatedBy entry (char ','))
  blanks
  char '\x7d'
  let build : Edit Unit := (entries.getD []).forM fun ((path, key), v) => Tree.assign path key v
  match build (.closed []) with
  | some ((), t) => return t.toSetting
  | none => failure

/-- **A value** with lists and inline tables nested up to the given depth. -/
def value : (depth : Nat) → Reader Setting
  | 0 => literal
  | depth + 1 => literal <|> list (value depth) <|> inlineTable (value depth)

/-- The greatest depth of nested lists and inline tables. -/
def maxDepth : Nat := 79

/-! ### Lines -/

/-- **A line of a document.** -/
inductive Line where
  | blank
  | assignment (path : List String) (key : String) (v : Setting)
  | header (path : List String) (key : String)
  | listHeader (path : List String) (key : String)

/-- The line that begins a table, or one more table of a list. -/
def header : Reader Line :=
  (do
    exactly ['[', '[']
    let (path, key) ← key
    exactly [']', ']']
    return .listHeader path key) <|> do
  char '['
  let (path, key) ← key
  char ']'
  return .header path key

/-- The line that gives a key its value. -/
def assignment : Reader Line := do
  let (path, key) ← key
  char '='
  blanks
  let v ← value maxDepth
  return .assignment path key v

/-- **A line with its end**, be it the end of the text. -/
def line : Reader Line := do
  blanks
  let l ← header <|> assignment <|> pure .blank
  blanks
  let _ ← optional comment
  newline <|> atEnd
  return l

/-- The lines of a document, in front of which a byte order mark may stand. -/
def document : Reader (List Line) := do
  let _ ← optional (char '\ufeff')
  many line

/-! ### Building the tree -/

/-- **A document under construction**: the tables finished so far, and the one that assignments
go to, with its place. -/
structure Draft where
  root : Tree
  current : Tree
  /-- Where the current table belongs; the root itself before the first header. -/
  place : Option (List String × String)
  /-- Whether the current table is one of a list. -/
  isListed : Bool

namespace Draft

/-- A document without lines. -/
def empty : Draft :=
  ⟨.closed [], .closed [], none, false⟩

/-- The tree with the current table at its place. -/
def finished? (d : Draft) : Option Tree :=
  match d.place with
  | none => some d.current
  | some (path, key) =>
      let put := if d.isListed then Tree.append key d.current else Tree.add key d.current
      (Tree.within false put path d.root).map Prod.snd

/-- A header: the current table is put in its place, and the one with the given key becomes the
current one. -/
def enter? (d : Draft) (path : List String) (key : String) : Option Draft := do
  let (entries, root) ← Tree.within false (Tree.takeOpen key) path (← d.finished?)
  return ⟨root, .closed entries, some (path, key), false⟩

/-- A header of a list: the current table is put in its place, and a new one for the end of the
list becomes the current one. -/
def enterList? (d : Draft) (path : List String) (key : String) : Option Draft := do
  let root ← d.finished?
  let _ ← Tree.within false (Tree.append key (.closed [])) path root
  return ⟨root, .closed [], some (path, key), true⟩

/-- One line more. -/
def add? (d : Draft) : Line → Option Draft
  | .blank => some d
  | .assignment path key v =>
      (Tree.assign path key v d.current).map fun (_, t) => { d with current := t }
  | .header path key => d.enter? path key
  | .listHeader path key => d.enterList? path key

end Draft

/-- **The settings of a document.** -/
def read? (text : String) : Option Setting := do
  let lines ← document.all? text.toList
  let draft ← lines.foldlM Draft.add? Draft.empty
  return (← draft.finished?).toSetting

/-- **How records stand in TOML**: a record given by position may have surplus items, and an empty
table or list has no content. -/
def conventions : Conventions where
  allowsSurplus := true
  isBlank
    | .table [] | .list [] => true
    | _ => false

end LidarOdometry.Toml
