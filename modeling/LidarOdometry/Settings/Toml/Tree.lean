import LidarOdometry.Settings.Value

/-!
# Tables under Construction

The tables of a TOML document may be given in pieces: by headers, by dotted keys, and by the
headers of tables inside them. What has been given once must not be given again, so a table
under construction remembers how it came about:

* a table is *open* while it has only been mentioned on the way to another one; a header for it
  may still follow;
* a table is *dotted* if it came about by dotted keys; only dotted keys may add to it, and no
  header may follow.

## Main definitions

* `Toml.Tree`: a value, a table, or a list of tables, under construction.
* `Toml.Edit`: an edit of a tree.
* `Toml.Tree.within`: an edit of the table at a path.
* `Toml.Tree.assign`: a key with its value.
* `Toml.Tree.toSetting`: the finished value.
-/

namespace LidarOdometry.Toml

/-- **A value under construction.** -/
inductive Tree where
  | value (v : Setting)
  | table (isOpen isDotted : Bool) (entries : List (String × Tree))
  /-- A list of tables, the last of which is being added to. -/
  | tables (items : List Tree)

/-- **An edit of a tree**, which may be refused; the edited tree comes with a result. -/
abbrev Edit (γ : Type) := StateT Tree Option γ

namespace Tree

/-- The entries with the value of a key replaced. -/
def replace (key : String) (t : Tree) (entries : List (String × Tree)) : List (String × Tree) :=
  entries.map fun entry => if entry.1 == key then (key, t) else entry

/-- **An edit of the table at a path.** Tables on the way that do not exist yet come about as
open ones. With `byDots` the path is that of a dotted key, which must not lead through tables
that have a header. -/
def within {γ : Type} (byDots : Bool) (edit : Edit γ) : List String → Edit γ
  | [], t => edit t
  | key :: path, table isOpen isDotted entries =>
      match entries.lookup key with
      | none => do
          let (x, child) ← within byDots edit path (table true byDots [])
          return (x, table isOpen isDotted (entries ++ [(key, child)]))
      | some (value _) => none
      | some (tables items) => do
          let (x, child) ← within byDots edit path (← items.getLast?)
          let grown := tables (items.dropLast ++ [child])
          return (x, table isOpen isDotted (replace key grown entries))
      | some (table childOpen childDotted children) =>
          if byDots && !childOpen then none
          else do
            let (x, child) ← within byDots edit path (table childOpen childDotted children)
            return (x, table isOpen isDotted (replace key child entries))
  | _ :: _, _ => none

/-- A new entry in a table. There must not be one with the same key. -/
def add (key : String) (t : Tree) : Edit Unit
  | table isOpen isDotted entries =>
      if (entries.lookup key).isSome then none
      else some ((), table isOpen isDotted (entries ++ [(key, t)]))
  | _ => none

/-- A table as a header leaves it: neither open nor dotted. -/
def closed (entries : List (String × Tree)) : Tree :=
  table false false entries

/-- **A key with its value**, below a path of dotted keys. A table that dotted keys lead to must
have come about by dotted keys. -/
def assign (path : List String) (key : String) (v : Setting) : Edit Unit :=
  within true (fun t =>
    match t with
    | table _ isDotted _ => if isDotted = path.isEmpty then none else add key (value v) t
    | _ => none) path

/-- The entries of the open table with the given key, which leaves its table: none if there is no
such table yet. Nothing else may have that key. -/
def takeOpen (key : String) : Edit (List (String × Tree))
  | table isOpen isDotted entries =>
      match entries.lookup key with
      | none => some ([], table isOpen isDotted entries)
      | some (table true false children) =>
          let others := entries.filter fun entry => entry.1 != key
          some (children, table isOpen isDotted others)
      | some _ => none
  | _ => none

/-- One table more at the end of the list of tables with the given key, which comes about if it
does not exist. -/
def append (key : String) (t : Tree) : Edit Unit
  | table isOpen isDotted entries =>
      match entries.lookup key with
      | none => some ((), table isOpen isDotted (entries ++ [(key, tables [t])]))
      | some (tables items) =>
          some ((), table isOpen isDotted (replace key (tables (items ++ [t])) entries))
      | some _ => none
  | _ => none

mutual

/-- The finished value. -/
def toSetting : Tree → Setting
  | value v => v
  | table _ _ entries => .table (entriesToSettings entries)
  | tables items => .list (itemsToSettings items)

/-- The finished entries of a table. -/
def entriesToSettings : List (String × Tree) → List (String × Setting)
  | [] => []
  | (key, t) :: entries => (key, toSetting t) :: entriesToSettings entries

/-- The finished tables of a list. -/
def itemsToSettings : List Tree → List Setting
  | [] => []
  | t :: items => toSetting t :: itemsToSettings items

end

end Tree

end LidarOdometry.Toml
