import PageCheck.Config.Toml.Scalar
import PageCheck.Config.Toml.Tables
import PageCheck.Config.Toml.Text

/-! Settings written as TOML. -/

set_option autoImplicit false

namespace PageCheck

namespace Toml

def afterComment? (text : List Char) : Option (List Char) :=
  let rest := text.dropWhile isPrintable
  if rest.isEmpty || (lineEnd? rest).isSome then some rest else none

def skipLines : Nat → List Char → Option (List Char)
  | 0, _ => none
  | fuel + 1, text =>
      match skipSpace text with
      | '#' :: rest => (afterComment? rest).bind (skipLines fuel)
      | rest =>
          match lineEnd? rest with
          | some rest => skipLines fuel rest
          | none => some rest

/-- How deep arrays and tables in values may be nested, and how many keys a path
may have. -/
def deepest : Nat := 80

/-- The path to a key and the key, of which there are not too many. -/
def splitKey? (text : List Char) : Option (List String × String × List Char) := do
  let (keys, rest) ← key? text
  let key ← keys.getLast?
  if keys.length ≤ deepest then some (keys.dropLast, key, rest) else none

/-! ### Values -/

mutual

/-- A value no deeper than `depth`; `fuel` is more than the characters left. -/
def value : Nat → Nat → Reader Setting
  | 0, _, _ => none
  | _ + 1, _, [] => none
  | fuel + 1, depth, char :: rest =>
      match char with
      | '\x22' => (string? basic rest).map fun (text, rest) => (.text text, rest)
      | '\x27' => (string? literal rest).map fun (text, rest) => (.text text, rest)
      | '[' =>
          match depth with
          | 0 => none
          | depth + 1 => elements fuel depth [] rest
      | '\x7b' =>
          match depth with
          | 0 => none
          | depth + 1 => members fuel depth [] rest
      | _ => scalar? (char :: rest)

/-- The values of an array; a comma may follow the last. -/
def elements : Nat → Nat → List Setting → Reader Setting
  | 0, _, _, _ => none
  | fuel + 1, depth, before, text => do
      match ← skipLines (text.length + 1) text with
      | ']' :: rest => return (.list before.reverse, rest)
      | rest => do
          let (element, rest) ← value fuel depth rest
          match ← skipLines (rest.length + 1) rest with
          | ',' :: rest => elements fuel depth (element :: before) rest
          | ']' :: rest => return (.list (element :: before).reverse, rest)
          | _ => none

/-- The members of a table in braces, on one line or over several; a comma may
follow the last. -/
def members : Nat → Nat → Entries → Reader Setting
  | 0, _, _, _ => none
  | fuel + 1, depth, before, text => do
      match ← skipLines (text.length + 1) text with
      | '\x7d' :: rest => return (.table (settings before), rest)
      | rest => do
          let (path, key, rest) ← splitKey? rest
          let (_, rest) ← Reader.expect '=' (← skipLines (rest.length + 1) rest)
          let (member, rest) ← value fuel depth (← skipLines (rest.length + 1) rest)
          let (_, entries) ← assign path key (.value member) .header before
          match ← skipLines (rest.length + 1) rest with
          | ',' :: rest => members fuel depth entries rest
          | '\x7d' :: rest => return (.table (settings entries), rest)
          | _ => none

end

/-! ### Documents -/

/-- The tables read so far, and the header that what follows belongs to. -/
structure Progress where
  root : Entries
  header : List String

def finishLine? (text : List Char) : Option (List Char) :=
  match skipSpace text with
  | [] => some []
  | '#' :: rest => afterComment? rest
  | rest => if (lineEnd? rest).isSome then some rest else none

def header? (progress : Progress) (text : List Char) : Option (Progress × List Char) :=
  match text with
  | '[' :: rest => do
      let (path, key, rest) ← splitKey? rest
      let (_, rest) ← Reader.expect ']' rest
      let (_, rest) ← Reader.expect ']' rest
      let root ← openElement path key progress.root
      return (⟨root, path ++ [key]⟩, rest)
  | _ => do
      let (path, key, rest) ← splitKey? text
      let (_, rest) ← Reader.expect ']' rest
      let root ← openTable path key progress.root
      return (⟨root, path ++ [key]⟩, rest)

def assignment? (progress : Progress) (text : List Char) : Option (Progress × List Char) := do
  let (path, key, rest) ← splitKey? text
  let (_, rest) ← Reader.expect '=' rest
  let (setting, rest) ← value (text.length + 1) deepest (skipSpace rest)
  let root ← assignBelow progress.header path key (.value setting) progress.root
  return (⟨root, progress.header⟩, rest)

def statements : Nat → Progress → List Char → Option Entries
  | 0, _, _ => none
  | fuel + 1, progress, text => do
      match ← skipLines (text.length + 1) text with
      | [] => return progress.root
      | rest => do
          let (next, rest) ← match rest with
            | '[' :: inside => header? progress inside
            | _ => assignment? progress rest
          let rest ← finishLine? rest
          statements fuel next rest

/-- The table that a document is.  A byte order mark may stand before it. -/
def read? (text : List Char) : Option Setting :=
  let body := match text with
    | char :: rest => if char.toNat = 0xFEFF then rest else text
    | [] => []
  (statements (text.length + 1) ⟨[], []⟩ body).map fun root => .table (settings root)

end Toml

end PageCheck
