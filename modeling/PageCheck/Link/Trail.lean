/-! What follows the authority of an address: a path, a query and a fragment.  They are read
from left to right, and there is no text in which they could not be read.  The path of an
address on the web is taken apart at its slashes, and dots lead back in it; what may be
written in other ways is kept as it is written. -/

set_option autoImplicit false

namespace PageCheck

inductive SchemeClass where
  | web
  | file
  | other
deriving DecidableEq

namespace SchemeClass

def ofScheme (scheme : List Char) : SchemeClass :=
  let name := String.ofList scheme
  if name = "file" then .file
  else if ["http", "https", "ws", "wss", "ftp"].contains name then .web
  else .other

def isSlash (kind : SchemeClass) (char : Char) : Bool :=
  char == '/' || (char == '\\' && kind ≠ .other)

def isEnd (kind : SchemeClass) (char : Char) : Bool :=
  kind.isSlash char || char == '?' || char == '#'

end SchemeClass

/-- The path of an address on the web consists of segments, here with the last one first;
that of any other is a text. -/
inductive Path where
  | segmented (segments : List (List Char))
  | whole (text : List Char)
deriving DecidableEq

namespace Path

/-- How many dots a segment consists of, if of nothing else.  Dots may be percent-encoded. -/
def dots? : List Char → Option Nat
  | [] => some 0
  | '.' :: rest => (dots? rest).map (· + 1)
  | '%' :: '2' :: digit :: rest =>
      if digit = 'e' ∨ digit = 'E' then (dots? rest).map (· + 1) else none
  | _ => none

/-- The segments of a path with one more, and with an empty one where dots end the path.
There is nothing to go back to from the first. -/
def extend (segments : List (List Char)) (segment : List Char) (ends : Bool) :
    List (List Char) :=
  let place :=
    match dots? segment with
    | some 1 => some segments
    | some 2 => some segments.tail
    | _ => none
  match place with
  | none => segment :: segments
  | some reached => if ends then [] :: reached else reached

def parent : Path → List (List Char)
  | .segmented segments => segments.tail
  | .whole _ => []

end Path

structure Trail where
  path : Path
  query : Option (List Char)
  fragment : Option (List Char)
deriving DecidableEq

namespace Trail

/-- A query, the characters read of it last first, and a fragment. -/
def readQuery (path : Path) (query : List Char) : List Char → Trail
  | [] => ⟨path, some query.reverse, none⟩
  | char :: rest =>
      if char = '#' then
        ⟨path, some query.reverse, some rest⟩
      else
        readQuery path (char :: query) rest

/-- The rest of a path on the web and what follows it.  Of the segment that is being read
the characters are given last first. -/
def readPath (segments : List (List Char)) (segment : List Char) : List Char → Trail
  | [] => ⟨.segmented (Path.extend segments segment.reverse true), none, none⟩
  | char :: rest =>
      if SchemeClass.web.isSlash char then
        readPath (Path.extend segments segment.reverse false) [] rest
      else if char = '?' then
        readQuery (.segmented (Path.extend segments segment.reverse true)) [] rest
      else if char = '#' then
        ⟨.segmented (Path.extend segments segment.reverse true), none, some rest⟩
      else
        readPath segments (char :: segment) rest

/-- What follows the authority of an address on the web.  Its path begins with a slash,
even where none is written. -/
def ofWeb : List Char → Trail
  | [] => readPath [] [] []
  | char :: rest =>
      if SchemeClass.web.isSlash char then readPath [] [] rest else readPath [] [] (char :: rest)

def ofText (text : List Char) : Trail :=
  let whole := text.takeWhile (· != '#')
  let query := whole.dropWhile (· != '?')
  let fragment := text.dropWhile (· != '#')
  { path := .whole (whole.takeWhile (· != '?'))
    query := if query.isEmpty then none else some (query.drop 1)
    fragment := if fragment.isEmpty then none else some (fragment.drop 1) }

/-- Where a reference without an authority leads from a trail.  It replaces the fragment, or
the query as well, or the whole path behind one slash, or else the last segment. -/
def follow (base : Trail) : List Char → Trail
  | [] => { base with fragment := none }
  | char :: rest =>
      if char = '?' then
        readQuery base.path [] rest
      else if char = '#' then
        { base with fragment := some rest }
      else if SchemeClass.web.isSlash char then
        readPath [] [] rest
      else
        readPath base.path.parent [] (char :: rest)

end Trail

end PageCheck
