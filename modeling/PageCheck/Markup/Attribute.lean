import PageCheck.Text.Pattern
import PageCheck.Text.Ascii
import PageCheck.Text.Blank

/-! Attributes as written on a tag: a name, and perhaps a value in double
quotes, in single quotes or bare. -/

set_option autoImplicit false

namespace PageCheck

/-- The name is in lower case; a bare attribute has no value. -/
structure Attribute where
  name : String
  value : Option String
deriving DecidableEq

namespace Attribute

def isNameChar (char : Char) : Bool :=
  !Text.isBlank char && char != '\x22' && char != '\x27' && char != '>' && char != '/' && char != '='

def isBareChar (char : Char) : Bool :=
  !Text.isBlank char && char != '\x22' && char != '\x27' && char != '=' && char != '<' &&
    char != '>' && char != '\x60'

def untilQuote? (quote : Char) : List Char → Option (List Char)
  | [] => none
  | char :: rest =>
      if char = quote then some [] else (untilQuote? quote rest).map (char :: ·)

def value? : Pattern (List Char)
  | [] => none
  | char :: rest =>
      if char = '\x22' ∨ char = '\x27' then
        (untilQuote? char rest).map fun body => ⟨body, char :: body ++ [char]⟩
      else if isBareChar char then
        let body := (char :: rest).takeWhile isBareChar
        some ⟨body, body⟩
      else
        none

def assignment? : Pattern (List Char) := fun text =>
  let before := text.takeWhile Text.isBlank
  match text.dropWhile Text.isBlank with
  | '=' :: rest =>
      let after := rest.takeWhile Text.isBlank
      (value? (rest.dropWhile Text.isBlank)).map fun reading =>
        ⟨reading.value, before ++ '=' :: after ++ reading.text⟩
  | _ => none

def pattern : Pattern Attribute := fun text =>
  match text.takeWhile isNameChar with
  | [] => none
  | name =>
      match assignment? (text.dropWhile isNameChar) with
      | some reading =>
          some ⟨⟨Text.lowerName name, some (String.ofList reading.value)⟩, name ++ reading.text⟩
      | none => some ⟨⟨Text.lowerName name, none⟩, name⟩

def readAll (text : List Char) : List Attribute :=
  pattern.values text

def valueOrEmpty (entry : Attribute) : String :=
  entry.value.getD ""

end Attribute

end PageCheck
