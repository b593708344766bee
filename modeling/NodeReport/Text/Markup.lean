/-! # Markup

  Markup is a list of tokens. Text and attribute values are written with an entity for each
  character that markup gives a meaning of its own, so that no text can be taken for a tag.
-/

namespace NodeReport.Text

/-! ### Escapes -/

/-- One character within a text run. -/
def escapeTextChar (c : Char) : List Char :=
  if c = '&' then "&amp;".toList
  else if c = '<' then "&lt;".toList
  else if c = '>' then "&gt;".toList
  else [c]

/-- One character within an attribute value between double quotes. -/
def escapeAttributeChar (c : Char) : List Char :=
  if c = '"' then "&quot;".toList else escapeTextChar c

/-! ### Tokens -/

/-- A piece of markup. -/
inductive MarkupToken where
  /-- The line that names the kind of document. -/
  | doctype
  /-- The start of an element, with its attributes. -/
  | opening (name : String) (attributes : List (String × String))
  /-- The end of an element. -/
  | closing (name : String)
  /-- A text. -/
  | text (s : String)
  /-- A space that is not left out. -/
  | blank
deriving DecidableEq

namespace MarkupToken

/-- An attribute with its value between double quotes, after a space. -/
def attributeChars (a : String × String) : List Char :=
  ' ' :: a.1.toList ++ '=' :: '"' :: a.2.toList.flatMap escapeAttributeChar ++ ['"']

/-- The characters of a token. -/
def chars : MarkupToken → List Char
  | .doctype => "<!DOCTYPE html>".toList
  | .opening name attributes => '<' :: name.toList ++ attributes.flatMap attributeChars ++ ['>']
  | .closing name => '<' :: '/' :: name.toList ++ ['>']
  | .text s => s.toList.flatMap escapeTextChar
  | .blank => "&nbsp;".toList

/-- The text of a list of tokens. -/
def render (tokens : List MarkupToken) : String :=
  String.ofList (tokens.flatMap chars)

/-- An element around some content. -/
def element (name : String) (attributes : List (String × String)) (content : List MarkupToken) :
    List MarkupToken :=
  .opening name attributes :: content ++ [.closing name]

end MarkupToken

end NodeReport.Text
