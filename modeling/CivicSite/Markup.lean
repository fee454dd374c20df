import CivicSite.Text.Basic

/-!
# Markup

A page is a sequence of tokens: start and end tags, texts, layout between them, and stretches
taken over verbatim. Only `render` turns tokens into a text. It writes every text and
every attribute value with the five characters that mean something in markup as references,
so what a text holds cannot be mistaken for a tag, however it came about.
-/

namespace CivicSite

/-! ## Escaping -/

def escapePoint (c : CodePoint) : Text :=
  if c == '&' then "&amp;"
  else if c == '<' then "&lt;"
  else if c == '>' then "&gt;"
  else if c == '"' then "&#34;"
  else if c == '\'' then "&#39;"
  else [c]

def escapeText (s : Text) : Text := s.flatMap escapePoint

/-! ## Tokens -/

/-- An attribute and its value; one without a value is on by being there. -/
abbrev Attribute := Text × Option Text

/-- A piece of a page. -/
inductive Token where
  /-- A start tag. -/
  | start (tag : Text) (attributes : List Attribute)
  /-- A tag of an element that ends at once, with a slash. -/
  | empty (tag : Text) (attributes : List Attribute)
  /-- An end tag. -/
  | stop (tag : Text)
  /-- A text. -/
  | text (s : Text)
  /-- A reference to a character by its name. -/
  | reference (name : Text)
  /-- Blanks and line breaks. -/
  | layout (s : Text)
  /-- Characters taken over as they are. -/
  | verbatim (s : Text)
deriving DecidableEq, Repr

abbrev Markup := List Token

/-! ## Rendering -/

/-- How an attribute is written. -/
def renderAttribute : Attribute → Text
  | (name, some value) => " " ++ name ++ "=\"" ++ escapeText value ++ "\""
  | (name, none) => " " ++ name

namespace Token

/-- How a token is written. -/
def render : Token → Text
  | start tag attributes => "<" ++ tag ++ attributes.flatMap renderAttribute ++ ">"
  | empty tag attributes => "<" ++ tag ++ attributes.flatMap renderAttribute ++ " />"
  | stop tag => "</" ++ tag ++ ">"
  | text s => escapeText s
  | reference name => "&" ++ name ++ ";"
  | layout s => s
  | verbatim s => s

end Token

namespace Markup

def render (m : Markup) : Text := m.flatMap Token.render

@[simp] theorem render_append (a b : Markup) : render (a ++ b) = render a ++ render b := by
  simp [render]

/-! ## Putting markup together -/

/-- A line that is indented by steps of four blanks. -/
def line (depth : Nat) (m : Markup) : Markup :=
  .layout (List.replicate (4 * depth) ' ') :: m ++ [.layout "\n"]

def blankLine : Markup := [.layout "\n"]

def element (tag : Text) (attributes : List Attribute) (inner : Markup) : Markup :=
  .start tag attributes :: inner ++ [.stop tag]

def textElement (tag : Text) (attributes : List Attribute) (s : Text) : Markup :=
  element tag attributes [.text s]

end Markup

def attr (name value : Text) : Attribute := (name, some value)

/-- An attribute without a value. -/
def flag (name : Text) : Attribute := (name, none)

end CivicSite
