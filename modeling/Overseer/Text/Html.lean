/-!
# HTML Text

Text that is shown inside a page: the five characters that mean something there are written as
entities.

Nothing else is changed.  Characters that cannot be seen, or that have another meaning in an
attribute, stay as they are.
-/

namespace Overseer.Text

/-- A character as it is written in a page. -/
def htmlEntity (c : Char) : List Char :=
  if c = '&' then "&amp;".toList
  else if c = '<' then "&lt;".toList
  else if c = '>' then "&gt;".toList
  else if c = '"' then "&quot;".toList
  else if c = '\'' then "&#39;".toList
  else [c]

/-- A text as it is written in a page. -/
def escapeHtml (s : List Char) : List Char := s.flatMap htmlEntity

end Overseer.Text
