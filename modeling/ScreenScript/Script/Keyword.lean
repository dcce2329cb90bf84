import ScreenScript.Text.Blank
import ScreenScript.Text.LowerCase

/-!
# Keywords

Lines and actions begin with a keyword in any letter case, and what follows it, without the blanks
around it, is its argument. There are two ways to find a keyword. One lowers the whole text and
compares its beginning; the other cuts a piece of the keyword's length and lowers that piece alone.
-/

namespace ScreenScript.Keyword

/-- The argument behind a keyword that the lower case of the text starts with. -/
def argument? (keyword t : Text) : Option Text :=
  if keyword.isPrefixOf t.lower then some (Text.trim (t.drop keyword.length)) else none

/-- The argument behind a beginning of the text whose lower case is the keyword. -/
def argumentBehind? (keyword t : Text) : Option Text :=
  if Text.lower (t.take keyword.length) = keyword then some (Text.trim (t.drop keyword.length)) else none

end ScreenScript.Keyword
