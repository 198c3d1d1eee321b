/-! Lines of a text: what ends them, and how several of them fold into one. -/

namespace DeliveryRules

/-- A text without the byte order mark that may stand in front of it. -/
def withoutMark : List Char → List Char
  | '\uFEFF' :: rest => rest
  | text => text

/-- The line and paragraph separators, which stay themselves where lines are folded. -/
def isSeparator (c : Char) : Bool := c = '\u2028' || c = '\u2029'

/-- Whether a character ends a line, once line ends are written as line feeds. -/
def isLineBreak (c : Char) : Bool := c = '\n' || isSeparator c

/-- A text in which carriage returns, paired or not with line feeds, are line feeds; and so are
other characters that end lines. -/
def withLineFeeds (alsoEnds : Char → Bool) : List Char → List Char
  | '\r' :: '\n' :: rest => '\n' :: withLineFeeds alsoEnds rest
  | c :: rest => (if c = '\r' || alsoEnds c then '\n' else c) :: withLineFeeds alsoEnds rest
  | [] => []

/-- Whether a character is a blank inside a line. -/
def isSpace (c : Char) : Bool := c = ' ' || c = '\t'

/-- Whether a line is, or begins with, the mark of a document: three hyphens or three dots. -/
def beginsWithDocumentMark (line : List Char) : Bool :=
  let mark := line.take 3
  (mark == ['-', '-', '-'] || mark == ['.', '.', '.']) &&
    (line.drop 3).head?.all fun c => isSpace c || isLineBreak c

/-- A stretch of blanks and line breaks between two other characters, last one first. -/
structure Gap where
  spaces : List Char
  breaks : List Char

namespace Gap

/-- A gap in which nothing stands. -/
def empty : Gap := ⟨[], []⟩

/-- A gap with one more blank. -/
def addSpace (gap : Gap) (c : Char) : Gap := { gap with spaces := c :: gap.spaces }

/-- A gap with one more line break. -/
def addBreak (gap : Gap) (c : Char) : Gap := { gap with breaks := c :: gap.breaks }

/-- What a gap is folded to: a lone line feed is a blank, further breaks stay, blanks around go. -/
def folded (gap : Gap) : List Char :=
  match gap.breaks.reverse with
  | [] => gap.spaces.reverse
  | ['\n'] => [' ']
  | '\n' :: further => further
  | breaks => breaks

end Gap

end DeliveryRules
