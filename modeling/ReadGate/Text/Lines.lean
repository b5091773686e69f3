/-!
# Lines

Two notions of a line.

* `fileLines` are the lines of a file: they end at a line feed, at a carriage return, or at the pair
  of both, and keep a single line feed as their end.
* `textLines` are the lines of a text in memory, without their ends: eight further characters, among
  them the form feed and the Unicode line separators, end a line too.
-/

namespace ReadGate.Text

/-! ## Lines of a file -/

/-- Every line end written as one line feed. -/
def unifyLineEnds : List Char → List Char
  | [] => []
  | '\r' :: '\n' :: rest => '\n' :: unifyLineEnds rest
  | '\r' :: rest => '\n' :: unifyLineEnds rest
  | c :: rest => c :: unifyLineEnds rest

/-- Splits after each line feed; the last piece may lack one, and is dropped when empty. -/
def splitAfterFeeds (line : List Char) : List Char → List (List Char)
  | [] => if line.isEmpty then [] else [line.reverse]
  | '\n' :: rest => ('\n' :: line).reverse :: splitAfterFeeds [] rest
  | c :: rest => splitAfterFeeds (c :: line) rest

/-- The lines of a file's text, each with its line feed. -/
def fileLines (s : String) : List String :=
  (splitAfterFeeds [] (unifyLineEnds s.toList)).map String.ofList

/-! ## Lines of a text -/

/-- Does the character end a line of a text? -/
def endsLine (c : Char) : Bool :=
  c == '\n' || c == '\r' || c == '\x0b' || c == '\x0c' || c == '\x1c' || c == '\x1d' ||
    c == '\x1e' || c == '\u0085' || c == '\u2028' || c == '\u2029'

/-- Splits at line ends; the end of the text ends the last line unless that line is empty. -/
def splitAtEnds (line : List Char) : List Char → List (List Char)
  | [] => if line.isEmpty then [] else [line.reverse]
  | c :: rest =>
    if endsLine c then line.reverse :: splitAtEnds [] rest else splitAtEnds (c :: line) rest

/-- The lines of a text, without their ends. -/
def textLines (s : String) : List String :=
  (splitAtEnds [] (unifyLineEnds s.toList)).map String.ofList

end ReadGate.Text
