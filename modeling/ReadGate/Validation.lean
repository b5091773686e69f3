import ReadGate.Failure
import ReadGate.Lexeme

/-!
# Validation

A query text may run only if it is a single statement that reads.  Validation cleans the text and
then asks, in this order: is anything left, does it start with `SELECT`, is none of its words one
that writes, and is there no second statement.

* `normalize` trims the text and drops the terminators at its end.
* `validate` gives the cleaned text, or says why the query is rejected.
* `validateWide` does so for a text in which halves of surrogate pairs stand alone, too.
-/

namespace ReadGate.Validation

open Text

/-! ## Rules -/

/-- The word a query has to start with. -/
def readKeyword : String := "select"

/-- The words that write, or that change who may. -/
def forbiddenKeywords : List String :=
  ["insert", "update", "delete", "drop", "alter", "create", "truncate", "grant", "revoke", "exec",
    "call"]

/-- Can the character stand between a statement and the end of the text? -/
def isTrailer (c : Char) : Bool :=
  c == ';' || isBlank c

/-- The characters without white space around them and without terminators at the end. -/
def clean (cs : List Char) : List Char :=
  dropEnd isTrailer (trim cs)

/-- The text without white space around it and without terminators at its end. -/
def normalize (raw : String) : String :=
  String.ofList (clean raw.toList)

/-- Is the word one that writes? -/
def isForbidden (word : List Char) : Bool :=
  forbiddenKeywords.any fun keyword => isKeyword keyword word

/-- The first word that writes, in lower case. -/
def findForbidden? (text : String) : Option String :=
  ((Lexeme.wordsOf (Lexeme.scan text.toList)).find? isForbidden).map fun word =>
    lower (String.ofList word)

/-- Does the text start with the word that reads? -/
def startsReading (text : String) : Bool :=
  match Lexeme.scan text.toList with
  | first :: _ => first.isKeyword readKeyword
  | [] => false

/-- Is there a terminator with more text after it? -/
def continuesAfterTerminator : List Char → Bool
  | [] => false
  | c :: rest => (c == ';' && rest.any (!isBlank ·)) || continuesAfterTerminator rest

/-! ## Verdicts -/

/-- Why a query is rejected. -/
inductive Rejection
  | blank
  | onlyTerminators
  | notReadOnly (received : WideText)
  | forbidden (keyword : String)
  | multiple
  deriving DecidableEq, Repr

/-- How many characters of a rejected query are reported. -/
def reportedChars : Nat := 50

/-- Validates a query text; an absent text counts as empty. -/
def validate (raw : Option String) : Except Rejection String :=
  match raw with
  | none => .error .blank
  | some raw =>
    if isBlankText raw then .error .blank
    else
      let text := normalize raw
      if text.isEmpty then .error .onlyTerminators
      else if !startsReading text then .error (.notReadOnly (first reportedChars text))
      else
        match findForbidden? text with
        | some keyword => .error (.forbidden keyword)
        | none => if continuesAfterTerminator text.toList then .error .multiple else .ok text

/-- The codes without white space around them and without terminators at the end. -/
def cleanCodes (codes : List Nat) : List Nat :=
  let blank (code : Nat) : Bool := isBlank (charOfCode code)
  let trailer (code : Nat) : Bool := isTrailer (charOfCode code)
  dropEnd trailer (dropEnd blank (codes.dropWhile blank))

/-- Validates any query text.  To the rules a half that stands alone is what the replacement
character is: it is neither blank nor a terminator, and part of no word. -/
def validateWide : Option WideText → Except Rejection WideText
  | none => (validate none).map .whole
  | some (.whole raw) => (validate (some raw)).map .whole
  | some (.broken codes _) =>
    let text := WideText.ofCodes (cleanCodes codes)
    match validate (some (ofCodes codes)) with
    | .ok _ => .ok text
    | .error (.notReadOnly _) => .error (.notReadOnly (text.first reportedChars))
    | .error rejection => .error rejection

/-- The failure that reports a rejection. -/
def Rejection.failure : Rejection → Failure
  | blank => .of .emptyQuery "Query is empty"
  | onlyTerminators => .of .emptyQuery "Query is empty after removing statement terminators"
  | notReadOnly received =>
    .of .notReadOnly "Only SELECT statements are allowed" [("received", .ofWide received)]
  | forbidden keyword =>
    .ofKeyword keyword s!"Keyword '{upperKeyword keyword}' is not allowed"
  | multiple => .of .multipleStatements "Multiple SQL statements are not allowed"

end ReadGate.Validation
