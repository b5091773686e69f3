import ReadGate.Value.Basic
import ReadGate.Text.Trim

/-!
# Reading records

Values that come from outside are read into records leniently: an integer may be written as a text
or as a whole floating-point number, a truth value as a word.  Every field is read, so that the
issues of all fields are reported, in the order of the fields, each with its path.

* `Checked α` is a value read, or the issues found.
* `required`, `optional` and `nullable` read the fields of a record.
-/

namespace ReadGate

/-! ## Issues -/

/-- What is wrong with a value. -/
inductive IssueKind
  | missing
  | stringType
  | stringTooShort
  | stringTooLong
  | stringUnicode
  | intType
  | intParsing
  | intParsingSize
  | intFromFloat
  | floatType
  | floatParsing
  | boolType
  | boolParsing
  | finiteNumber
  | greaterThanEqual
  | literalError
  | listType
  | dictType
  | tupleType
  | modelType
  | modelAttributesType
  | unionTagNotFound
  | unionTagInvalid
  | jsonInvalid
  | datetimeType
  | datetimeParsing
  | datetimeFromDateParsing
  deriving DecidableEq, Repr

/-- The name under which an issue is reported. -/
def IssueKind.name : IssueKind → String
  | missing => "missing"
  | stringType => "string_type"
  | stringTooShort => "string_too_short"
  | stringTooLong => "string_too_long"
  | stringUnicode => "string_unicode"
  | intType => "int_type"
  | intParsing => "int_parsing"
  | intParsingSize => "int_parsing_size"
  | intFromFloat => "int_from_float"
  | floatType => "float_type"
  | floatParsing => "float_parsing"
  | boolType => "bool_type"
  | boolParsing => "bool_parsing"
  | finiteNumber => "finite_number"
  | greaterThanEqual => "greater_than_equal"
  | literalError => "literal_error"
  | listType => "list_type"
  | dictType => "dict_type"
  | tupleType => "tuple_type"
  | modelType => "model_type"
  | modelAttributesType => "model_attributes_type"
  | unionTagNotFound => "union_tag_not_found"
  | unionTagInvalid => "union_tag_invalid"
  | jsonInvalid => "json_invalid"
  | datetimeType => "datetime_type"
  | datetimeParsing => "datetime_parsing"
  | datetimeFromDateParsing => "datetime_from_date_parsing"

/-- A step towards a part of a value. -/
inductive PathStep
  | field (name : String)
  | item (index : Nat)
  deriving DecidableEq, Repr

/-- An issue and the path to the value that has it. -/
structure Issue where
  kind : IssueKind
  path : List PathStep
  deriving DecidableEq, Repr

/-- A value that was read, or the issues that were found. -/
abbrev Checked (α : Type) := Except (List Issue) α

namespace Checked

variable {α β : Type}

/-- One issue with the value itself. -/
def fail (kind : IssueKind) : Checked α := .error [⟨kind, []⟩]

/-- Puts a step before the paths of all issues. -/
def under (step : PathStep) : Checked α → Checked α
  | .ok a => .ok a
  | .error issues => .error (issues.map fun i => { i with path := step :: i.path })

/-- Both values, or the issues of both. -/
def both : Checked α → Checked β → Checked (α × β)
  | .ok a, .ok b => .ok (a, b)
  | .ok _, .error e => .error e
  | .error e, .ok _ => .error e
  | .error e, .error f => .error (e ++ f)

/-- All values, or the issues of all, each under its index. -/
def each (read : Value → Checked α) (index : Nat) : List Value → Checked (List α)
  | [] => .ok []
  | v :: rest =>
    (both ((read v).under (.item index)) (each read (index + 1) rest)).map fun p => p.1 :: p.2

/-- The values of all fields, or the issues of all, each under its name. -/
def eachField (read : Value → Checked α) : List (String × Value) → Checked (List (String × α))
  | [] => .ok []
  | (name, v) :: rest =>
    (both ((read v).under (.field name)) (eachField read rest)).map fun p => (name, p.1) :: p.2

end Checked

namespace Record

open Checked

/-! ## Texts and words -/

/-- The text that bytes encode in UTF-8. -/
def decodeUtf8? (bs : List UInt8) : Option String :=
  String.fromUTF8? ⟨bs.toArray⟩

/-- A text in which no half of a surrogate pair stands alone. -/
def wholeText : Value → Checked String
  | .text s => .ok s
  | .halves _ => fail .stringUnicode
  | .bytes bs =>
    match decodeUtf8? bs with
    | some s => .ok s
    | none => fail .stringUnicode
  | _ => fail .stringType

/-- Any text. -/
def text : Value → Checked WideText
  | .halves codes => .ok (.ofCodes codes)
  | v => (wholeText v).map .whole

/-- A text with at least `least` and at most `most` characters.  Characters are counted, and halves
that stand alone are none. -/
def sizedText (least : Nat) (most : Option Nat) (v : Value) : Checked String :=
  match wholeText v with
  | .ok s =>
    if Text.size s < least then fail .stringTooShort
    else if most.any (· < Text.size s) then fail .stringTooLong
    else .ok s
  | .error e => .error e

/-- A text that is not empty. -/
def someText : Value → Checked String :=
  sizedText 1 none

/-- One of the given words, each with its meaning. -/
def word {α : Type} (meanings : List (String × α)) : Value → Checked α
  | .text s =>
    match Row.get? meanings s with
    | some a => .ok a
    | none => fail .literalError
  | _ => fail .literalError

/-! ## Integers in texts -/

/-- A text without the minus at its start; the flag says whether there is one. -/
def splitMinus : List Char → Bool × List Char
  | '-' :: rest => (true, rest)
  | cs => (false, cs)

/-- Does the text start with more digits than are read, a minus counted as one? -/
def isOversized (cs : List Char) : Bool :=
  let (negative, body) := splitMinus cs
  body.head? != some '0' &&
    maxDigits < (body.takeWhile Char.isDigit).length + (if negative then 1 else 0)

/-- The integer that a text writes plainly: perhaps a minus, and digits without a zero before
them. -/
def plainInt? (cs : List Char) : Option Int :=
  let (negative, body) := splitMinus cs
  if body.isEmpty || !body.all Char.isDigit || (body.head? == some '0' && 1 < body.length) ||
      isOversized cs then none
  else
    let n := Numeral.ofDigits (body.map fun c => c.toNat - 48)
    some (if negative then -(n : Int) else n)

/-- The text without a plus before it; a minus may not follow. -/
def dropPlus? : List Char → Option (List Char)
  | '+' :: '-' :: _ => none
  | '+' :: rest => some rest
  | cs => some cs

/-- Can the character stand among zeros before a number? -/
def isZeroOrBreak (c : Char) : Bool :=
  c == '0' || c == '_'

/-- The text without zeros before its number; a text with a minus keeps them. -/
def dropZeros? : List Char → Option (List Char)
  | '0' :: rest =>
    match rest.dropWhile isZeroOrBreak with
    | [] => (('0' :: rest).getLast?).map ([·])
    | '.' :: tail =>
      (('0' :: rest.takeWhile isZeroOrBreak).getLast?).map fun last => last :: '.' :: tail
    | c :: tail => if c.isDigit then some (c :: tail) else none
  | c :: rest => if c.isDigit || c == '-' then some (c :: rest) else none
  | [] => none

/-- The text without a point that is followed by zeros only. -/
def dropZeroFraction (cs : List Char) : List Char :=
  match cs.dropWhile (· != '.') with
  | '.' :: '0' :: zeros => if zeros.all (· == '0') then cs.takeWhile (· != '.') else cs
  | _ => cs

/-- The text without single underscores inside it. -/
def dropBreaks? (cs : List Char) : Option (List Char) :=
  if cs.head? == some '_' || cs.getLast? == some '_' || Text.occursIn ['_', '_'] cs then none
  else some (cs.filter (· != '_'))

/-- The text without white space around it, and without what else a plain integer does not have. -/
def cleaned? (cs : List Char) : Option (List Char) := do
  let trimmed := Text.dropEnd Numeral.isPadding (cs.dropWhile Numeral.isPadding)
  dropBreaks? (dropZeroFraction (← dropZeros? (← dropPlus? trimmed)))

/-- The integer that a text writes, plainly or not. -/
def intOfText (s : String) : Checked Int :=
  let cs := s.toList
  if isOversized cs then fail .intParsingSize
  else
    match (plainInt? cs).or ((cleaned? cs).bind plainInt?) with
    | some n => .ok n
    | none => fail .intParsing

/-! ## Numbers -/

/-- Is the integer one of 64 bits? -/
def isWord (n : Int) : Bool :=
  -(Binary64.twoPow 63 : Int) ≤ n && n < Binary64.twoPow 63

/-- Is the integer one of 64 bits, and not the least of them?  Only such numbers are taken from
floating-point numbers. -/
def isInnerWord (n : Int) : Bool :=
  n.natAbs < Binary64.twoPow 63

/-- The integer that a floating-point number equals. -/
def intOfFloat (x : Binary64) : Checked Int :=
  if x.isFinite then
    match x.toInt? with
    | some n => if isInnerWord n then .ok n else fail .intParsingSize
    | none => fail .intFromFloat
  else fail .finiteNumber

/-- The text of a text or of bytes. -/
def plainText? : Value → Option String
  | .text s => some s
  | .bytes bs => decodeUtf8? bs
  | _ => none

/-- An integer. -/
def int (v : Value) : Checked Int :=
  match v with
  | .int n => .ok n
  | .bool b => .ok (if b then 1 else 0)
  | .float x => intOfFloat x
  | .decimal d =>
    match d with
    | .finite .. =>
      match d.toInt? with
      | some n => .ok n
      | none => fail .intFromFloat
    | _ => fail .finiteNumber
  | .text _ | .bytes _ =>
    match plainText? v with
    | some s => intOfText s
    | none => fail .intParsing
  | .halves _ => fail .stringUnicode
  | _ => fail .intType

/-- An integer that is not negative. -/
def nat (v : Value) : Checked Nat :=
  match int v with
  | .ok n => if 0 ≤ n then .ok n.toNat else fail .greaterThanEqual
  | .error e => .error e

/-! ## Truth values -/

/-- The words for truth and for falsehood. -/
def truthWords : List (String × Bool) := [
  ("0", false), ("off", false), ("f", false), ("false", false), ("n", false), ("no", false),
  ("1", true), ("on", true), ("t", true), ("true", true), ("y", true), ("yes", true)]

/-- The truth value that a number counts as. -/
def truthOfInt : Int → Checked Bool
  | 0 => .ok false
  | 1 => .ok true
  | _ => fail .boolParsing

/-- The truth value of a floating-point number. -/
def truthOfFloat (x : Binary64) : Checked Bool :=
  match x.toInt? with
  | some n => if isInnerWord n then truthOfInt n else fail .boolType
  | none => fail .boolType

/-- A truth value. -/
def truth (v : Value) : Checked Bool :=
  match v with
  | .bool b => .ok b
  | .int n => if isWord n then truthOfInt n else fail .boolType
  | .float x => truthOfFloat x
  | .decimal d => truthOfFloat d.toBinary64
  | .text _ | .bytes _ =>
    match (plainText? v).bind fun s => Row.get? truthWords (s.map Char.toLower) with
    | some b => .ok b
    | none => fail .boolParsing
  | _ => fail .boolType

/-! ## Containers -/

/-- A list whose items are read one by one. -/
def list {α : Type} (read : Value → Checked α) : Value → Checked (List α)
  | .list items | .tuple items => each read 0 items
  | _ => fail .listType

/-- A mapping from names to any values. -/
def mapping : Value → Checked Row
  | .record fields => .ok fields
  | _ => fail .dictType

/-! ## Fields -/

/-- The fields of a record, which is read by `read`. -/
def model {α : Type} (read : Row → Checked α) : Value → Checked α
  | .record fields => read fields
  | _ => fail .modelType

/-- A field that has to be there. -/
def required {α : Type} (name : String) (read : Value → Checked α) (fields : Row) : Checked α :=
  match Row.get? fields name with
  | some v => (read v).under (.field name)
  | none => .error [⟨.missing, [.field name]⟩]

/-- A field with a default. -/
def optional {α : Type} (name : String) (default : α) (read : Value → Checked α) (fields : Row) :
    Checked α :=
  match Row.get? fields name with
  | some v => (read v).under (.field name)
  | none => .ok default

/-- A value or nothing. -/
def orNull {α : Type} (read : Value → Checked α) : Value → Checked (Option α)
  | .null => .ok none
  | v => (read v).map some

/-- A field that may be absent or null. -/
def nullable {α : Type} (name : String) (read : Value → Checked α) (fields : Row) :
    Checked (Option α) :=
  optional name none (orNull read) fields

end Record

end ReadGate
