import ReadGate.Text.Blank
import ReadGate.Text.Case
import ReadGate.Text.Digit
import ReadGate.Text.Word

/-!
# Lexemes

A query text falls into words, gaps and marks: maximal runs of word characters, maximal runs of
white space, and all other characters one by one.  Nothing is lost, so the lexemes put together
give the text back (`textOf_scan`).
-/

namespace ReadGate

open Text

/-- A word, a gap or a single other character. -/
inductive Lexeme
  | word (cs : List Char)
  | gap (cs : List Char)
  | mark (c : Char)
  deriving DecidableEq, Repr

namespace Lexeme

/-- The characters of a lexeme. -/
def chars : Lexeme → List Char
  | word cs => cs
  | gap cs => cs
  | mark c => [c]

/-- The characters of lexemes, put together. -/
def textOf (ls : List Lexeme) : List Char :=
  ls.flatMap chars

/-- Puts a character before lexemes: it joins a run of its own kind, or starts one. -/
def attach (c : Char) (ls : List Lexeme) : List Lexeme :=
  if isWord c then
    match ls with
    | word cs :: rest => word (c :: cs) :: rest
    | _ => word [c] :: ls
  else if isBlank c then
    match ls with
    | gap cs :: rest => gap (c :: cs) :: rest
    | _ => gap [c] :: ls
  else mark c :: ls

/-- The lexemes of a text. -/
def scan : List Char → List Lexeme
  | [] => []
  | c :: cs => attach c (scan cs)

/-- The words among lexemes. -/
def wordsOf : List Lexeme → List (List Char)
  | [] => []
  | word cs :: rest => cs :: wordsOf rest
  | _ :: rest => wordsOf rest

/-- Is the lexeme the keyword, up to letter case? -/
def isKeyword (keyword : String) : Lexeme → Bool
  | word cs => Text.isKeyword keyword cs
  | _ => false

/-- The lexemes after a gap, if there is one. -/
def skipGap : List Lexeme → List Lexeme
  | gap _ :: rest => rest
  | ls => ls

theorem textOf_attach (c : Char) (ls : List Lexeme) : textOf (attach c ls) = c :: textOf ls := by
  unfold attach
  split
  · split <;> simp [textOf, chars]
  · split
    · split <;> simp [textOf, chars]
    · simp [textOf, chars]

theorem textOf_scan (cs : List Char) : textOf (scan cs) = cs := by
  induction cs with
  | nil => rfl
  | cons c cs ih => simp [scan, textOf_attach, ih]

end Lexeme

end ReadGate
