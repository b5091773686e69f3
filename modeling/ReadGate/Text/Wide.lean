import ReadGate.Text.Surrogate
import ReadGate.Text.Trim

/-!
# Wide texts

A text from outside may hold halves of surrogate pairs that stand alone.  Such a text has codes, but
it is no `String`; it is `broken`, and all other texts are `whole`.

* `WideText.codes` and `WideText.ofCodes` — a text is its codes.
* `WideText.plain` — the text with the replacement character for each half.
* `++`, `first`, `size` and `joined` work on codes.  Halves that meet when texts are put together
  are not joined.
-/

namespace ReadGate

/-- A text in which halves of surrogate pairs may stand alone. -/
inductive WideText
  /-- A text without such halves. -/
  | whole (s : String)
  /-- The codes of a text with such a half. -/
  | broken (codes : List Nat) (half : codes.any Text.isHalf = true)
  deriving DecidableEq, Repr

namespace WideText

instance : Coe String WideText := ⟨whole⟩

instance : Inhabited WideText := ⟨whole ""⟩

/-- The codes of a text. -/
def codes : WideText → List Nat
  | whole s => s.toList.map Char.toNat
  | broken codes _ => codes

/-- The text that has the codes. -/
def ofCodes (codes : List Nat) : WideText :=
  if h : codes.any Text.isHalf = true then broken codes h else whole (Text.ofCodes codes)

/-- The text with the replacement character for each half. -/
def plain : WideText → String
  | whole s => s
  | broken codes _ => Text.ofCodes codes

/-- Is there no code at all? -/
def isEmpty : WideText → Bool
  | whole s => s.isEmpty
  | broken .. => false

/-- One text behind the other. -/
def append : WideText → WideText → WideText
  | whole s, whole t => whole (s ++ t)
  | s, t => ofCodes (s.codes ++ t.codes)

instance : Append WideText := ⟨append⟩

/-- The number of codes. -/
def size : WideText → Nat
  | whole s => Text.size s
  | broken codes _ => codes.length

/-- The first `n` codes. -/
def first (n : Nat) : WideText → WideText
  | whole s => whole (Text.first n s)
  | broken codes _ => ofCodes (codes.take n)

/-- Texts with a separator between them. -/
def joined (separator : WideText) : List WideText → WideText
  | [] => whole ""
  | [t] => t
  | t :: rest => t ++ separator ++ joined separator rest

theorem whole_append_whole (s t : String) : (whole s ++ whole t : WideText) = whole (s ++ t) := rfl

end WideText

end ReadGate
