import ReadGate.Text.Blank

/-!
# Trimming and cutting

Characters are dropped from either end of a text as long as they are in a class; `trim` drops white
space.  Lengths and cuts count characters.
-/

namespace ReadGate.Text

/-! ## Trimming -/

/-- Drops the characters of a class from the end. -/
def dropEnd {α : Type} (p : α → Bool) (cs : List α) : List α :=
  (cs.reverse.dropWhile p).reverse

/-- Drops white space from both ends. -/
def trim (cs : List Char) : List Char :=
  dropEnd isBlank (cs.dropWhile isBlank)

/-- The text without white space at its ends. -/
def trimmed (s : String) : String :=
  String.ofList (trim s.toList)

/-- Is there nothing but white space? -/
def isBlankText (s : String) : Bool :=
  s.toList.all isBlank

/-! ## Cutting -/

/-- The first `n` characters. -/
def first (n : Nat) (s : String) : String :=
  String.ofList (s.toList.take n)

/-- How many leading items a cut at `n` keeps: a negative cut leaves out that many at the end. -/
def cutLength (length : Nat) (n : Int) : Nat :=
  if 0 ≤ n then min n.toNat length else (length + n).toNat

/-- The items up to a cut, counted from the end when the cut is negative. -/
def cutList {α : Type} (xs : List α) (n : Int) : List α :=
  xs.take (cutLength xs.length n)

/-- The characters up to a cut, counted from the end when the cut is negative. -/
def cut (s : String) (n : Int) : String :=
  String.ofList (cutList s.toList n)

/-- The number of characters. -/
def size (s : String) : Nat :=
  s.toList.length

/-! ## Searching -/

/-- Does the list occur in the other, as neighbouring characters? -/
def occursIn (needle : List Char) : List Char → Bool
  | [] => needle.isEmpty
  | c :: rest => needle.isPrefixOf (c :: rest) || occursIn needle rest

/-- Does the text contain the other? -/
def contains (haystack needle : String) : Bool :=
  occursIn needle.toList haystack.toList

/-! ## Laws -/

theorem cutList_nonneg {α : Type} (xs : List α) (n : Nat) : cutList xs n = xs.take n := by
  simp [cutList, cutLength]

end ReadGate.Text
