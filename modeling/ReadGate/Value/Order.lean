import ReadGate.Value.Basic

/-!
# Equality and order of values

* `same` is equality by value: numbers of every kind are equal when their values are, and a truth
  value counts as zero or one; records do not depend on the order of their fields.
* `alike` is the equality by which values are grouped: undefined numbers of documents are alike.
* `before` is the strict order: numbers by value, texts by code point, lists by their first
  difference.  Values of different families have no order.
* `unhashable?` says what keeps a value from being grouped by equality.

Decimals have no order with what is undefined, and a signaling one not even an equality with other
numbers; so both may fail.
-/

namespace ReadGate

/-- Why two values cannot be compared. -/
inductive Incomparable
  /-- The kinds have no common order. -/
  | kinds (left right : String)
  /-- A date is compared with a moment. -/
  | dates (left right : String)
  /-- A moment with an offset is compared with one without. -/
  | offsets
  /-- A decimal takes part, and one of the numbers is undefined. -/
  | undefinedDecimal
  deriving DecidableEq, Repr

/-- The wording of a failed comparison. -/
def Incomparable.message : Incomparable → String
  | .kinds left right => s!"'<' not supported between instances of '{left}' and '{right}'"
  | .dates left right => s!"can't compare {left} to {right}"
  | .offsets => "can't compare offset-naive and offset-aware datetimes"
  | .undefinedDecimal => "[<class 'decimal.InvalidOperation'>]"

/-- Why a value cannot be grouped by equality. -/
inductive Unhashable
  /-- Values of this kind can change. -/
  | kind (name : String)
  /-- The value is a signaling decimal. -/
  | signaling
  deriving DecidableEq, Repr

/-- The wording for a value that cannot be grouped. -/
def Unhashable.message : Unhashable → String
  | .kind name => s!"unhashable type: '{name}'"
  | .signaling => "Cannot hash a signaling NaN value"

namespace Value

/-! ## Numbers -/

/-- The place of a numeric value on the extended number line. -/
def number? : Value → Option Extended
  | bool b => some (.ratio (if b then 1 else 0) 1 0)
  | int n => some (.ratio n 1 0)
  | float x => some x.extended
  | decimal d => some d.extended
  | _ => none

/-- The octets of a byte string or buffer. -/
def octets? : Value → Option (List UInt8)
  | bytes bs => some bs
  | buffer bs _ => some bs
  | _ => none

/-- The codes of a text. -/
def codes? : Value → Option (List Nat)
  | text s => some (s.toList.map Char.toNat)
  | halves codes => some codes
  | _ => none

/-- Is the value a decimal that signals that it is undefined? -/
def isSignaling : Value → Bool
  | decimal (.undefined _ true _) => true
  | _ => false

/-- Is the value an undefined decimal? -/
def isUndefinedDecimal : Value → Bool
  | decimal (.undefined ..) => true
  | _ => false

/-- Is the value a decimal? -/
def isDecimal : Value → Bool
  | decimal _ => true
  | _ => false

/-! ## Equality -/

/-- Are both values the undefined number of documents, which is one and the same? -/
def isShared : Value → Value → Bool
  | float (.nan true), float (.nan true) => true
  | _, _ => false

/-- Equality of values that hold no other values. -/
def sameLeaf (a b : Value) : Except Incomparable Bool :=
  match a.number?, b.number? with
  | some x, some y =>
    if a.isSignaling || b.isSignaling then .error .undefinedDecimal
    else .ok (x.compare? y == some .eq)
  | some _, none => .ok false
  | none, _ =>
    match a, b with
    | null, null => .ok true
    | text s, text t => .ok (s == t)
    | halves s, halves t => .ok (s == t)
    | uuid u, uuid v => .ok (u == v)
    | date d, date e => .ok (d == e)
    | time t, time u => .ok (t == u)
    | moment m, moment n => .ok (m.offset.isSome == n.offset.isSome && m.instant == n.instant)
    | span s, span t => .ok (s == t)
    | _, _ =>
      match a.octets?, b.octets? with
      | some x, some y => .ok (x == y)
      | _, _ => .ok false

mutual
/-- Are the values equal?  Lists of different lengths are told apart by that alone. -/
def same : Value → Value → Except Incomparable Bool
  | list xs, list ys => if xs.length = ys.length then sameItems xs ys else .ok false
  | tuple xs, tuple ys => sameItems xs ys
  | record fs, record gs => if fs.length = gs.length then sameFields fs gs else .ok false
  | a, b => sameLeaf a b

/-- Are the items equal, one by one? -/
def sameItems : List Value → List Value → Except Incomparable Bool
  | [], [] => .ok true
  | x :: xs, y :: ys => do
    if isShared x y then sameItems xs ys
    else if ← same x y then sameItems xs ys else return false
  | _, _ => .ok false

/-- Does the other record hold an equal value for each field? -/
def sameFields : List (String × Value) → List (String × Value) → Except Incomparable Bool
  | [], _ => .ok true
  | (k, v) :: rest, gs =>
    match Row.get? gs k with
    | some w => do
      if isShared v w then sameFields rest gs
      else if ← same v w then sameFields rest gs else return false
    | none => .ok false
end

/-- Are the values one and the same, or equal? -/
def coincides (a b : Value) : Except Incomparable Bool :=
  if isShared a b then .ok true else same a b

/-- Do the values belong to one group? -/
def alike (a b : Value) : Bool :=
  match coincides a b with
  | .ok equal => equal
  | .error _ => false

/-! ## Order -/

/-- Does a text come before another, by code points? -/
def textBefore : List Char → List Char → Bool
  | _, [] => false
  | [], _ :: _ => true
  | c :: cs, d :: ds => c.toNat < d.toNat || (c == d && textBefore cs ds)

/-- Does a text come before another, by their codes? -/
def codesBefore : List Nat → List Nat → Bool
  | _, [] => false
  | [], _ :: _ => true
  | c :: cs, d :: ds => c < d || (c == d && codesBefore cs ds)

/-- Does a byte string come before another? -/
def octetsBefore : List UInt8 → List UInt8 → Bool
  | _, [] => false
  | [], _ :: _ => true
  | c :: cs, d :: ds => c < d || (c == d && octetsBefore cs ds)

/-- The order of values that hold no other values. -/
def beforeLeaf (a b : Value) : Except Incomparable Bool :=
  match a.number?, b.number? with
  | some x, some y =>
    match x.compare? y with
    | some order => .ok (order == .lt)
    | none => if a.isDecimal || b.isDecimal then .error .undefinedDecimal else .ok false
  | _, _ =>
    match a, b with
    | text s, text t => .ok (textBefore s.toList t.toList)
    | bytes s, bytes t => .ok (octetsBefore s t)
    | uuid u, uuid v => .ok (u.value < v.value)
    | date d, date e => .ok (d.rank < e.rank)
    | time t, time u => .ok (t.rank < u.rank)
    | moment m, moment n =>
      if m.offset.isSome == n.offset.isSome then .ok (m.instant < n.instant)
      else .error .offsets
    | span s, span t => .ok (s.micros < t.micros)
    | date _, moment _ => .error (.dates b.fullKind a.fullKind)
    | moment _, date _ => .error (.dates a.fullKind b.fullKind)
    | _, _ =>
      match a.codes?, b.codes? with
      | some s, some t => .ok (codesBefore s t)
      | _, _ => .error (.kinds a.fullKind b.fullKind)

mutual
/-- Does the first value come before the second? -/
def before : Value → Value → Except Incomparable Bool
  | list xs, list ys => beforeItems xs ys
  | tuple xs, tuple ys => beforeItems xs ys
  | a, b => beforeLeaf a b

/-- The first pair of items that differ decides; a list comes before its continuations. -/
def beforeItems : List Value → List Value → Except Incomparable Bool
  | _, [] => .ok false
  | [], _ :: _ => .ok true
  | x :: xs, y :: ys => do
    if ← coincides x y then beforeItems xs ys else before x y
end

/-! ## Grouping -/

mutual
/-- What keeps the value from being grouped by equality, if anything. -/
def unhashable? : Value → Option Unhashable
  | list _ => some (.kind "list")
  | record _ => some (.kind "dict")
  | tuple items => unhashableIn? items
  | decimal (.undefined _ true _) => some .signaling
  | _ => none

/-- What keeps the first of such items from being grouped. -/
def unhashableIn? : List Value → Option Unhashable
  | [] => none
  | v :: rest => (unhashable? v).orElse fun _ => unhashableIn? rest
end

end Value

end ReadGate
