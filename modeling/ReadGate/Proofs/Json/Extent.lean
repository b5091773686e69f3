import ReadGate.Proofs.Json.Scalars

/-!
# How far reading goes

A value is read from the characters up to its end, with white space between its tokens.  What stands
behind it is not looked at, unless it could go on with a number.  So a document ends where its value
does, and no more than white space may follow.

* `Extends.space`, `Takes.inTurn`, `Extends.upTo` — parts that stand behind each other.
* `value_eq_ok`, `items_eq_ok`, `fields_eq_ok` — the ways in which a value, items and fields are
  read.
* `value_extent` — values, items and fields take their characters, by induction on the fuel.
* `printed_of_read` — a document holds no control characters but white space.
* `read_append_ne` — with anything else behind it, a document is none.
-/

namespace ReadGate.Json

open Text

variable {α β : Type} {fits : List Char → Prop} {dialect : Dialect} {rest used used' : List Char}

/-! ## White space -/

theorem skipSpace_append {ws cs : List Char} (hws : ∀ c ∈ ws, isSpace c = true)
    (hcs : Stops isSpace cs) : skipSpace (ws ++ cs) = cs :=
  hcs.dropWhile_of_all hws

theorem exists_space (cs : List Char) :
    ∃ ws, (∀ c ∈ ws, isSpace c = true) ∧ cs = ws ++ skipSpace cs :=
  ⟨cs.takeWhile isSpace, fun _ hc => List.all_eq_true.1 List.all_takeWhile _ hc,
    List.takeWhile_append_dropWhile.symm⟩

theorem isNumeric_of_isSpace {c : Char} (h : isSpace c = true) : isNumeric c = false := by
  simp only [isSpace, Bool.or_eq_true, beq_iff_eq] at h
  rcases h with ((rfl | rfl) | rfl) | rfl <;> rfl

/-- No number goes on with white space, nor with what is behind it. -/
theorem stops_space {ws cs : List Char} (hws : ∀ c ∈ ws, isSpace c = true)
    (hcs : Stops isNumeric cs) : Stops isNumeric (ws ++ cs) := by
  cases ws with
  | nil => exact hcs
  | cons c ws => exact stops_cons.2 (isNumeric_of_isSpace (hws c (by simp)))

/-- What is read behind white space. -/
theorem Extends.space {parse parse' : List Char → Parsed α} (h : Extends fits parse parse') :
    Extends fits (fun cs => parse (skipSpace cs)) (fun cs => parse' (skipSpace cs)) := by
  intro cs a rest hread hrest
  obtain ⟨used, hsplit, htakes⟩ := h _ a rest hread hrest
  obtain ⟨ws, hws, hcs⟩ := exists_space cs
  have hstops : Stops isSpace (used ++ rest) := hsplit ▸ stops_dropWhile
  refine ⟨ws ++ used, ?_, List.append_ne_nil_of_right_ne_nil ws htakes.ne_nil,
    List.forall_mem_append.2 ⟨fun c hc => .inr (hws c hc), htakes.printed⟩, fun tail htail => ?_⟩
  · rw [hcs, hsplit, List.append_assoc]
  · have hskip : Stops isSpace (used ++ tail) :=
      (stops_append_iff htakes.ne_nil).2 ((stops_append_iff htakes.ne_nil).1 hstops)
    rw [List.append_assoc, skipSpace_append hws hskip]
    exact htakes.reads tail htail

/-! ## Parts behind each other -/

theorem Takes.imp {parse : List Char → Parsed α} {parse' : List Char → Parsed β} {a : α} {b : β}
    (h : Takes fits parse used a)
    (himp : ∀ cs rest, parse cs = .ok (a, rest) → parse' cs = .ok (b, rest)) :
    Takes fits parse' used b :=
  ⟨h.ne_nil, h.printed, fun tail htail => himp _ tail (h.reads tail htail)⟩

theorem Takes.anywhere {parse : List Char → Parsed α} {a : α} (h : Takes Anything parse used a) :
    Takes fits parse used a :=
  ⟨h.ne_nil, h.printed, fun tail _ => h.reads tail trivial⟩

theorem Extends.anywhere {parse parse' : List Char → Parsed α} (h : Extends Anything parse parse') :
    Extends fits parse parse' := by
  intro cs a rest hread _
  obtain ⟨used, hsplit, htakes⟩ := h cs a rest hread trivial
  exact ⟨used, hsplit, htakes.anywhere⟩

/-- What is read behind an opening character. -/
theorem Takes.cons {parse : List Char → Parsed α} {parse' : List Char → Parsed β} {a : α} {b : β}
    {c : Char} (h : Takes fits parse used a) (hc : Printed c)
    (hcons : ∀ cs rest, parse cs = .ok (a, rest) → parse' (c :: cs) = .ok (b, rest)) :
    Takes fits parse' (c :: used) b where
  ne_nil := List.cons_ne_nil c used
  printed := List.forall_mem_cons.2 ⟨hc, h.printed⟩
  reads tail htail := hcons _ tail (h.reads tail htail)

/-- Reads two parts, one behind the other. -/
def inTurn (first : List Char → Parsed α) (second : List Char → Parsed β) (cs : List Char) :
    Parsed (α × β) :=
  match first cs with
  | .error e => .error e
  | .ok (a, mid) => (second mid).map fun p => ((a, p.1), p.2)

theorem inTurn_eq_ok {first : List Char → Parsed α} {second : List Char → Parsed β}
    {cs : List Char} {a : α} {b : β} :
    inTurn first second cs = .ok ((a, b), rest) ↔
      ∃ mid, first cs = .ok (a, mid) ∧ second mid = .ok (b, rest) := by
  unfold inTurn
  constructor
  · intro h
    split at h
    · cases h
    · rename_i a' mid hfirst
      obtain ⟨⟨b', more⟩, hsecond, heq⟩ := exists_of_map_ok h
      cases heq
      exact ⟨mid, hfirst, hsecond⟩
  · rintro ⟨mid, hfirst, hsecond⟩
    simp only [hfirst, hsecond]
    rfl

theorem Takes.inTurn {fits' : List Char → Prop} {first : List Char → Parsed α}
    {second : List Char → Parsed β} {a : α} {b : β} (h : Takes fits first used a)
    (h' : Takes fits' second used' b) (hfits : ∀ tail, fits' tail → fits (used' ++ tail)) :
    Takes fits' (inTurn first second) (used ++ used') (a, b) where
  ne_nil := List.append_ne_nil_of_left_ne_nil h.ne_nil used'
  printed := List.forall_mem_append.2 ⟨h.printed, h'.printed⟩
  reads tail htail := by
    rw [List.append_assoc]
    exact inTurn_eq_ok.2 ⟨_, h.reads _ (hfits tail htail), h'.reads tail htail⟩

/-- The marks between the parts of lists and objects. -/
def marks : List Char :=
  [',', ':', ']', '\x7d']

theorem marks_plain {c : Char} (h : c ∈ marks) :
    isNumeric c = false ∧ isSpace c = false ∧ 0x20 ≤ c.toNat := by
  simp only [marks, List.mem_cons, List.not_mem_nil, or_false] at h
  rcases h with rfl | rfl | rfl | rfl <;> exact ⟨rfl, rfl, by decide⟩

/-- Reads a mark. -/
def readMark (mark : Char) (cs : List Char) : Parsed Unit :=
  if (skipSpace cs).head? = some mark then .ok ((), (skipSpace cs).tail)
  else .error (.malformed .comma (skipSpace cs).length)

theorem readMark_eq_ok {mark : Char} {cs : List Char} :
    readMark mark cs = .ok ((), rest) ↔ skipSpace cs = mark :: rest := by
  unfold readMark
  constructor
  · intro h
    split at h
    · rename_i hmark
      obtain ⟨more, hmore⟩ := List.head?_eq_some_iff.1 hmark
      rw [hmore] at h ⊢
      cases h
      rfl
    · cases h
  · intro h
    simp [h]

theorem takes_readMark (mark : Char) (hmark : mark ∈ marks) {ws : List Char}
    (hws : ∀ c ∈ ws, isSpace c = true) : Takes Anything (readMark mark) (ws ++ [mark]) () where
  ne_nil := List.append_ne_nil_of_right_ne_nil ws (List.cons_ne_nil mark [])
  printed := List.forall_mem_append.2 ⟨fun c hc => .inr (hws c hc),
    List.forall_mem_singleton.2 (.inl (marks_plain hmark).2.2)⟩
  reads tail _ := by
    rw [List.append_assoc]
    exact readMark_eq_ok.2 (skipSpace_append hws (stops_cons.2 (marks_plain hmark).2.1))

/-- Reads a part with a mark behind it. -/
def upTo (mark : Char) (parse : List Char → Parsed α) (cs : List Char) : Parsed α :=
  (inTurn parse (readMark mark) cs).map fun p => (p.1.1, p.2)

theorem upTo_eq_ok {mark : Char} {parse : List Char → Parsed α} {cs : List Char} {a : α} :
    upTo mark parse cs = .ok (a, rest) ↔
      ∃ mid, parse cs = .ok (a, mid) ∧ skipSpace mid = mark :: rest := by
  constructor
  · intro h
    obtain ⟨⟨⟨a', ⟨⟩⟩, more⟩, hread, heq⟩ := exists_of_map_ok h
    cases heq
    obtain ⟨mid, hparse, hmark⟩ := inTurn_eq_ok.1 hread
    exact ⟨mid, hparse, readMark_eq_ok.1 hmark⟩
  · rintro ⟨mid, hparse, hskip⟩
    have hread := inTurn_eq_ok.2 ⟨mid, hparse, readMark_eq_ok.2 hskip⟩
    rw [upTo, hread]
    rfl

/-- A part takes the mark behind it, which goes on with no number. -/
theorem Extends.upTo {parse parse' : List Char → Parsed α}
    (h : Extends (Stops isNumeric) parse parse') (mark : Char) (hmark : mark ∈ marks) :
    Extends Anything (upTo mark parse) (upTo mark parse') := by
  intro cs a rest hread _
  obtain ⟨mid, hparse, hskip⟩ := upTo_eq_ok.1 hread
  obtain ⟨ws, hws, hmid⟩ := exists_space mid
  rw [hskip] at hmid
  have hstops (tail : List Char) : Stops isNumeric (ws ++ mark :: tail) :=
    stops_space hws (stops_cons.2 (marks_plain hmark).1)
  obtain ⟨used, rfl, htakes⟩ := h cs a mid hparse (hmid ▸ hstops rest)
  refine ⟨used ++ (ws ++ [mark]), by rw [hmid]; simp, ?_⟩
  have hboth := htakes.inTurn (takes_readMark mark hmark hws) fun tail _ => by
    rw [List.append_assoc]
    exact hstops tail
  refine hboth.imp fun cs rest hread => ?_
  rw [Json.upTo, hread]
  rfl

/-! ## Documents -/

/-- The ways in which a value is read, with `fuel` left for what is inside. -/
inductive ReadsValue (dialect : Dialect) (fuel depth : Nat) : List Char → Value → List Char → Prop
  | string {cs codes rest} (h : string dialect cs = .ok (codes, rest)) :
    ReadsValue dialect fuel depth ('"' :: cs) (stringValue codes) rest
  | emptyObject {cs rest} (hdepth : insideEmpty dialect .object depth = .ok ())
    (h : skipSpace cs = '\x7d' :: rest) :
    ReadsValue dialect fuel depth ('\x7b' :: cs) (.record []) rest
  | object {cs inner row rest} (hdepth : inside .object depth = .ok inner)
    (h : fields dialect fuel inner [] (skipSpace cs) = .ok (row, rest)) :
    ReadsValue dialect fuel depth ('\x7b' :: cs) (.record row) rest
  | emptyList {cs rest} (hdepth : insideEmpty dialect .array depth = .ok ())
    (h : skipSpace cs = ']' :: rest) :
    ReadsValue dialect fuel depth ('[' :: cs) (.list []) rest
  | list {cs inner vs rest} (hdepth : inside .array depth = .ok inner)
    (h : items dialect fuel inner (skipSpace cs) = .ok (vs, rest)) :
    ReadsValue dialect fuel depth ('[' :: cs) (.list vs) rest
  | scalar {cs v rest} (h : scalar dialect cs = .ok (v, rest)) :
    ReadsValue dialect fuel depth cs v rest

theorem not_fields_brace {fuel depth : Nat} {before row : Row} {cs : List Char} :
    fields dialect fuel depth before ('\x7d' :: cs) ≠ .ok (row, rest) := by
  intro h
  cases fuel <;> simp [fields] at h

theorem not_items_bracket {fuel depth : Nat} {vs : List Value} {cs : List Char} :
    items dialect fuel depth (']' :: cs) ≠ .ok (vs, rest) := by
  intro h
  cases fuel with
  | zero => simp [items] at h
  | succ fuel =>
    unfold items at h
    split at h
    · cases h
    · rename_i v mid hv
      cases fuel with
      | zero => simp [value] at hv
      | succ fuel =>
        rw [value_scalar (stops_cons.2 rfl)] at hv
        obtain ⟨d, ds, hd, heq | heq⟩ := number_start (show number dialect (']' :: cs) = _ from hv)
        · cases heq
          cases hd
        · cases heq

theorem value_eq_ok {fuel depth : Nat} {cs : List Char} {v : Value} :
    value dialect (fuel + 1) depth cs = .ok (v, rest) ↔
      ReadsValue dialect fuel depth cs v rest := by
  constructor
  · intro h
    unfold value at h
    split at h
    · obtain ⟨⟨codes, more⟩, hstring, heq⟩ := exists_of_map_ok h
      cases heq
      exact .string hstring
    · split at h
      · rename_i hskip
        obtain ⟨_, hdepth, heq⟩ := exists_of_map_ok h
        cases heq
        exact .emptyObject hdepth hskip
      · split at h
        · cases h
        · rename_i inner hdepth
          obtain ⟨⟨row, more⟩, hfields, heq⟩ := exists_of_map_ok h
          cases heq
          exact .object hdepth hfields
    · split at h
      · rename_i hskip
        obtain ⟨_, hdepth, heq⟩ := exists_of_map_ok h
        cases heq
        exact .emptyList hdepth hskip
      · split at h
        · cases h
        · rename_i inner hdepth
          obtain ⟨⟨vs, more⟩, hitems, heq⟩ := exists_of_map_ok h
          cases heq
          exact .list hdepth hitems
    · exact .scalar h
  · intro h
    cases h with
    | string h =>
      rw [value, h]
      rfl
    | emptyObject hdepth h | emptyList hdepth h =>
      rw [value, h, hdepth]
      rfl
    | object hdepth h =>
      rw [value]
      split
      · rename_i hskip
        rw [hskip] at h
        exact absurd h not_fields_brace
      · simp only [hdepth, h]
        rfl
    | list hdepth h =>
      rw [value]
      split
      · rename_i hskip
        rw [hskip] at h
        exact absurd h not_items_bracket
      · simp only [hdepth, h]
        rfl
    | scalar h => rw [value_scalar (scalar_stops h), h]

/-- An item is the last one, or a comma and more items follow. -/
theorem items_eq_ok {fuel depth : Nat} {cs : List Char} {vs : List Value} :
    items dialect (fuel + 1) depth cs = .ok (vs, rest) ↔
      (∃ v, upTo ']' (value dialect fuel depth) cs = .ok (v, rest) ∧ vs = [v]) ∨
      ∃ v more mid, upTo ',' (value dialect fuel depth) cs = .ok (v, mid) ∧
        items dialect fuel depth (skipSpace mid) = .ok (more, rest) ∧ vs = v :: more := by
  simp only [upTo_eq_ok]
  constructor
  · intro h
    unfold items at h
    split at h
    · cases h
    · rename_i v mid hv
      split at h
      · rename_i hskip
        cases h
        exact .inl ⟨v, ⟨mid, hv, hskip⟩, rfl⟩
      · rename_i left hskip
        obtain ⟨⟨more, _⟩, hmore, heq⟩ := exists_of_map_ok h
        cases heq
        exact .inr ⟨v, more, left, ⟨mid, hv, hskip⟩, hmore, rfl⟩
      · cases h
  · rintro (⟨v, ⟨mid, hv, hskip⟩, rfl⟩ | ⟨v, more, left, ⟨mid, hv, hskip⟩, hmore, rfl⟩)
    · simp [items, hv, hskip]
    · simp [items, hv, hskip, hmore, Except.map]

/-- A field has a name, a colon and a value, and is the last one, or a comma and more follow. -/
theorem fields_eq_ok {fuel depth : Nat} {before row : Row} {cs : List Char} :
    fields dialect (fuel + 1) depth before cs = .ok (row, rest) ↔
      ∃ opened name named v, cs = '"' :: opened ∧
        upTo ':' (string dialect) opened = .ok (name, named) ∧
        ((upTo '\x7d' (value dialect fuel depth) (skipSpace named) = .ok (v, rest) ∧
            row = Row.put before (fieldName name) (fieldValue name v)) ∨
          ∃ mid, upTo ',' (value dialect fuel depth) (skipSpace named) = .ok (v, mid) ∧
            fields dialect fuel depth (Row.put before (fieldName name) (fieldValue name v))
              (skipSpace mid) = .ok (row, rest)) := by
  simp only [upTo_eq_ok]
  constructor
  · intro h
    unfold fields at h
    split at h
    · rename_i opened
      split at h
      · cases h
      · rename_i name mid hname
        split at h
        · rename_i named hcolon
          split at h
          · cases h
          · rename_i v mid' hv
            dsimp only at h
            refine ⟨opened, name, named, v, rfl, ⟨mid, hname, hcolon⟩, ?_⟩
            split at h
            · rename_i hskip
              cases h
              exact .inl ⟨⟨mid', hv, hskip⟩, rfl⟩
            · rename_i left hskip
              exact .inr ⟨left, ⟨mid', hv, hskip⟩, h⟩
            · cases h
        · cases h
    · cases h
  · rintro ⟨opened, name, named, v, rfl, ⟨mid, hname, hcolon⟩,
      ⟨⟨mid', hv, hskip⟩, rfl⟩ | ⟨left, ⟨mid', hv, hskip⟩, h⟩⟩
    · simp [fields, hname, hcolon, hv, hskip]
    · simp [fields, hname, hcolon, hv, hskip, h]

section Steps

variable {fuel fuel' : Nat}

/-- A value extends if all items and fields do. -/
theorem value_step
    (hitems : ∀ depth, Extends Anything (items dialect fuel depth) (items dialect fuel' depth))
    (hfields : ∀ depth before,
      Extends Anything (fields dialect fuel depth before) (fields dialect fuel' depth before))
    (depth : Nat) :
    Extends (Stops isNumeric) (value dialect (fuel + 1) depth) (value dialect (fuel' + 1) depth) := by
  intro cs v rest h hrest
  cases value_eq_ok.1 h with
  | string h =>
    obtain ⟨used, rfl, htakes⟩ := string_extent dialect _ _ _ h trivial
    exact ⟨'"' :: used, rfl, htakes.anywhere.cons (.inl (by decide)) fun cs rest h =>
      value_eq_ok.2 (.string h)⟩
  | @emptyObject more _ hdepth h =>
    obtain ⟨ws, hws, hmore⟩ := exists_space more
    refine ⟨'\x7b' :: (ws ++ ['\x7d']), by rw [hmore, h]; simp, ?_⟩
    exact (takes_readMark '\x7d' (by decide) hws).anywhere.cons (.inl (by decide)) fun cs rest h =>
      value_eq_ok.2 (.emptyObject hdepth (readMark_eq_ok.1 h))
  | object hdepth h =>
    obtain ⟨used, rfl, htakes⟩ := (hfields _ _).space _ _ _ h trivial
    exact ⟨'\x7b' :: used, rfl, htakes.anywhere.cons (.inl (by decide)) fun cs rest h =>
      value_eq_ok.2 (.object hdepth h)⟩
  | @emptyList more _ hdepth h =>
    obtain ⟨ws, hws, hmore⟩ := exists_space more
    refine ⟨'[' :: (ws ++ [']']), by rw [hmore, h]; simp, ?_⟩
    exact (takes_readMark ']' (by decide) hws).anywhere.cons (.inl (by decide)) fun cs rest h =>
      value_eq_ok.2 (.emptyList hdepth (readMark_eq_ok.1 h))
  | list hdepth h =>
    obtain ⟨used, rfl, htakes⟩ := (hitems _).space _ _ _ h trivial
    exact ⟨'[' :: used, rfl, htakes.anywhere.cons (.inl (by decide)) fun cs rest h =>
      value_eq_ok.2 (.list hdepth h)⟩
  | scalar h =>
    obtain ⟨used, rfl, htakes⟩ := scalar_extent dialect _ _ _ h hrest
    exact ⟨used, rfl, htakes.imp fun cs rest h => value_eq_ok.2 (.scalar h)⟩

variable {depth : Nat}
  (hvalue : Extends (Stops isNumeric) (value dialect fuel depth) (value dialect fuel' depth))

include hvalue

/-- The items of a list extend if the first one and the others do. -/
theorem items_step
    (hitems : Extends Anything (items dialect fuel depth) (items dialect fuel' depth)) :
    Extends Anything (items dialect (fuel + 1) depth) (items dialect (fuel' + 1) depth) := by
  intro cs vs rest h _
  rcases items_eq_ok.1 h with ⟨v, hv, rfl⟩ | ⟨v, more, mid, hv, hmore, rfl⟩
  · obtain ⟨used, rfl, htakes⟩ := hvalue.upTo ']' (by decide) _ _ _ hv trivial
    exact ⟨used, rfl, htakes.imp fun cs rest h => items_eq_ok.2 (.inl ⟨v, h, rfl⟩)⟩
  · obtain ⟨used, rfl, htakes⟩ := hvalue.upTo ',' (by decide) _ _ _ hv trivial
    obtain ⟨used', rfl, htakes'⟩ := hitems.space _ _ _ hmore trivial
    have hboth := htakes.inTurn htakes' fun _ _ => trivial
    refine ⟨used ++ used', by rw [List.append_assoc], hboth.imp fun cs rest h => ?_⟩
    obtain ⟨mid, hv, hmore⟩ := inTurn_eq_ok.1 h
    exact items_eq_ok.2 (.inr ⟨v, more, mid, hv, hmore, rfl⟩)

/-- The fields of an object extend if the value of the first one and the others do. -/
theorem fields_step
    (hfields : ∀ before,
      Extends Anything (fields dialect fuel depth before) (fields dialect fuel' depth before))
    (before : Row) : Extends Anything (fields dialect (fuel + 1) depth before)
      (fields dialect (fuel' + 1) depth before) := by
  intro cs row rest h _
  have hname := (string_extent dialect).anywhere.upTo ':' (by decide)
  obtain ⟨opened, name, named, v, rfl, hnamed, ⟨hv, rfl⟩ | ⟨mid, hv, hmore⟩⟩ := fields_eq_ok.1 h
  · obtain ⟨used, rfl, htakes⟩ := hname _ _ _ hnamed trivial
    obtain ⟨used', rfl, htakes'⟩ := (hvalue.upTo '\x7d' (by decide)).space _ _ _ hv trivial
    have hboth := htakes.inTurn htakes' fun _ _ => trivial
    refine ⟨'"' :: (used ++ used'), by simp, hboth.cons (.inl (by decide)) fun cs rest h => ?_⟩
    obtain ⟨named, hnamed, hv⟩ := inTurn_eq_ok.1 h
    exact fields_eq_ok.2 ⟨cs, name, named, v, rfl, hnamed, .inl ⟨hv, rfl⟩⟩
  · obtain ⟨used, rfl, htakes⟩ := hname _ _ _ hnamed trivial
    obtain ⟨used', rfl, htakes'⟩ := (hvalue.upTo ',' (by decide)).space _ _ _ hv trivial
    obtain ⟨used'', rfl, htakes''⟩ := (hfields _).space _ _ _ hmore trivial
    have hall := htakes.inTurn (htakes'.inTurn htakes'' fun _ _ => trivial) fun _ _ => trivial
    refine ⟨'"' :: (used ++ (used' ++ used'')), by simp,
      hall.cons (.inl (by decide)) fun cs rest h => ?_⟩
    obtain ⟨named, hnamed, h⟩ := inTurn_eq_ok.1 h
    obtain ⟨mid, hv, hmore⟩ := inTurn_eq_ok.1 h
    exact fields_eq_ok.2 ⟨cs, name, named, v, rfl, hnamed, .inr ⟨mid, hv, hmore⟩⟩

end Steps

/-- **A value is read alike wherever it stands,** and so are the items of a list and the fields of
an object: what stands behind them is not looked at.  With more behind them there is more fuel,
which changes nothing. -/
theorem value_extent (dialect : Dialect) (fuel : Nat) :
    ∀ fuel', fuel ≤ fuel' →
      (∀ depth, Extends (Stops isNumeric) (value dialect fuel depth) (value dialect fuel' depth)) ∧
      (∀ depth, Extends Anything (items dialect fuel depth) (items dialect fuel' depth)) ∧
      ∀ depth before,
        Extends Anything (fields dialect fuel depth before) (fields dialect fuel' depth before) := by
  induction fuel with
  | zero =>
    refine fun fuel' _ => ⟨fun depth cs v rest h => ?_, fun depth cs vs rest h => ?_,
      fun depth before cs row rest h => ?_⟩
    · simp [value] at h
    · simp [items] at h
    · simp [fields] at h
  | succ fuel ih =>
    rintro (_ | fuel') hle
    · exact absurd hle (Nat.not_succ_le_zero fuel)
    · obtain ⟨hvalue, hitems, hfields⟩ := ih fuel' (Nat.le_of_succ_le_succ hle)
      exact ⟨value_step hitems hfields, fun depth => items_step (hvalue depth) (hitems depth),
        fun depth => fields_step (hvalue depth) (hfields depth)⟩

/-- A document is a value between white space. -/
theorem read_eq_ok {document : String} {v : Value} :
    read dialect document = .ok v ↔
      document.toList.head? ≠ some '\uFEFF' ∧
        ∃ rest, value dialect (2 * document.toList.length + 2) dialect.depth
          (skipSpace document.toList) = .ok (v, rest) ∧ skipSpace rest = [] := by
  constructor
  · intro h
    unfold read at h
    dsimp only at h
    split at h
    · cases h
    · rename_i hmark
      split at h
      · cases h
      · rename_i w rest hvalue
        split at h
        · rename_i hend
          cases h
          exact ⟨hmark, rest, hvalue, List.isEmpty_iff.1 hend⟩
        · cases h
  · rintro ⟨hmark, rest, hvalue, hend⟩
    simp only [read, if_neg hmark, hvalue, hend, List.isEmpty_nil, if_true]

/-- A document takes the characters of its value, and white space may stand behind them. -/
theorem exists_of_read {document : String} {v : Value} (h : read dialect document = .ok v)
    {fuel : Nat} (hfuel : 2 * document.toList.length + 2 ≤ fuel) :
    ∃ used rest, document.toList = used ++ rest ∧ (∀ c ∈ rest, isSpace c = true) ∧
      Takes (Stops isNumeric) (fun cs => value dialect fuel dialect.depth (skipSpace cs)) used v := by
  obtain ⟨-, rest, hvalue, hend⟩ := read_eq_ok.1 h
  obtain ⟨ws, hws, hrest⟩ := exists_space rest
  rw [hend, List.append_nil] at hrest
  subst hrest
  have hstops : Stops isNumeric rest := by
    simpa using stops_space hws (stops_nil (p := isNumeric))
  obtain ⟨used, hsplit, htakes⟩ :=
    ((value_extent dialect _ fuel hfuel).1 dialect.depth).space _ v rest hvalue hstops
  exact ⟨used, rest, hsplit, hws, htakes⟩

/-- **A document holds no control characters but white space.** -/
theorem printed_of_read {document : String} {v : Value} (h : read dialect document = .ok v) :
    ∀ c ∈ document.toList, Printed c := by
  obtain ⟨used, rest, hsplit, hrest, htakes⟩ := exists_of_read h (Nat.le_refl _)
  intro c hc
  rw [hsplit] at hc
  exact (List.mem_append.1 hc).elim (htakes.printed c) fun hc => .inr (hrest c hc)

/-- **A document with more behind it is no document,** unless this is white space or goes on with a
number. -/
theorem read_append_ne {cs more : List Char} {c : Char} {v : Value}
    (h : read dialect (String.ofList cs) = .ok v) (hnumeric : isNumeric c = false)
    (hspace : isSpace c = false) (w : Value) :
    read dialect (String.ofList (cs ++ c :: more)) ≠ .ok w := by
  intro hmore
  obtain ⟨-, rest', hvalue, hend⟩ := read_eq_ok.1 hmore
  have hfuel : 2 * (String.ofList cs).toList.length + 2 ≤
      2 * (String.ofList (cs ++ c :: more)).toList.length + 2 := by
    simp only [String.toList_ofList, List.length_append]
    omega
  obtain ⟨used, rest, hsplit, hrest, htakes⟩ := exists_of_read h hfuel
  rw [String.toList_ofList] at hsplit
  subst hsplit
  have hread := htakes.reads (rest ++ c :: more) (stops_space hrest (stops_cons.2 hnumeric))
  rw [String.toList_ofList, List.append_assoc] at hvalue hread
  rw [hread] at hvalue
  cases hvalue
  rw [skipSpace_append hrest (stops_cons.2 hspace)] at hend
  cases hend

/-- A document starts, behind white space, with a character of ASCII that is no white space. -/
theorem exists_start_of_read {document : String} {v : Value} (h : read dialect document = .ok v) :
    ∃ ws c more, document.toList = ws ++ c :: more ∧ (∀ d ∈ ws, isSpace d = true) ∧
      0x20 < c.toNat ∧ c.toNat < 0x80 := by
  obtain ⟨-, rest, hvalue, -⟩ := read_eq_ok.1 h
  obtain ⟨ws, hws, hsplit⟩ := exists_space document.toList
  suffices hstart : ∃ c more, skipSpace document.toList = c :: more ∧ 0x20 < c.toNat ∧
      c.toNat < 0x80 by
    obtain ⟨c, more, hskip, hc⟩ := hstart
    exact ⟨ws, c, more, hskip ▸ hsplit, hws, hc⟩
  generalize skipSpace document.toList = cs at hvalue
  cases value_eq_ok.1 hvalue with
  | string h => exact ⟨'"', _, rfl, by decide, by decide⟩
  | emptyObject hdepth h | object hdepth h => exact ⟨'\x7b', _, rfl, by decide, by decide⟩
  | emptyList hdepth h | list hdepth h => exact ⟨'[', _, rfl, by decide, by decide⟩
  | scalar h =>
    obtain ⟨c, more, hcs, hlow, hhigh, -⟩ := scalar_start h
    exact ⟨c, more, hcs, hlow, hhigh⟩

end ReadGate.Json
