import Mathlib.Data.List.Infix
import ReadGate.Postgres.Database
import ReadGate.Proofs.Number.Numeral

/-!
# What the text of the settings tells

A connection is opened with one text, in which the settings stand behind marks such as ` user=`.
Nothing is put around a setting, so a setting that holds a mark itself can be read as two, and other
settings have the same text.  A mark holds one space, in front; so marks do not overlap, and where
one text is cut in two ways, one of the cuts lies behind the other.

* `Mark`, `Mark.cut_cases` — the marks, and two ways to cut a text.
* `Database.Unambiguous` — no setting holds a mark that can be taken for one of the text's own.
* `Database.body_of_text` — the timeout stands last and is always told.
* `Database.connectionString_unambiguous_iff` — the settings that their text tells.
-/

namespace ReadGate.Postgres

/-! ## Marks -/

/-- What stands in front of each setting but the first. -/
inductive Mark
  | port
  | name
  | user
  | password
  | timeout
  deriving DecidableEq

/-- The characters of a mark behind its space. -/
def Mark.key : Mark → List Char
  | port => ['p', 'o', 'r', 't', '=']
  | name => ['d', 'b', 'n', 'a', 'm', 'e', '=']
  | user => ['u', 's', 'e', 'r', '=']
  | password => ['p', 'a', 's', 's', 'w', 'o', 'r', 'd', '=']
  | timeout =>
    ['c', 'o', 'n', 'n', 'e', 'c', 't', '_', 't', 'i', 'm', 'e', 'o', 'u', 't', '=']

/-- The characters of a mark. -/
def Mark.text (m : Mark) : List Char :=
  ' ' :: m.key

/-- The characters of an integer. -/
def digits (n : ShortInt) : List Char :=
  (toString n.value).toList

/-- The text has the mark somewhere. -/
def Mark.In (m : Mark) (cs : List Char) : Prop :=
  m.text <:+: cs

/-- The text has the mark of a port somewhere, and behind it an integer with the mark of a name. -/
def HoldsPort (cs : List Char) : Prop :=
  ∃ (x : List Char) (n : ShortInt) (y : List Char),
    cs = x ++ (Mark.port.text ++ (digits n ++ (Mark.name.text ++ y)))

section Marks

variable {m m' : Mark} {a b a' b' : List Char}

/-- A mark begins with a space and has no other. -/
theorem Mark.space_notMem_key (m : Mark) : ' ' ∉ m.key := by
  cases m <;> decide

/-- No mark begins another. -/
theorem Mark.eq_of_append (h : m.text ++ b = m'.text ++ b') : m = m' ∧ b = b' := by
  have hm : m = m' := by
    cases m <;> cases m' <;> first | rfl | simp [Mark.text, Mark.key] at h
  subst hm
  exact ⟨rfl, List.append_cancel_left h⟩

theorem Mark.ne_append (m : Mark) (a b : List Char) : a ≠ a ++ (m.text ++ b) := fun h =>
  List.cons_ne_nil _ _ (List.append_right_eq_self.1 h.symm)

/-- What stands in front of a mark in a text is another text. -/
theorem Mark.ne_front {s : String} (h : s.toList = a ++ (m.text ++ b)) : s ≠ String.ofList a := by
  rintro rfl
  rw [String.toList_ofList] at h
  exact m.ne_append a b h

/-- A text with a mark and more behind it is another text. -/
theorem Mark.ne_longer (m : Mark) (s : String) (b : List Char) :
    s ≠ String.ofList (s.toList ++ (m.text ++ b)) := by
  rw [Ne, ← String.toList_inj, String.toList_ofList]
  exact m.ne_append s.toList b

theorem Mark.in_of_eq {cs x y : List Char} (h : cs = x ++ (m.text ++ y)) : m.In cs :=
  ⟨x, y, by rw [h, List.append_assoc]⟩

/-- A mark that does not stand first stands behind the one that does. -/
theorem Mark.exists_behind {z : List Char} (h : m.text ++ b = z ++ (m'.text ++ b')) (hz : z ≠ []) :
    ∃ x, z = m.text ++ x ∧ b = x ++ (m'.text ++ b') := by
  rcases List.append_eq_append_iff.1 h with ⟨x, hx, hb⟩ | ⟨x, hm, hb⟩
  · exact ⟨x, hx, hb⟩
  · -- a rest of the first mark would begin with the space of the second
    obtain ⟨c, z', rfl⟩ := List.exists_cons_of_ne_nil hz
    cases x with
    | nil =>
      rw [List.append_nil] at hm
      exact ⟨[], by rw [List.append_nil, hm], by simpa using hb.symm⟩
    | cons d x =>
      obtain ⟨hd, -⟩ := List.cons.inj hb
      obtain ⟨-, hkey⟩ := List.cons.inj hm
      refine absurd ?_ m.space_notMem_key
      rw [hkey, hd]
      exact List.mem_append_right z' List.mem_cons_self

/-- **Two ways to cut a text at a mark**: they are the same, or one cut lies behind the other. -/
theorem Mark.cut_cases (h : a ++ (m.text ++ b) = a' ++ (m'.text ++ b')) :
    (m = m' ∧ a = a' ∧ b = b') ∨
    (∃ x, a' = a ++ (m.text ++ x) ∧ b = x ++ (m'.text ++ b')) ∨
    (∃ x, a = a' ++ (m'.text ++ x) ∧ b' = x ++ (m.text ++ b)) := by
  rcases List.append_eq_append_iff.1 h with ⟨z, rfl, hz⟩ | ⟨z, rfl, hz⟩
  · by_cases hnil : z = []
    · subst hnil
      obtain ⟨rfl, rfl⟩ := Mark.eq_of_append hz
      exact .inl ⟨rfl, (List.append_nil a).symm, rfl⟩
    · obtain ⟨x, rfl, hb⟩ := Mark.exists_behind hz hnil
      exact .inr (.inl ⟨x, rfl, hb⟩)
  · by_cases hnil : z = []
    · subst hnil
      obtain ⟨rfl, rfl⟩ := Mark.eq_of_append hz
      exact .inl ⟨rfl, List.append_nil a', rfl⟩
    · obtain ⟨x, rfl, hb⟩ := Mark.exists_behind hz hnil
      exact .inr (.inr ⟨x, rfl, hb⟩)

/-- In front of a cut that does not hold the mark, the mark does not stand. -/
theorem Mark.cut_behind (h : a ++ (m.text ++ b) = a' ++ (m'.text ++ b')) (ha : ¬ m'.In a) :
    (m = m' ∧ a = a' ∧ b = b') ∨
    ∃ x, a' = a ++ (m.text ++ x) ∧ b = x ++ (m'.text ++ b') := by
  rcases Mark.cut_cases h with heq | hbehind | ⟨x, hx, -⟩
  · exact .inl heq
  · exact .inr hbehind
  · exact absurd (Mark.in_of_eq hx) ha

/-! ## Integers -/

theorem notMem_toDigits {c : Char} (h : c.isDigit = false) (k : Nat) : c ∉ Nat.toDigits 10 k := by
  intro hmem
  rw [Nat.isDigit_of_mem_toDigits (by decide) (by decide) hmem] at h
  cases h

theorem space_notMem_digits (n : ShortInt) : ' ' ∉ digits n := by
  obtain ⟨n, -⟩ := n
  cases n with
  | ofNat k =>
    show ' ' ∉ (toString k).toList
    rw [Nat.toString_eq_repr, Nat.toList_repr]
    exact notMem_toDigits (by decide) k
  | negSucc k =>
    show ' ' ∉ ("-" ++ toString (k + 1)).toList
    rw [String.toList_append, Nat.toString_eq_repr, Nat.toList_repr, List.mem_append, not_or]
    exact ⟨by decide, notMem_toDigits (by decide) (k + 1)⟩

/-- An integer that is short is read back from its characters. -/
theorem digits_inj {n n' : ShortInt} (h : digits n = digits n') : n = n' := by
  have hread := (Numeral.readInt_toString n.value).1 n.short
  rw [String.toList_inj.1 h, (Numeral.readInt_toString n'.value).1 n'.short] at hread
  exact ShortInt.ext (Except.ok.inj hread).symm

theorem not_in_digits (m : Mark) (n : ShortInt) : ¬ m.In (digits n) := fun h =>
  space_notMem_digits n (h.subset List.mem_cons_self)

/-- An integer with the mark of a name behind it is met before any other mark. -/
theorem exists_digits_name {n : ShortInt} {x y : List Char} (hm : m ≠ .name)
    (h : digits n ++ (Mark.name.text ++ y) = x ++ (m.text ++ b)) :
    ∃ z, x = digits n ++ (Mark.name.text ++ z) ∧ y = z ++ (m.text ++ b) := by
  rcases Mark.cut_behind h (not_in_digits m n) with ⟨hname, -⟩ | hbehind
  · exact absurd hname.symm hm
  · exact hbehind

end Marks

/-! ## The text -/

namespace Database

/-- The settings agree, but for the function that query texts are handed to. -/
structure SameSettings (d e : Database) : Prop where
  host : d.host = e.host
  port : d.port = e.port
  name : d.name = e.name
  user : d.user = e.user
  password : d.password = e.password
  connectTimeout : d.connectTimeout = e.connectTimeout

/-- No setting holds a mark that can be taken for one of the marks of the text. -/
structure Unambiguous (d : Database) : Prop where
  host : ¬ HoldsPort d.host.toList
  name : ¬ HoldsPort d.name.toList ∧ ¬ Mark.user.In d.name.toList
  user : ¬ Mark.user.In d.user.toList ∧ ¬ Mark.password.In d.user.toList
  password : ¬ Mark.password.In d.password.toList

/-- The text from the user on, without the timeout. -/
def credentials (d : Database) : List Char :=
  d.user.toList ++ (Mark.password.text ++ d.password.toList)

/-- The text from the port on, without the timeout. -/
def target (d : Database) : List Char :=
  digits d.port ++ (Mark.name.text ++ (d.name.toList ++ (Mark.user.text ++ d.credentials)))

/-- The text from the host on, without the timeout. -/
def body (d : Database) : List Char :=
  d.host.toList ++ (Mark.port.text ++ d.target)

variable {d e : Database}

theorem connectionString_eq (d : Database) :
    d.connectionString =
      "host=" ++ d.host ++ " port=" ++ toString d.port.value ++ " dbname=" ++ d.name ++ " user=" ++
        d.user ++ " password=" ++ d.password ++ " " ++
        ("connect_timeout=" ++ toString d.connectTimeout.value) :=
  rfl

theorem toList_connectionString (d : Database) :
    d.connectionString.toList =
      "host=".toList ++ (d.body ++ (Mark.timeout.text ++ digits d.connectTimeout)) := by
  have hport : " port=".toList = Mark.port.text := by decide
  have hname : " dbname=".toList = Mark.name.text := by decide
  have huser : " user=".toList = Mark.user.text := by decide
  have hpassword : " password=".toList = Mark.password.text := by decide
  have htimeout : " ".toList ++ "connect_timeout=".toList = Mark.timeout.text := by decide
  rw [body, target, credentials, ← hport, ← hname, ← huser, ← hpassword, ← htimeout]
  simp only [connectionString_eq, String.toList_append, List.append_assoc]
  rfl

theorem text_of_body (hbody : e.body = d.body) (htimeout : e.connectTimeout = d.connectTimeout) :
    e.connectionString = d.connectionString := by
  rw [← String.toList_inj, toList_connectionString, toList_connectionString, hbody, htimeout]

/-- The timeout stands behind the last space. -/
theorem body_of_text (h : d.connectionString = e.connectionString) :
    d.body = e.body ∧ d.connectTimeout = e.connectTimeout := by
  rw [← String.toList_inj, toList_connectionString, toList_connectionString,
    List.append_cancel_left_eq] at h
  rcases Mark.cut_cases h with ⟨-, hbody, hdigits⟩ | ⟨x, -, hdigits⟩ | ⟨x, -, hdigits⟩
  · exact ⟨hbody, digits_inj hdigits⟩
  · exact absurd (Mark.in_of_eq hdigits) (not_in_digits .timeout d.connectTimeout)
  · exact absurd (Mark.in_of_eq hdigits) (not_in_digits .timeout e.connectTimeout)

/-! ## Settings that the text tells -/

/-- The mark of a user does not stand before that of a password, if the user does not hold the first
and the password not the second. -/
theorem credentials_ne (huser : ¬ Mark.user.In d.user.toList)
    (hpassword : ¬ Mark.password.In d.password.toList) (x : List Char) :
    d.credentials ≠ x ++ (Mark.user.text ++ e.credentials) := by
  intro h
  rcases Mark.cut_behind h huser with ⟨hmark, -⟩ | ⟨y, -, hbehind⟩
  · cases hmark
  · rw [credentials, ← List.append_assoc Mark.user.text, ← List.append_assoc y] at hbehind
    exact hpassword (Mark.in_of_eq hbehind)

theorem credentials_of_eq (huser : ¬ Mark.password.In d.user.toList)
    (hpassword : ¬ Mark.password.In d.password.toList) (h : d.credentials = e.credentials) :
    d.user = e.user ∧ d.password = e.password := by
  rcases Mark.cut_behind h huser with ⟨-, hu, hp⟩ | ⟨x, -, hbehind⟩
  · exact ⟨String.toList_inj.1 hu, String.toList_inj.1 hp⟩
  · exact absurd (Mark.in_of_eq hbehind) hpassword

/-- Behind the mark of its port, the text holds no other mark of a port with an integer and a name
behind it that could be another text's own. -/
theorem target_ne (hd : d.Unambiguous) (x : List Char) :
    d.target ≠ x ++ (Mark.port.text ++ e.target) := by
  intro h
  obtain ⟨y, -, hname⟩ := exists_digits_name (m := .port) nofun h
  rcases Mark.cut_cases hname with ⟨hmark, -⟩ | ⟨z, -, hbehind⟩ | ⟨z, hz, htarget⟩
  · cases hmark
  · -- the port stands in the credentials, and its user with it
    refine credentials_ne (e := e) hd.user.1 hd.password
      (z ++ (Mark.port.text ++ (digits e.port ++ (Mark.name.text ++ e.name.toList)))) ?_
    rw [hbehind, target]
    simp only [List.append_assoc]
  · -- the port stands in the name
    obtain ⟨v, rfl, -⟩ := exists_digits_name (m := .user) nofun htarget
    exact hd.name.1 ⟨y, e.port, v, hz⟩

theorem target_of_eq (hd : d.Unambiguous) (h : d.target = e.target) :
    d.port = e.port ∧ d.name = e.name ∧ d.credentials = e.credentials := by
  rcases Mark.cut_behind h (not_in_digits .name d.port) with ⟨-, hport, hrest⟩ | ⟨x, hx, -⟩
  · rcases Mark.cut_behind hrest hd.name.2 with ⟨-, hname, hcredentials⟩ | ⟨x, -, hbehind⟩
    · exact ⟨digits_inj hport, String.toList_inj.1 hname, hcredentials⟩
    · exact absurd hbehind (credentials_ne hd.user.1 hd.password x)
  · exact absurd (Mark.in_of_eq hx) (not_in_digits .name e.port)

/-- The text of settings that hold none of these marks tells all of them. -/
theorem Unambiguous.same (hd : d.Unambiguous) (h : d.connectionString = e.connectionString) :
    d.SameSettings e := by
  obtain ⟨hbody, htimeout⟩ := body_of_text h
  rcases Mark.cut_cases hbody with ⟨-, hhost, htarget⟩ | ⟨x, -, hbehind⟩ | ⟨x, hx, htarget⟩
  · obtain ⟨hport, hname, hcredentials⟩ := target_of_eq hd htarget
    obtain ⟨huser, hpassword⟩ := credentials_of_eq hd.user.2 hd.password hcredentials
    exact ⟨String.toList_inj.1 hhost, hport, hname, huser, hpassword, htimeout⟩
  · exact absurd hbehind (target_ne hd x)
  · obtain ⟨v, rfl, -⟩ := exists_digits_name (m := .port) nofun htarget
    exact absurd ⟨e.host.toList, e.port, v, hx⟩ hd.host

/-! ## Settings that it does not tell -/

/-- Settings whose text tells all of them hold none of these marks: each mark in a setting can be
taken for the text's own, and what stands behind it for a part of the next setting. -/
theorem Unambiguous.of_same
    (h : ∀ e : Database, e.connectionString = d.connectionString → d.SameSettings e) :
    d.Unambiguous := by
  refine ⟨?host, ⟨?namePort, ?nameUser⟩, ⟨?userUser, ?userPassword⟩, ?password⟩
  case host =>
    rintro ⟨x, n, y, hx⟩
    have hsame := h { d with
      host := .ofList x
      port := n
      name := .ofList (y ++ (Mark.port.text ++ (digits d.port ++ (Mark.name.text ++ d.name.toList)))) }
      (text_of_body (by simp [body, target, credentials, hx]) rfl)
    exact Mark.ne_front hx hsame.host
  case namePort =>
    rintro ⟨x, n, y, hx⟩
    have hsame := h { d with
      host := .ofList (d.host.toList ++ (Mark.port.text ++ (digits d.port ++ (Mark.name.text ++ x))))
      port := n
      name := .ofList y }
      (text_of_body (by simp [body, target, credentials, hx]) rfl)
    exact Mark.port.ne_longer d.host (digits d.port ++ (Mark.name.text ++ x)) hsame.host
  case nameUser =>
    rintro ⟨x, y, hx⟩
    have hsame := h { d with
      name := .ofList x
      user := .ofList (y ++ (Mark.user.text ++ d.user.toList)) }
      (text_of_body (by simp [body, target, credentials, ← hx]) rfl)
    exact Mark.ne_front (by rw [← hx, List.append_assoc]) hsame.name
  case userUser =>
    rintro ⟨x, y, hx⟩
    have hsame := h { d with
      name := .ofList (d.name.toList ++ (Mark.user.text ++ x))
      user := .ofList y }
      (text_of_body (by simp [body, target, credentials, ← hx]) rfl)
    exact Mark.user.ne_longer d.name x hsame.name
  case userPassword =>
    rintro ⟨x, y, hx⟩
    have hsame := h { d with
      user := .ofList x
      password := .ofList (y ++ (Mark.password.text ++ d.password.toList)) }
      (text_of_body (by simp [body, target, credentials, ← hx]) rfl)
    exact Mark.ne_front (by rw [← hx, List.append_assoc]) hsame.user
  case password =>
    rintro ⟨x, y, hx⟩
    have hsame := h { d with
      user := .ofList (d.user.toList ++ (Mark.password.text ++ x))
      password := .ofList y }
      (text_of_body (by simp [body, target, credentials, ← hx]) rfl)
    exact Mark.password.ne_longer d.user x hsame.user

/-- **The settings that their text tells**: the timeout always, and the others if and only if none
holds a mark that can be taken for one of the text's own. -/
theorem connectionString_unambiguous_iff (d : Database) :
    (∀ e : Database, e.connectionString = d.connectionString →
      e.connectTimeout = d.connectTimeout) ∧
    ((∀ e : Database, e.connectionString = d.connectionString → d.SameSettings e) ↔
      d.Unambiguous) :=
  ⟨fun _ h => (body_of_text h).2, .of_same, fun hd _ h => hd.same h.symm⟩

/-- Two users with two passwords, whose texts are the same. -/
theorem connectionString_unambiguous_iff_password :
    let port : ShortInt := ⟨5432, by decide⟩
    let timeout : ShortInt := ⟨10, by decide⟩
    let d : Database := ⟨"localhost", port, "postgres", "a password=b", "c", timeout, none⟩
    let e : Database := ⟨"localhost", port, "postgres", "a", "b password=c", timeout, none⟩
    d.connectionString = e.connectionString ∧ ¬ d.SameSettings e ∧ ¬ d.Unambiguous := by
  intro port timeout d e
  have htext : d.connectionString = e.connectionString := by decide
  have huser : ¬ d.SameSettings e := fun h => absurd h.user (by decide)
  exact ⟨htext, huser, fun hd => huser ((connectionString_unambiguous_iff d).2.2 hd e htext.symm)⟩

end Database

end ReadGate.Postgres
