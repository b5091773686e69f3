import Mathlib.Data.List.Basic
import ReadGate.Schema

/-!
# Looking names up

Names are compared up to letter case.  A table is looked for among all tables, but a column in the
first table of its name only.  So a column that is found is there; but a table whose name differs
from that of an earlier one in case alone stands behind it, and its columns are found only as far as
the earlier table has them too.

* `Schema.Lists` — some table of a name has a column of a name.
* `Schema.Leads` — the first table of a name.
* `Schema.Hides` — a column of a later table of the same name is hidden behind the first one.
* `hasColumn_complete_iff` — the look-ups agree if and only if the schema hides no column.
-/

namespace ReadGate.Schema

variable {s : Schema} {table column : String} {t : String × TableDescriptor}
  {after : List (String × TableDescriptor)}

/-! ## Names -/

theorem sameName_iff {a b : String} : sameName a b = true ↔ Text.lower a = Text.lower b := by
  rw [sameName, beq_iff_eq]

theorem sameName_refl (a : String) : sameName a a = true :=
  sameName_iff.2 rfl

/-- Names that are the same have the same names. -/
theorem sameName_congr {a b : String} (h : sameName a b = true) (c : String) :
    sameName c a = sameName c b := by
  rw [sameName, sameName, sameName_iff.1 h]

/-! ## What is found -/

/-- Some table of that name has a column of that name. -/
def Lists (s : Schema) (table column : String) : Prop :=
  ∃ t ∈ s.tables, sameName t.1 table = true ∧ ∃ c ∈ t.2.columns, sameName c.name column = true

/-- The table is the first one of that name, and these stand behind it. -/
structure Leads (s : Schema) (table : String) (t : String × TableDescriptor)
    (after : List (String × TableDescriptor)) : Prop where
  named : sameName t.1 table = true
  place : ∃ before, s.tables = before ++ t :: after ∧ ∀ u ∈ before, sameName u.1 table = false

/-- A later table of the same name has a column that the first one has not. -/
def Hides (s : Schema) : Prop :=
  ∃ t after, s.Leads t.1 t after ∧ ∃ u ∈ after, sameName u.1 t.1 = true ∧
    ∃ c ∈ u.2.columns, ∀ d ∈ t.2.columns, sameName d.name c.name = false

theorem find?_eq_some_iff_leads :
    s.tables.find? (fun t => sameName t.1 table) = some t ↔ ∃ after, s.Leads table t after := by
  rw [List.find?_eq_some_iff_append]
  constructor
  · rintro ⟨hnamed, before, after, hplace, hbefore⟩
    exact ⟨after, hnamed, before, hplace, fun u hu => by simpa using hbefore u hu⟩
  · rintro ⟨after, hnamed, before, hplace, hbefore⟩
    exact ⟨hnamed, before, after, hplace, fun u hu => by simp [hbefore u hu]⟩

/-- There is one first table of a name. -/
theorem Leads.unique {t' : String × TableDescriptor} {after' : List (String × TableDescriptor)}
    (h : s.Leads table t after) (h' : s.Leads table t' after') : t = t' := by
  have hfind := find?_eq_some_iff_leads.2 ⟨after, h⟩
  rw [find?_eq_some_iff_leads.2 ⟨after', h'⟩] at hfind
  exact (Option.some.inj hfind).symm

theorem hasTable_iff : s.hasTable table = true ↔ ∃ t ∈ s.tables, sameName t.1 table = true :=
  List.any_eq_true

/-- A column is found in the first table of the name, or not at all. -/
theorem hasColumn_iff :
    s.hasColumn table column = true ↔
      ∃ t after, s.Leads table t after ∧ ∃ c ∈ t.2.columns, sameName c.name column = true := by
  unfold hasColumn
  cases hfind : s.tables.find? fun t => sameName t.1 table with
  | none =>
    refine iff_of_false Bool.false_ne_true ?_
    rintro ⟨t, after, hleads, -⟩
    rw [find?_eq_some_iff_leads.2 ⟨after, hleads⟩] at hfind
    cases hfind
  | some t =>
    obtain ⟨after, hleads⟩ := find?_eq_some_iff_leads.1 hfind
    rw [List.any_eq_true]
    refine ⟨fun hcolumn => ⟨t, after, hleads, hcolumn⟩, ?_⟩
    rintro ⟨other, _, hother, hcolumn⟩
    rwa [hleads.unique hother]

theorem Leads.mem (h : s.Leads table t after) :
    t ∈ s.tables := by
  obtain ⟨before, hplace, -⟩ := h.place
  rw [hplace]
  exact List.mem_append_right before List.mem_cons_self

/-- Of the tables of a name, one is the first, and the others stand behind it. -/
theorem exists_leads {u : String × TableDescriptor} (hu : u ∈ s.tables)
    (hnamed : sameName u.1 table = true) :
    ∃ t after, s.Leads table t after ∧ (u = t ∨ u ∈ after) := by
  have hsome : (s.tables.find? fun t => sameName t.1 table).isSome := by
    rw [List.find?_isSome]
    exact ⟨u, hu, hnamed⟩
  obtain ⟨t, hfind⟩ := Option.isSome_iff_exists.1 hsome
  obtain ⟨after, hleads⟩ := find?_eq_some_iff_leads.1 hfind
  refine ⟨t, after, hleads, ?_⟩
  obtain ⟨before, hplace, hbefore⟩ := hleads.place
  rw [hplace, List.mem_append, List.mem_cons] at hu
  refine hu.resolve_left fun hearlier => ?_
  rw [hbefore u hearlier] at hnamed
  cases hnamed

/-- The first table of a name is the first one of its own name. -/
theorem Leads.own (h : s.Leads table t after) :
    s.Leads t.1 t after := by
  obtain ⟨before, hplace, hbefore⟩ := h.place
  refine ⟨sameName_refl t.1, before, hplace, fun u hu => ?_⟩
  rw [sameName_congr h.named, hbefore u hu]

/-! ## Agreement -/

theorem lists_of_hasColumn (h : s.hasColumn table column = true) : s.Lists table column := by
  obtain ⟨t, after, hleads, hcolumn⟩ := hasColumn_iff.1 h
  exact ⟨t, hleads.mem, hleads.named, hcolumn⟩

/-- Nothing but a hidden column is missed. -/
theorem hasColumn_of_lists (hclear : ¬ s.Hides) (h : s.Lists table column) :
    s.hasColumn table column = true := by
  obtain ⟨u, hu, hnamed, c, hc, hcolumn⟩ := h
  obtain ⟨t, after, hleads, rfl | hlater⟩ := exists_leads hu hnamed
  · exact hasColumn_iff.2 ⟨u, after, hleads, c, hc, hcolumn⟩
  · have hsame : sameName u.1 t.1 = true := by rw [sameName_congr hleads.named, hnamed]
    obtain ⟨d, hd, hfound⟩ : ∃ d ∈ t.2.columns, sameName d.name c.name = true := by
      by_contra hmissing
      refine hclear ⟨t, after, hleads.own, u, hlater, hsame, c, hc, fun d hd => ?_⟩
      exact Bool.eq_false_iff.2 fun hfound => hmissing ⟨d, hd, hfound⟩
    rw [sameName_congr hcolumn] at hfound
    exact hasColumn_iff.2 ⟨t, after, hleads, d, hd, hfound⟩

/-- A hidden column is missed. -/
theorem exists_missed_of_hides (h : s.Hides) :
    ∃ table column, s.Lists table column ∧ s.hasTable table = true ∧
      s.hasColumn table column = false := by
  obtain ⟨t, after, hleads, u, hu, hsame, c, hc, hmissing⟩ := h
  obtain ⟨before, hplace, -⟩ := hleads.place
  have humem : u ∈ s.tables := by
    rw [hplace]
    exact List.mem_append_right before (List.mem_cons_of_mem t hu)
  refine ⟨t.1, c.name, ⟨u, humem, hsame, c, hc, sameName_refl c.name⟩,
    hasTable_iff.2 ⟨u, humem, hsame⟩, Bool.eq_false_iff.2 fun hfound => ?_⟩
  obtain ⟨first, _, hfirst, d, hd, hcolumn⟩ := hasColumn_iff.1 hfound
  rw [← hleads.unique hfirst] at hd
  rw [hmissing d hd] at hcolumn
  cases hcolumn

/-- **The look-ups agree if and only if the schema hides no column.**  A table is found if there is
one of the name, and a column if the first table of the name has it; a column that is found is one
of some table of the name, and that table is found too.  All columns of all tables of a name are
found if and only if no table has a column that the first table of its name has not. -/
theorem hasColumn_complete_iff (s : Schema) :
    (∀ table, s.hasTable table = true ↔ ∃ t ∈ s.tables, sameName t.1 table = true) ∧
    (∀ table column, s.hasColumn table column = true ↔
      ∃ t after, s.Leads table t after ∧ ∃ c ∈ t.2.columns, sameName c.name column = true) ∧
    (∀ table column, s.hasColumn table column = true →
      s.hasTable table = true ∧ s.Lists table column) ∧
    ((∀ table column, s.hasColumn table column = true ↔ s.Lists table column) ↔ ¬ s.Hides) := by
  refine ⟨fun _ => hasTable_iff, fun _ _ => hasColumn_iff, fun table column hfound => ?_, ?_, ?_⟩
  · have hlists := lists_of_hasColumn hfound
    refine ⟨?_, hlists⟩
    obtain ⟨t, ht, hnamed, -⟩ := hlists
    exact hasTable_iff.2 ⟨t, ht, hnamed⟩
  · intro hagree hhides
    obtain ⟨table, column, hlists, -, hmissed⟩ := exists_missed_of_hides hhides
    rw [(hagree table column).2 hlists] at hmissed
    cases hmissed
  · exact fun hclear table column => ⟨lists_of_hasColumn, hasColumn_of_lists hclear⟩

/-- Two tables whose names differ in case only, each with a column of its own. -/
def twoCases : Schema :=
  ⟨[("Users", ⟨"Users", "", [⟨"id", "integer", false, none⟩]⟩),
    ("users", ⟨"users", "", [⟨"email", "text", true, none⟩]⟩)]⟩

/-- The second table is found under the name of both, and its column is not. -/
theorem hasColumn_complete_iff_twoCases :
    twoCases.hasTable "users" = true ∧ twoCases.Lists "users" "email" ∧
      twoCases.hasColumn "users" "email" = false ∧ twoCases.Hides := by
  obtain ⟨htable, -, -, hcomplete⟩ := hasColumn_complete_iff twoCases
  have hlists : twoCases.Lists "users" "email" :=
    ⟨_, List.mem_cons_of_mem _ List.mem_cons_self, by decide, _, List.mem_cons_self, by decide⟩
  have hmissed : twoCases.hasColumn "users" "email" = false := by decide
  refine ⟨(htable "users").2 ⟨_, List.mem_cons_self, by decide⟩, hlists, hmissed, ?_⟩
  by_contra hclear
  rw [(hcomplete.2 hclear "users" "email").2 hlists] at hmissed
  cases hmissed

end ReadGate.Schema
