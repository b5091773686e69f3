import ReadGate.Proofs.Postgrest.Parameters
import ReadGate.Proofs.Rule.Inert

/-!
# Names in requests

The name of a table is put into the path of a request as it is, and so is the name of a column that
a filter compares, as the name of a parameter.  Names of translated queries have no sign that would
mean something there.

* `Clear`, `clear_of_inert` — a name without signs of a URL.
* `ClearRequest` — a request for a table whose name, like those of all parameters, is clear.
* `executeStructured_clear` — a query with such names makes such requests only.
* `translated_inert` — so does every translated query.
-/

namespace ReadGate.Postgrest

open Run Grammar

variable {σ : Type} {c : Client σ} {guarded : Bool} {table : String}

/-! ## Signs -/

/-- The characters that are reserved in a URL, and others that escape, quote or part. -/
def urlSigns : List Char :=
  [':', '/', '?', '#', '[', ']', '@', '!', '$', '&', '\x27', '(', ')', '*', '+', ',', ';', '=',
    '%', '"', '.', ' ', '\t', '\n', '\r']

/-- The name has none of these signs. -/
def Clear (name : String) : Prop :=
  ∀ sign ∈ urlSigns, sign ∉ name.toList

instance (name : String) : Decidable (Clear name) :=
  List.decidableBAll _ _

theorem clear_of_inert {name : String} (h : Inert name) : Clear name := by
  have hsigns : urlSigns.all (fun sign => decide (sign.toNat < 0x80) &&
      !(sign.isLower || sign.isDigit || sign == '_')) = true := by decide
  intro sign hsign hmem
  have hnot := List.all_eq_true.1 hsigns sign hsign
  simp only [Bool.and_eq_true, decide_eq_true_eq, Bool.not_eq_true', Bool.or_eq_false_iff,
    beq_eq_false_iff_ne] at hnot
  obtain ⟨hascii, ⟨hsmall, hdigit⟩, hline⟩ := hnot
  rcases h.ascii sign hmem hascii with hc | hc | hc
  · rw [hsmall] at hc
    cases hc
  · rw [hdigit] at hc
    cases hc
  · exact hline hc

/-- The endpoint's own names for parameters are clear. -/
theorem clear_own : ∀ name ∈ ["select", "order", "limit", "offset"], Clear name := by
  decide

/-! ## Requests -/

/-- The request is for a table, and its name and those of all parameters are clear. -/
structure ClearRequest (c : Client σ) (table : String) (r : Request) : Prop where
  url : r.url = s!"{c.endpoint.url}/rest/v1/{table}"
  path : Clear table
  params : ∀ params ∈ r.params, ∀ p ∈ params, Clear p.1

theorem clear_closed (c : Client σ) (table : String) (guarded : Bool) :
    Closed guarded fun α (x : Run (Wire σ) α) => Traces (Sends (ClearRequest c table)) .none x :=
  Traces.closed guarded

theorem clear_pageRequest (source : Source) (htable : Clear source.table)
    (hparams : ∀ p ∈ source.params, Clear p.1) (limit : Option Int) (offset : Nat) :
    ClearRequest c source.table (c.pageRequest source limit offset) := by
  refine ⟨rfl, htable, ?_⟩
  rintro params ⟨⟩ p hp
  rcases Row.mem_putAll hp with hsource | hpage
  · exact hparams p hsource
  · simp only [List.mem_cons, List.not_mem_nil, or_false] at hpage
    rcases hpage with rfl | rfl <;> exact clear_own _ (by simp)

/-- All pages of a source with clear names. -/
theorem selectAll_clear (source : Source) (htable : Clear source.table)
    (hparams : ∀ p ∈ source.params, Clear p.1) :
    Traces (Sends (ClearRequest c source.table)) .none (c.selectAll source) := by
  refine selectAll_of_fetch (Traces.closed source.guarded)
    (fun _ => .of_unchanged fun _ => rfl) source fun limit _ offset => (fetch_asks offset).mono ?_
  rintro w r w' ⟨hsent, offset', rfl⟩
  exact ⟨hsent, clear_pageRequest { source with params := Row.erase source.params "limit" } htable
    (fun p hp => hparams p (List.mem_of_mem_filter hp)) limit offset'⟩

/-! ## The capabilities -/

theorem clear_partsOf {q : Selection} (hpredicate : ∀ p ∈ q.predicate, Clear p.column) :
    ∀ part ∈ partsOf q.columns q.predicate q.limit q.orderBy, Clear part.1 := by
  intro part hpart
  simp only [partsOf, List.mem_cons, List.mem_append, Option.mem_toList,
    Option.map_eq_some_iff] at hpart
  rcases hpart with rfl | (⟨p, hp, rfl⟩ | ⟨o, -, rfl⟩) | ⟨n, -, rfl⟩
  · exact clear_own _ (by simp)
  · exact hpredicate p hp
  · exact clear_own _ (by simp)
  · exact clear_own _ (by simp)

theorem structuredQuery_clear {q : Selection} (htable : Clear q.table)
    (hpredicate : ∀ p ∈ q.predicate, Clear p.column) :
    Traces (Sends (ClearRequest c q.table)) .none (c.structuredQuery guarded q) := by
  have hclosed := clear_closed c q.table guarded
  by_cases hwritable : Writable q.predicate q.limit
  · rw [structuredQuery_eq c guarded hwritable]
    refine hclosed.bind (hclosed.check _) fun _ => hclosed.bind ?_ fun _ => hclosed.lift _
    refine selectAll_clear ⟨q.table, _, _, guarded⟩ htable ?_
    rw [writtenParams_eq]
    exact fun p hp => clear_partsOf hpredicate p (Row.mem_ofPairs hp)
  · rw [Client.structuredQuery, paramsOf_eq_error hwritable]
    exact hclosed.bind (hclosed.check _) fun _ => hclosed.mishap _

theorem count_clear (htable : Clear table) :
    Traces (Sends (ClearRequest c table)) .none (c.count guarded table) := by
  have hclosed := clear_closed c table guarded
  have hrequest : ClearRequest c table
      (c.request .head table (some [("select", some (.whole "*"))]) none exactCount) := by
    refine ⟨rfl, htable, ?_⟩
    rintro params ⟨⟩ p hp
    rw [List.mem_singleton.1 hp]
    exact clear_own _ (by simp)
  unfold Client.count
  refine hclosed.bind (hclosed.check _) fun _ => hclosed.bind ?_ fun reply => ?_
  · exact ⟨fun w => ⟨_, send_sends _ hrequest w, Ending.explains_none _⟩⟩
  · exact hclosed.bind (.of_unchanged (requireOk_unchanged _ reply)) fun _ =>
      .of_unchanged fun _ => rfl

theorem columnValues_clear (htable : Clear table) (column : Option String) :
    Traces (Sends (ClearRequest c table)) .none (c.columnValues guarded table column) := by
  have hclosed := clear_closed c table guarded
  unfold Client.columnValues
  refine hclosed.bind (hclosed.check _) fun _ => hclosed.bind ?_ fun _ => hclosed.lift _
  refine selectAll_clear ⟨table, _, _, guarded⟩ htable fun p hp => ?_
  rw [List.mem_singleton.1 hp]
  exact clear_own _ (by simp)

/-- A query with inert names makes clear requests only. -/
theorem executeStructured_clear {q : StructuredQuery} (h : InertNames q) :
    Traces (Sends (ClearRequest c q.table)) .none (Engine.executeStructured c.adapter guarded q) := by
  have htable := clear_of_inert h.table
  exact Engine.executeStructured_keeps (Traces.closed guarded)
    (structuredQuery_clear (q := q.selection) htable fun p hp => clear_of_inert (h.predicate p hp))
    (count_clear htable) (columnValues_clear htable q.groupBy)

/-- **The names of a translated query are inert**, and so no request for it has a sign in its path
behind the address of the endpoint, or in the name of a parameter. -/
theorem translated_inert (c : Client σ) (guarded : Bool) (w : World (Wire σ)) {text : String}
    {rule : Rule} {q : StructuredQuery}
    (h : rule.apply text = .ok (some q) ∨ translate text = .ok (some (rule, q))) :
    InertNames q ∧ ∃ requests,
      (Engine.executeStructured c.adapter guarded q w).2.remote.sent =
        w.remote.sent ++ requests ∧
      ∀ r ∈ requests, ClearRequest c q.table r := by
  have hquery : rule.query (Lexeme.scan text.toList) = .ok (some q) :=
    h.elim id fun htranslate => (firstMatch_query htranslate).2
  have hinert := query_inert hquery
  obtain ⟨requests, htrace, -⟩ := (executeStructured_clear (c := c) hinert).trace w
  exact ⟨hinert, requests, sent_of_sends htrace⟩

/-- Letters of other scripts become small ASCII letters, or become two characters. -/
theorem translated_inert_scripts :
    let q : StructuredQuery := { table := "kasse", predicate := some ⟨"i\u0307d", .int 5⟩ }
    translate "SELECT * FROM \u212Aasse WHERE \u0130d = 5" = .ok (some (.whereNumber, q)) ∧
      InertNames q ∧ requestsFor q ≠ [] ∧
      ∀ r ∈ requestsFor q, ClearRequest twoRowsClient "kasse" r := by
  intro q
  have htext : translate "SELECT * FROM \u212Aasse WHERE \u0130d = 5" =
      .ok (some (.whereNumber, q)) := by
    decide +kernel
  obtain ⟨hinert, requests, hsent, hclear⟩ :=
    translated_inert twoRowsClient true calmWorld (.inr htext)
  have hlimit :
      limitOf (writtenParams q.columns q.predicate q.selection.limit q.orderBy) = .ok none := by
    decide
  have hwritable : Writable q.selection.predicate q.selection.limit :=
    ⟨by rintro _ ⟨⟩; rfl, nofun⟩
  obtain ⟨more, hpages⟩ :=
    structuredQuery_begins (c := twoRowsClient) true hwritable hlimit rfl calmWorld rfl
  have hrows : Engine.executeStructured twoRowsClient.adapter true q =
      twoRowsClient.structuredQuery true q.selection := rfl
  have hrequests : requestsFor q = requests := by
    rw [requestsFor, ← hrows, hsent]
    rfl
  have hfirst := (sent_of_trace hpages).1
  refine ⟨htext, hinert, ?_, ?_⟩
  · rw [requestsFor, hfirst]
    exact List.cons_ne_nil _ _
  · rw [hrequests]
    exact hclear

end ReadGate.Postgrest
