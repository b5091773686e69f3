import ReadGate.Proofs.Postgrest.Requests
import ReadGate.Proofs.Rule.Filters
import ReadGate.Proofs.Value.Rows

/-!
# Parts of a selection among the parameters

The parts of a selection are written under names: the columns, the order, the limit and the offset
under names of the endpoint, and the filter under that of its column.  A part that is written under
a name that another one has takes its place.  So a filter on a column with a name of the endpoint
either disappears or makes another part disappear, and a filter on any other column is in every
request.

* `Apart`, `written_reads_iff`, `paramsOf_reads_iff` — when all parts of a selection are written and
  read back.
* `Carries`, `pageRequest_carries_iff` — when a request for a page has all that it should have.
* `Asked`, `structuredQuery_asks` — the requests of a selection are those for its pages, and there
  are some unless no row is wanted.
* `filter_carried_iff` — the requests for the query of a rule that reads a comparison.
-/

namespace ReadGate.Postgrest

open Run

variable {σ : Type} {c : Client σ}

/-! ## The parts of a selection -/

/-- The parts of a selection, each under its name. -/
def partsOf (columns : Columns) (predicate : Option Predicate) (limit : Option Int)
    (orderBy : Option OrderBy) : Params :=
  ("select", some (columnsParam columns)) ::
    ((predicate.map fun p => (p.column, some (equalsText p.operand))).toList ++
      (orderBy.map fun o => ("order", some (.whole (orderParam o)))).toList ++
      (limit.map fun n => ("limit", some (.whole (toString n)))).toList)

/-- No other part has the name of the filter's column, unless it is written alike; a limit never
is. -/
structure Apart (columns : Columns) (predicate : Option Predicate) (limit : Option Int)
    (orderBy : Option OrderBy) : Prop where
  columns : ∀ p ∈ predicate, p.column = "select" →
    equalsText p.operand = .whole (columnsParam columns)
  order : ∀ p ∈ predicate, ∀ o ∈ orderBy, p.column = "order" →
    equalsText p.operand = .whole (orderParam o)
  limit : ∀ p ∈ predicate, limit ≠ none → p.column ≠ "limit"

theorem writtenParams_eq (columns : Columns) (predicate : Option Predicate) (limit : Option Int)
    (orderBy : Option OrderBy) :
    writtenParams columns predicate limit orderBy =
      Row.ofPairs (partsOf columns predicate limit orderBy) := by
  cases predicate <;> cases orderBy <;> cases limit <;> rfl

theorem plain_equalsText (operand : Operand) :
    (equalsText operand).plain.toList = 'e' :: 'q' :: '.' :: operand.value.wide.plain.toList := by
  rw [equalsText, WideText.plain_append, String.toList_append]
  rfl

/-- A filter is never written like a number. -/
theorem equalsText_ne_toString (operand : Operand) (n : Int) :
    equalsText operand ≠ .whole (toString n) := by
  intro heq
  have hlist := plain_equalsText operand
  rw [heq] at hlist
  cases n with
  | ofNat m =>
    have hdigits : (toString (Int.ofNat m)).toList = Nat.toDigits 10 m := by
      show (toString m).toList = _
      simp
    have he : 'e' ∈ Nat.toDigits 10 m := by
      rw [← hdigits]
      exact hlist ▸ List.mem_cons_self
    have hdigit := Nat.isDigit_of_mem_toDigits (by decide) (by decide) he
    revert hdigit
    decide
  | negSucc m =>
    have hminus : (toString (Int.negSucc m)).toList = '-' :: (toString (m + 1)).toList := by
      show ("-" ++ toString (m + 1)).toList = _
      rw [String.toList_append]
      rfl
    rw [WideText.plain, hminus] at hlist
    cases hlist

/-- No part is lost among the parameters if and only if the parts are apart. -/
theorem written_reads_iff (columns : Columns) (predicate : Option Predicate) (limit : Option Int)
    (orderBy : Option OrderBy) :
    (∀ part ∈ partsOf columns predicate limit orderBy,
      Row.get? (writtenParams columns predicate limit orderBy) part.1 = some part.2) ↔
      Apart columns predicate limit orderBy := by
  rw [writtenParams_eq, Row.ofPairs_reads_iff]
  have hapart : Apart columns predicate limit orderBy ↔
      (∀ p ∈ predicate, p.column = "select" →
        equalsText p.operand = .whole (columnsParam columns)) ∧
      (∀ p ∈ predicate, ∀ o ∈ orderBy, p.column = "order" →
        equalsText p.operand = .whole (orderParam o)) ∧
      ∀ p ∈ predicate, limit ≠ none → p.column ≠ "limit" :=
    ⟨fun h => ⟨h.1, h.2, h.3⟩, fun h => ⟨h.1, h.2.1, h.2.2⟩⟩
  have hlimit (operand : Operand) (n : Int) : equalsText operand ≠ .whole n.repr :=
    equalsText_ne_toString operand n
  rw [hapart]
  cases predicate <;> cases orderBy <;> cases limit <;> simp [partsOf, eq_comm, hlimit]

/-- All parts of a selection are written and read back if and only if they can be written and are
apart. -/
theorem paramsOf_reads_iff (columns : Columns) (predicate : Option Predicate) (limit : Option Int)
    (orderBy : Option OrderBy) :
    (∃ params, paramsOf columns predicate limit orderBy = .ok params ∧
      ∀ part ∈ partsOf columns predicate limit orderBy,
        Row.get? params part.1 = some part.2) ↔
      Writable predicate limit ∧ Apart columns predicate limit orderBy := by
  rw [← written_reads_iff]
  constructor
  · rintro ⟨params, hparams, hreads⟩
    by_cases hwritable : Writable predicate limit
    · rw [paramsOf_eq_ok hwritable] at hparams
      cases hparams
      exact ⟨hwritable, hreads⟩
    · rw [paramsOf_eq_error hwritable] at hparams
      cases hparams
  · rintro ⟨hwritable, hreads⟩
    exact ⟨_, paramsOf_eq_ok hwritable columns orderBy, hreads⟩

/-! ## Requests for pages -/

/-- The text of a parameter of a request. -/
def Request.param (r : Request) (name : String) : Option WideText :=
  (r.params.bind (Row.get? · name)).join

/-- The names under which the endpoint expects the parts of a request for a page. -/
def reserved : List String :=
  ["select", "limit", "offset"]

/-- The request asks for all columns of a page of the rows that the filter lets through. -/
structure Carries (p : Predicate) (width : Int) (offset : Nat) (r : Request) : Prop where
  columns : r.param "select" = some (.whole "*")
  filter : r.param p.column = some (equalsText p.operand)
  width : r.param "limit" = some (.whole (toString width))
  offset : r.param "offset" = some (.whole (toString offset))

/-- What is fetched page by page for a selection: its limit is no parameter any more. -/
def sourceOf (guarded : Bool) (q : Selection) : Source :=
  ⟨q.table, Row.erase (writtenParams q.columns q.predicate q.limit q.orderBy) "limit",
    "structured_query", guarded⟩

theorem param_limit (source : Source) (limit : Option Int) (offset : Nat) :
    (c.pageRequest source limit offset).param "limit" =
      some (.whole (toString (c.pageLimit limit offset))) := by
  have hget : Row.get? (Row.putAll source.params
      [("limit", some (.whole (toString (c.pageLimit limit offset)))),
        ("offset", some (.whole (toString offset)))]) "limit" =
      some (some (.whole (toString (c.pageLimit limit offset)))) :=
    Row.get?_putAll_of_mem _ (by simp) _ List.mem_cons_self
  simp only [Request.param, Client.pageRequest, Client.request, Option.bind_some, hget,
    Option.join_some]

theorem param_offset (source : Source) (limit : Option Int) (offset : Nat) :
    (c.pageRequest source limit offset).param "offset" = some (.whole (toString offset)) := by
  have hget : Row.get? (Row.putAll source.params
      [("limit", some (.whole (toString (c.pageLimit limit offset)))),
        ("offset", some (.whole (toString offset)))]) "offset" =
      some (some (.whole (toString offset))) :=
    Row.get?_putAll_of_mem _ (by simp) _ (List.mem_cons_of_mem _ List.mem_cons_self)
  simp only [Request.param, Client.pageRequest, Client.request, Option.bind_some, hget,
    Option.join_some]

/-- Any other parameter is the one of the source. -/
theorem param_other (source : Source) (limit : Option Int) (offset : Nat) {name : String}
    (hlimit : name ≠ "limit") (hoffset : name ≠ "offset") :
    (c.pageRequest source limit offset).param name = (Row.get? source.params name).join := by
  simp only [Request.param, Client.pageRequest, Client.request, Option.bind_some, Row.putAll,
    List.foldl_cons, List.foldl_nil, Row.get?_put_of_ne _ _ hlimit, Row.get?_put_of_ne _ _ hoffset]

/-- A parameter that is not a limit or an offset is the one of the selection. -/
theorem param_selection {guarded : Bool} (q : Selection) (limit : Option Int) (offset : Nat)
    {name : String} (hlimit : name ≠ "limit") (hoffset : name ≠ "offset") :
    (c.pageRequest (sourceOf guarded q) limit offset).param name =
      (Row.get? (writtenParams q.columns q.predicate q.limit q.orderBy) name).join := by
  rw [param_other _ _ _ hlimit hoffset, sourceOf, Row.get?_erase_of_ne _ hlimit]

theorem apart_of_filters {p : Predicate} {q : StructuredQuery} (hq : Grammar.Filters p q)
    (hselect : p.column ≠ "select") (hlimit : p.column ≠ "limit") :
    Apart q.columns q.predicate q.selection.limit q.orderBy := by
  rw [hq.predicate, hq.orderBy]
  constructor
  · intro p' hp' hcolumn
    cases hp'
    exact absurd hcolumn hselect
  · intro p' hp' o ho
    cases ho
  · intro p' hp' hsome
    cases hp'
    exact hlimit

/-- **A request for a page carries the filter** if and only if its column has no reserved name. -/
theorem pageRequest_carries_iff {p : Predicate} {q : StructuredQuery} (hq : Grammar.Filters p q)
    (guarded : Bool) (limit : Option Int) (offset : Nat) :
    Carries p (c.pageLimit limit offset) offset
      (c.pageRequest (sourceOf guarded q.selection) limit offset) ↔ p.column ∉ reserved := by
  constructor
  · intro hcarries hmem
    have hfilter := hcarries.filter
    simp only [reserved, List.mem_cons, List.not_mem_nil, or_false] at hmem
    rcases hmem with hcolumn | hcolumn | hcolumn <;> rw [hcolumn] at hfilter
    · rw [hcarries.columns] at hfilter
      have hlist := plain_equalsText p.operand
      rw [← Option.some.inj hfilter] at hlist
      cases hlist
    · rw [hcarries.width] at hfilter
      exact equalsText_ne_toString _ _ (Option.some.inj hfilter).symm
    · rw [hcarries.offset] at hfilter
      exact equalsText_ne_toString _ offset (Option.some.inj hfilter).symm
  · intro hmem
    simp only [reserved, List.mem_cons, List.not_mem_nil, or_false, not_or] at hmem
    obtain ⟨hselect, hlimit, hoffset⟩ := hmem
    have hreads := (written_reads_iff ..).2 (apart_of_filters hq hselect hlimit)
    refine ⟨?_, ?_, param_limit .., param_offset ..⟩
    · have hcolumns := hreads _ List.mem_cons_self
      rw [param_selection _ _ _ (by decide) (by decide)]
      show (Row.get? (writtenParams q.columns q.predicate q.selection.limit q.orderBy) _).join = _
      rw [hcolumns, hq.columns]
      rfl
    · have hmem : (p.column, some (equalsText p.operand)) ∈
          partsOf q.columns q.predicate q.selection.limit q.orderBy := by
        simp [partsOf, hq.predicate]
      have hfilter := hreads _ hmem
      rw [param_selection _ _ _ hlimit hoffset]
      show (Row.get? (writtenParams q.columns q.predicate q.selection.limit q.orderBy) _).join = _
      rw [hfilter]
      rfl

/-- A filter that shares its name with the limit or the offset leaves no trace in a request. -/
theorem param_of_hidden {p : Predicate} {q : StructuredQuery} (hq : Grammar.Filters p q)
    (hcolumn : p.column = "limit" ∨ p.column = "offset") (guarded : Bool) (limit : Option Int)
    (offset : Nat) (name : String) :
    (c.pageRequest (sourceOf guarded q.selection) limit offset).param name =
      (c.pageRequest (sourceOf guarded { q.selection with predicate := none }) limit offset).param
        name := by
  by_cases hlimit : name = "limit"
  · rw [hlimit, param_limit, param_limit]
  by_cases hoffset : name = "offset"
  · rw [hoffset, param_offset, param_offset]
  have hne : name ≠ p.column := by
    rcases hcolumn with hcolumn | hcolumn <;> rw [hcolumn] <;> assumption
  rw [param_selection _ _ _ hlimit hoffset, param_selection _ _ _ hlimit hoffset]
  have hput (params : Params) : Row.get? (putSome params (q.selection.limit.map fun n =>
      ("limit", toString n))) name = Row.get? params name := by
    refine get?_putSome_of_ne params _ fun e he => ?_
    obtain ⟨n, -, rfl⟩ := Option.map_eq_some_iff.1 he
    exact hlimit
  have hselection : q.selection.predicate = some p ∧ q.selection.orderBy = none :=
    ⟨hq.predicate, hq.orderBy⟩
  simp only [writtenParams, hput, hselection]
  exact congrArg Option.join (Row.get?_put_of_ne _ _ hne)

/-! ## The requests of a selection -/

/-- A request for a page of the source leads from one world to another. -/
def Asked (c : Client σ) (source : Source) (limit : Option Int) (w : World (Wire σ)) (r : Request)
    (w' : World (Wire σ)) : Prop :=
  w'.remote.sent = w.remote.sent ++ [r] ∧ ∃ offset, r = c.pageRequest source limit offset

theorem asked_closed (c : Client σ) (source : Source) (limit : Option Int) (guarded : Bool) :
    Closed guarded fun α (x : Run (Wire σ) α) => Traces (Asked c source limit) .none x :=
  Traces.closed guarded

section Asks

variable {source : Source} {limit : Option Int}

theorem send_asks (source : Source) (limit : Option Int) (offset : Nat) (w : World (Wire σ)) :
    Trace (Asked c source limit) w [c.pageRequest source limit offset]
      (c.send source.operation (c.pageRequest source limit offset) w).2 :=
  send_sends (P := fun r => ∃ offset, r = c.pageRequest source limit offset) _ ⟨offset, rfl⟩ w

/-- What is read from a reply changes nothing. -/
theorem requireOk_unchanged (operation : String) (r : Reply) (w : World (Wire σ)) :
    (Client.requireOk operation r w).2 = w := by
  unfold Client.requireOk
  split
  · rfl
  · rcases Client.errorOf r with m | ⟨message, code⟩ <;> rfl

theorem decode_unchanged (operation : String) (r : Reply) (w : World (Wire σ)) :
    (Client.decode operation r w).2 = w := by
  unfold Client.decode
  rcases Json.read Json.lenient r.body with e | v
  · cases e <;> rfl
  · rfl

theorem reply_asks (c : Client σ) (source : Source) (limit : Option Int) (reply : Reply) :
    Traces (Asked c source limit) .none (do
      Client.requireOk source.operation reply
      let page ← Client.decode source.operation reply
      return (page, reply) : Run (Wire σ) (Value × Reply)) :=
  .bind (.of_unchanged (requireOk_unchanged _ reply)) fun _ =>
    .bind (.of_unchanged (decode_unchanged _ reply)) fun _ => .of_unchanged fun _ => rfl

/-- The computation starts with the request for the first page, if its token lets it. -/
def Begins (c : Client σ) (source : Source) (limit : Option Int) {α : Type}
    (x : Run (Wire σ) α) : Prop :=
  ∀ w, (source.guarded && w.token.cancelled) = false →
    ∃ more, Trace (Asked c source limit) w (c.pageRequest source limit 0 :: more) (x w).2

theorem Begins.bind {α β : Type} {x : Run (Wire σ) α} {f : α → Run (Wire σ) β}
    (hx : Begins c source limit x) (hf : ∀ a, Traces (Asked c source limit) .none (f a)) :
    Begins c source limit (x >>= f) := by
  intro w hfree
  obtain ⟨more, hfirst⟩ := hx w hfree
  rw [bind_apply]
  rcases hw : x w with ⟨t | a, w₁⟩ <;> rw [hw] at hfirst
  · exact ⟨more, hfirst⟩
  · obtain ⟨rest, hrest, -⟩ := (hf a).trace w₁
    exact ⟨more ++ rest, hfirst.trans hrest⟩

theorem fetch_trace (offset : Nat) {w : World (Wire σ)}
    (hfree : (source.guarded && w.token.cancelled) = false) :
    ∃ more, Trace (Asked c source limit) w (c.pageRequest source limit offset :: more)
      (c.fetch source limit offset w).2 := by
  have hsend := send_asks (c := c) source limit offset w
  rw [Client.fetch, bind_apply, check_pass hfree]
  dsimp only
  rw [bind_apply]
  rcases hw : c.send source.operation (c.pageRequest source limit offset) w with ⟨t | reply, w₁⟩ <;>
    rw [hw] at hsend
  · exact ⟨[], hsend⟩
  · obtain ⟨rest, hrest, -⟩ := (reply_asks c source limit reply).trace w₁
    exact ⟨rest, hsend.trans hrest⟩

theorem fetch_asks (offset : Nat) :
    Traces (Asked c source limit) .none (c.fetch source limit offset) := by
  refine ⟨fun w => ?_⟩
  cases hc : source.guarded && w.token.cancelled with
  | true =>
    rw [Client.fetch, bind_apply, check_stop hc]
    exact ⟨[], .refl w, Ending.explains_nil _⟩
  | false =>
    obtain ⟨more, htrace⟩ := fetch_trace offset hc
    exact ⟨_, htrace, Ending.explains_none _⟩

theorem totalOf_asks (header : String) :
    Traces (Asked c source limit) .none
      (ExceptT.mk (pure (totalOf header)) : Run (Wire σ) Int) :=
  .of_unchanged fun _ => rfl

theorem pages_begins (hwanted : wantsMore limit 0 = true) :
    Begins c source limit (c.pages source limit) := by
  have hclosed := asked_closed c source limit source.guarded
  rw [Client.pages, if_pos hwanted]
  refine .bind (fun w => fetch_trace 0) fun fetched => ?_
  refine hclosed.bind (totalOf_asks _) fun total => hclosed.bind (hclosed.lift _) fun page => ?_
  split
  · exact hclosed.pure _
  · exact hclosed.bind (more_of_fetch hclosed source limit fetch_asks ..) fun _ => hclosed.pure _

theorem selectAll_begins (source : Source) (hlimit : limitOf source.params = .ok limit)
    (hwanted : wantsMore limit 0 = true) :
    Begins c { source with params := Row.erase source.params "limit" } limit
      (c.selectAll source) := by
  have hclosed := asked_closed c { source with params := Row.erase source.params "limit" } limit
    source.guarded
  rw [selectAll_eq, hlimit]
  show Begins _ _ _ (pure limit >>= _)
  rw [pure_bind]
  refine (pages_begins hwanted).bind fun _ => ?_
  exact hclosed.bind (hclosed.report ..) fun _ => hclosed.pure _

end Asks

/-- **The requests of a selection are those for its pages**, within the limit that is read. -/
theorem structuredQuery_asks (guarded : Bool) {q : Selection} {limit : Option Int}
    (hwritable : Writable q.predicate q.limit)
    (hlimit : limitOf (writtenParams q.columns q.predicate q.limit q.orderBy) = .ok limit) :
    Traces (Asked c (sourceOf guarded q) limit) .none (c.structuredQuery guarded q) := by
  have hclosed := asked_closed c (sourceOf guarded q) limit guarded
  rw [structuredQuery_eq c guarded hwritable]
  refine hclosed.bind (hclosed.check _) fun _ => ?_
  refine hclosed.bind (selectAll_of_fetch hclosed totalOf_asks _ fun limit' hread offset => ?_)
    fun _ => hclosed.lift _
  rw [hlimit] at hread
  cases hread
  exact fetch_asks offset

/-- If rows are wanted, the first page is asked for. -/
theorem structuredQuery_begins (guarded : Bool) {q : Selection} {limit : Option Int}
    (hwritable : Writable q.predicate q.limit)
    (hlimit : limitOf (writtenParams q.columns q.predicate q.limit q.orderBy) = .ok limit)
    (hwanted : wantsMore limit 0 = true) :
    Begins c (sourceOf guarded q) limit (c.structuredQuery guarded q) := by
  intro w hfree
  have hselect := selectAll_begins (c := c) ⟨q.table,
    writtenParams q.columns q.predicate q.limit q.orderBy, "structured_query", guarded⟩ hlimit hwanted
  rw [structuredQuery_eq c guarded hwritable, bind_apply, @check_pass _ guarded _ hfree]
  exact hselect.bind (fun records => (Traces.closed guarded).lift _) w hfree

/-- A trace of requests for pages lists what was sent. -/
theorem sent_of_trace {source : Source} {limit : Option Int} {w w' : World (Wire σ)}
    {requests : List Request} (h : Trace (Asked c source limit) w requests w') :
    w'.remote.sent = w.remote.sent ++ requests ∧
      ∀ r ∈ requests, ∃ offset, r = c.pageRequest source limit offset :=
  sent_of_sends (P := fun r => ∃ offset, r = c.pageRequest source limit offset) h

/-! ## Queries that filter -/

variable {p : Predicate} {q : StructuredQuery}

theorem writable_of_filters (hq : Grammar.Filters p q) :
    Writable q.selection.predicate q.selection.limit where
  filter := by
    show ∀ p' ∈ q.predicate, _
    rw [hq.predicate]
    rintro _ ⟨⟩
    exact hq.operand
  limit n hn := by
    obtain ⟨m, hm, rfl⟩ := Option.map_eq_some_iff.1 hn
    exact hq.limit m hm

/-- The limit of a query is read back, unless its filter is taken for it. -/
theorem limitOf_filtered (hq : Grammar.Filters p q)
    (hclear : ¬ (p.column = "limit" ∧ q.limit = none)) :
    limitOf (writtenParams q.columns q.predicate q.selection.limit q.orderBy) =
      .ok q.selection.limit := by
  refine (limitOf_written q.columns q.predicate q.limit q.orderBy).1 ⟨fun hnone => ?_, hq.limit⟩
  rw [hq.predicate]
  rintro _ ⟨⟩ hcolumn
  exact hclear ⟨hcolumn, hnone⟩

theorem limitOf_taken (hq : Grammar.Filters p q) (hcolumn : p.column = "limit")
    (hlimit : q.limit = none) :
    limitOf (writtenParams q.columns q.predicate q.selection.limit q.orderBy) =
      .error (.notInteger (equalsText p.operand)) := by
  simp only [StructuredQuery.selection, hlimit, Option.map_none, limitOf, get?_limit_none,
    hq.predicate, Option.map_some, putSome, hcolumn, Row.get?_put_self, Option.join_some,
    readWide_equals]
  rfl

/-- A selection fails before its first request if its filter is taken for the limit. -/
theorem structuredQuery_taken (hq : Grammar.Filters p q) (hcolumn : p.column = "limit")
    (hlimit : q.limit = none) {guarded : Bool} {w : World (Wire σ)}
    (hfree : (guarded && w.token.cancelled) = false) :
    c.structuredQuery guarded q.selection w =
      (.error (.mishap (.numeral (.notInteger (equalsText p.operand)))), w) := by
  have htaken : limitOf (writtenParams q.selection.columns q.selection.predicate q.selection.limit
      q.selection.orderBy) = .error (.notInteger (equalsText p.operand)) :=
    limitOf_taken hq hcolumn hlimit
  rw [structuredQuery_eq c guarded (writable_of_filters hq)]
  simp only [bind_apply, check_pass hfree, selectAll_apply, htaken]

theorem wantsMore_of_ne_zero (hlimit : q.limit ≠ some 0) : wantsMore q.selection.limit 0 = true := by
  cases hq : q.limit with
  | none => simp [wantsMore, StructuredQuery.selection, hq]
  | some n =>
    have hn : n ≠ 0 := by
      rintro rfl
      exact hlimit hq
    simp [wantsMore, StructuredQuery.selection, hq]
    omega

/-- The request is the one for the page at an offset.  It carries the filter unless the column has a
reserved name; and if this is the limit's or the offset's, it is as good as a request without the
filter. -/
structure AsksPage (c : Client σ) (guarded : Bool) (p : Predicate) (q : StructuredQuery)
    (offset : Nat) (r : Request) : Prop where
  request : r = c.pageRequest (sourceOf guarded q.selection) q.selection.limit offset
  carries : Carries p (c.pageLimit q.selection.limit offset) offset r ↔ p.column ∉ reserved
  hidden : p.column = "limit" ∨ p.column = "offset" → ∀ name, r.param name =
    (c.pageRequest (sourceOf guarded { q.selection with predicate := none }) q.selection.limit
      offset).param name

theorem asksPage (hq : Grammar.Filters p q) (guarded : Bool) (offset : Nat) :
    AsksPage c guarded p q offset
      (c.pageRequest (sourceOf guarded q.selection) q.selection.limit offset) where
  request := rfl
  carries := pageRequest_carries_iff hq guarded _ offset
  hidden hcolumn := param_of_hidden hq hcolumn guarded _ offset

/-- The requests of a selection are those for its pages, the first of them at the start. -/
theorem structuredQuery_asksPages (hq : Grammar.Filters p q)
    (hclear : ¬ (p.column = "limit" ∧ q.limit = none)) (guarded : Bool) (w : World (Wire σ)) :
    ∃ requests,
      (c.structuredQuery guarded q.selection w).2.remote.sent = w.remote.sent ++ requests ∧
      ((guarded && w.token.cancelled) = false → q.limit ≠ some 0 → requests ≠ []) ∧
      ∀ r ∈ requests, ∃ offset, AsksPage c guarded p q offset r := by
  have hread := limitOf_filtered hq hclear
  have hpages {requests : List Request} {w' : World (Wire σ)} (htrace : Trace
      (Asked c (sourceOf guarded q.selection) q.selection.limit) w requests w') :
      ∀ r ∈ requests, ∃ offset, AsksPage c guarded p q offset r := by
    intro r hr
    obtain ⟨offset, rfl⟩ := (sent_of_trace htrace).2 r hr
    exact ⟨offset, asksPage hq guarded offset⟩
  by_cases hbegins : (guarded && w.token.cancelled) = false ∧ q.limit ≠ some 0
  · obtain ⟨more, htrace⟩ := structuredQuery_begins (c := c) guarded
      (writable_of_filters hq) hread
      (wantsMore_of_ne_zero hbegins.2) w hbegins.1
    exact ⟨_, (sent_of_trace htrace).1, fun _ _ => List.cons_ne_nil _ _, hpages htrace⟩
  · obtain ⟨requests, htrace, -⟩ :=
      (structuredQuery_asks (c := c) guarded (writable_of_filters hq) hread).trace w
    exact ⟨requests, (sent_of_trace htrace).1, fun hfree hlimit => absurd ⟨hfree, hlimit⟩ hbegins,
      hpages htrace⟩

/-- **A filter is in every request for a page** if and only if its column has no reserved name.  The
parts of any selection are all read back from its parameters if and only if they can be written and
are apart; if they cannot be written, there are no parameters. -/
theorem filter_carried_iff (c : Client σ) :
    (∀ (columns : Columns) (predicate : Option Predicate) (limit : Option Int)
      (orderBy : Option OrderBy),
      ((∃ params, paramsOf columns predicate limit orderBy = .ok params ∧
        ∀ part ∈ partsOf columns predicate limit orderBy,
          Row.get? params part.1 = some part.2) ↔
        Writable predicate limit ∧ Apart columns predicate limit orderBy) ∧
      (¬ Writable predicate limit →
        paramsOf columns predicate limit orderBy = .error .unwritable)) ∧
    ∀ (guarded : Bool) (w : World (Wire σ)) (text : String) (rule : Rule) (q : StructuredQuery),
      rule ∈ Grammar.filterRules → translate text = .ok (some (rule, q)) →
      ∃ p, q.predicate = some p ∧
        (p.column = "limit" → q.limit = none → (guarded && w.token.cancelled) = false →
          c.structuredQuery guarded q.selection w =
            (.error (.mishap (.numeral (.notInteger (equalsText p.operand)))), w)) ∧
        (¬ (p.column = "limit" ∧ q.limit = none) → ∃ requests,
          (c.structuredQuery guarded q.selection w).2.remote.sent = w.remote.sent ++ requests ∧
          ((guarded && w.token.cancelled) = false → q.limit ≠ some 0 → requests ≠ []) ∧
          ∀ r ∈ requests, ∃ offset, AsksPage c guarded p q offset r) := by
  refine ⟨fun columns predicate limit orderBy => ⟨paramsOf_reads_iff .., fun hlong =>
    paramsOf_eq_error hlong columns orderBy⟩, fun guarded w text rule q hrule htext => ?_⟩
  obtain ⟨p, hq⟩ := Grammar.translate_filters hrule htext
  exact ⟨p, hq.predicate, fun hcolumn hlimit hfree => structuredQuery_taken hq hcolumn hlimit hfree,
    fun hclear => structuredQuery_asksPages hq hclear guarded w⟩

/-! ### Filters on two columns -/

/-- The rows of a table that a filter lets through. -/
def filtered (column : String) (operand : Int) : StructuredQuery where
  table := "items"
  predicate := some ⟨column, .int operand⟩

/-- The requests that a call with a query makes. -/
def requestsFor (q : StructuredQuery) : List Request :=
  (twoRowsClient.structuredQuery true q.selection calmWorld).2.remote.sent

/-- A filter on a column called `id` is in all requests for its rows; one on a column called
`offset` is in none. -/
theorem filter_carried_iff_offset :
    (translate "SELECT * FROM items WHERE id = 5" = .ok (some (.whereNumber, filtered "id" 5)) ∧
      requestsFor (filtered "id" 5) ≠ [] ∧ ∀ r ∈ requestsFor (filtered "id" 5),
        r.param "id" = some (.whole "eq.5") ∧ r.param "select" = some (.whole "*")) ∧
    translate "SELECT * FROM items WHERE offset = 5" =
      .ok (some (.whereNumber, filtered "offset" 5)) ∧
      requestsFor (filtered "offset" 5) ≠ [] ∧ ∀ r ∈ requestsFor (filtered "offset" 5),
        r.param "offset" ≠ some (.whole "eq.5") := by
  have hid : translate "SELECT * FROM items WHERE id = 5" =
      .ok (some (.whereNumber, filtered "id" 5)) := by
    decide +kernel
  have hoffset : translate "SELECT * FROM items WHERE offset = 5" =
      .ok (some (.whereNumber, filtered "offset" 5)) := by
    decide +kernel
  have hrule : Rule.whereNumber ∈ Grammar.filterRules := by decide
  have hruns := (filter_carried_iff twoRowsClient).2 true calmWorld
  refine ⟨⟨hid, ?_⟩, hoffset, ?_⟩
  · obtain ⟨p, ⟨⟩, -, hpages⟩ := hruns _ _ _ hrule hid
    obtain ⟨requests, hsent, hsome, hpages⟩ := hpages (by decide)
    rw [requestsFor, hsent]
    refine ⟨hsome rfl nofun, fun r hr => ?_⟩
    obtain ⟨offset, hpage⟩ := hpages r hr
    have hcarries := hpage.carries.2 (by decide)
    exact ⟨hcarries.filter, hcarries.columns⟩
  · obtain ⟨p, ⟨⟩, -, hpages⟩ := hruns _ _ _ hrule hoffset
    obtain ⟨requests, hsent, hsome, hpages⟩ := hpages (by decide)
    rw [requestsFor, hsent]
    refine ⟨hsome rfl nofun, fun r hr hfilter => ?_⟩
    obtain ⟨offset, hpage⟩ := hpages r hr
    have hequals : equalsText (.int 5) = .whole "eq.5" := by decide
    rw [hpage.request, param_offset, ← hequals] at hfilter
    exact equalsText_ne_toString (.int 5) offset (Option.some.inj hfilter).symm

end ReadGate.Postgrest
