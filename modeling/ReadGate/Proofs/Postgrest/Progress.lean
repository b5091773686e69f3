import ReadGate.Proofs.Postgrest.Conversation
import ReadGate.Proofs.Postgrest.Parameters

/-!
# Paging makes progress

An endpoint may repeat pages, cut them short, fill them beyond what was asked for, or change the
total from reply to reply.  As long as its replies are pages of records, and the first total is
read, paging ends all the same, gives the records of all pages in their order, and sends no more
requests than the total or the limit allows.  A first total with too many digits ends the call
behind its first page, and such a limit ends it before it.

* `Response.Fills`, `Request.GoesOn` — a response that brings a page, and the request for one.
* `Rounds.filled` — rounds with such an endpoint.
* `selectAll_of_long_announced`, `selectAll_of_long_limit` — numbers that are not read.
* `selectAll_accounts` — all requests, all pages, and what comes of them.
-/

namespace ReadGate.Postgrest

open Run

variable {σ : Type} {c : Client σ} {source : Source}

/-! ## Pages of records -/

/-- The response is a page of records, with the status of success. -/
def Response.Fills (response : Response) (rows : List Row) : Prop :=
  ∃ reply, response.exchange = .reply reply ∧ reply.status = 200 ∧
    Json.read Json.lenient reply.body = .ok (.list (rows.map .record))

/-- How many rows the page behind some rows may have: as many as a page, but no more than the limit
leaves. -/
def askedWidth (c : Client σ) (limit : Option ℕ) (behind : ℕ) : Int :=
  limit.elim c.endpoint.pageSize.value fun n => min c.endpoint.pageSize.value ((n : Int) - behind)

/-- The request is for the page of a source behind some rows, and its numbers can be written. -/
structure Request.GoesOn (r : Request) (c : Client σ) (source : Source) (limit : Option ℕ)
    (behind : ℕ) : Prop where
  method : r.method = .get
  offset : r.param "offset" = some (.whole (toString behind))
  width : r.param "limit" = some (.whole (toString (askedWidth c limit behind)))
  others : ∀ name, name ≠ "limit" → name ≠ "offset" →
    r.param name = (Row.get? source.params name).join
  offset_short : Numeral.IsShort behind
  width_short : Numeral.IsShort (askedWidth c limit behind).natAbs

/-- A page size can be written, and so can whatever a limit leaves that is less. -/
theorem isShort_askedWidth (c : Client σ) {limit : Option ℕ} {behind : ℕ}
    (hmore : ∀ n ∈ limit, behind < n) : Numeral.IsShort (askedWidth c limit behind).natAbs := by
  have hsize := c.endpoint.pageSize.short
  cases limit with
  | none => exact hsize
  | some n =>
    have hn := hmore n rfl
    show Numeral.IsShort (min c.endpoint.pageSize.value ((n : Int) - behind)).natAbs
    rcases Int.le_total c.endpoint.pageSize.value ((n : Int) - behind) with hle | hle
    · rwa [Int.min_eq_left hle]
    · rw [Int.min_eq_right hle]
      exact hsize.mono (by omega)

theorem pageRequest_goesOn (c : Client σ) (source : Source) {limit : Option ℕ} {behind : ℕ}
    (hmore : wantsMore (limit.map Int.ofNat) behind = true) (hshort : Numeral.IsShort behind) :
    (c.pageRequest source.unlimited (limit.map Int.ofNat) behind).GoesOn c source limit behind where
  method := rfl
  offset := param_offset ..
  width := by
    rw [param_limit]
    cases limit <;> rfl
  others name hlimit hoffset := by
    rw [param_other _ _ _ hlimit hoffset, Source.unlimited, Row.get?_erase_of_ne _ hlimit]
  offset_short := hshort
  width_short := isShort_askedWidth c (wantsMore_iff.1 hmore)

/-! ## Rounds -/

/-- A page of records lists its records. -/
theorem Response.Fills.lists {response : Response} {rows : List Row} (h : response.Fills rows)
    {first : Bool} (hcounted : first = true → ∀ reply, response.exchange = .reply reply →
      ∃ total, totalOf (reply.header "Content-Range") = .ok total) :
    ∃ reply, response.exchange = .reply reply ∧ reply.Lists first (rows.map .record) := by
  obtain ⟨reply, hreply, hstatus, hbody⟩ := h
  have hok : reply.isOk = true := by
    rw [Reply.isOk, hstatus]
    rfl
  exact ⟨reply, hreply, ⟨_, ⟨hok, hbody⟩, itemsOrNone_list _⟩,
    fun hfirst => hcounted hfirst reply hreply⟩

theorem Reply.Lists.unique {first : Bool} {reply : Reply} {items : List Value}
    (h : reply.Lists first items) {response : Response} (hreply : response.exchange = .reply reply)
    {rows : List Row} (hfills : response.Fills rows) : items = rows.map .record := by
  obtain ⟨content, hdelivers, hitems⟩ := h.page
  obtain ⟨other, hother, hstatus, hbody⟩ := hfills
  rw [hreply] at hother
  cases hother
  have hread := hdelivers.read
  rw [hbody] at hread
  cases hread
  rw [itemsOrNone_list] at hitems
  cases hitems
  rfl

/-- Whatever the remote side answers, it answers with a page of records. -/
def Filling (t : Transport σ) : Prop :=
  ∀ r state, ∃ rows, (t r state).1.Fills rows

/-- All pages of the rounds hold records. -/
theorem Rounds.filled {limit : Option Int} {first : Bool} {offset : ℕ} {w w' : World (Wire σ)}
    {pages : List (List Value)} (h : Rounds c source limit first offset w pages w')
    (hfilling : Filling c.transport) :
    ∃ rows : List (List Row), pages = rows.map (·.map .record) ∧
      List.Forall₂ Response.Fills
        (answers c.transport (pageRequests c source limit offset pages) w.remote.server) rows := by
  induction h with
  | done => exact ⟨[], rfl, .nil⟩
  | @round first offset w w' items pages reply _ hreply hlists _ ih =>
    obtain ⟨rest, rfl, hrest⟩ := ih
    obtain ⟨rows, hfills⟩ := hfilling (c.pageRequest source limit offset) w.remote.server
    exact ⟨rows :: rest, by rw [hlists.unique hreply hfills]; rfl, .cons hfills hrest⟩

theorem undisturbed_after {r : Request} {w : World (Wire σ)}
    (h : Undisturbed source.guarded w c.transport) :
    Undisturbed source.guarded (after c r w) c.transport :=
  h.send rfl

theorem Rounds.undisturbed {limit : Option Int} {first : Bool} {offset : ℕ} {w w' : World (Wire σ)}
    {pages : List (List Value)} (h : Rounds c source limit first offset w pages w')
    (hcalm : Undisturbed source.guarded w c.transport) :
    Undisturbed source.guarded w' c.transport := by
  induction h with
  | done => exact hcalm
  | round _ _ _ _ ih => exact ih (undisturbed_after hcalm)

/-- Each request goes on behind the pages before it. -/
theorem pageRequests_getElem? {limit : Option Int} {pages : List (List Value)} {offset k : ℕ}
    {r : Request} (h : (pageRequests c source limit offset pages)[k]? = some r) :
    r = c.pageRequest source limit (offset + (pages.take k).flatten.length) := by
  induction pages generalizing offset k with
  | nil => cases h
  | cons page rest ih =>
    cases k with
    | zero =>
      cases h
      rfl
    | succ k =>
      have hr := ih (k := k) h
      rw [hr, List.take_succ_cons, List.flatten_cons, List.length_append, Nat.add_assoc]

/-! ## All pages -/

/-- Rounds with an endpoint that answers with pages do not break. -/
theorem selectAll_unbroken (hfilling : Filling c.transport) {limit : Option Int}
    {w : World (Wire σ)} (hlimit : limitOf source.params = .ok limit)
    (hcalm : Undisturbed source.guarded w c.transport)
    (htotal : ∀ reply, (c.transport (c.pageRequest source.unlimited limit 0)
      w.remote.server).1.exchange = .reply reply →
        ∃ total, totalOf (reply.header "Content-Range") = .ok total) :
    ∃ pages w₁ lines, Rounds c source.unlimited limit true 0 w pages w₁ ∧
      AffordableAll c source.unlimited limit w pages ∧
      c.selectAll source w = (.ok pages.flatten, w₁.logged lines) := by
  obtain ⟨pages, w₁, hrounds, hafford, hend⟩ := selectAll_course c hlimit w
  rcases hend with ⟨lines, hend⟩ | ⟨t, w₂, hbreaks, -⟩
  · exact ⟨pages, w₁, lines, hrounds, hafford, hend⟩
  · exfalso
    have hcalm₁ : Undisturbed source.unlimited.guarded w₁ c.transport := hrounds.undisturbed hcalm
    obtain ⟨rows, hfills⟩ := hfilling
      (c.pageRequest source.unlimited limit pages.flatten.length) w₁.remote.server
    have hcounted : pages.isEmpty = true → ∀ reply,
        (c.transport (c.pageRequest source.unlimited limit pages.flatten.length)
          w₁.remote.server).1.exchange = .reply reply →
            ∃ total, totalOf (reply.header "Content-Range") = .ok total := by
      intro hfirst
      rw [List.isEmpty_iff] at hfirst
      subst hfirst
      cases hrounds
      exact htotal
    obtain ⟨reply, hreply, hlists⟩ := hfills.lists hcounted
    exact hbreaks.not_lists hcalm₁.passes hreply hlists

/-- Under a limit of zero, nothing is requested. -/
theorem selectAll_nothing (c : Client σ) (hlimit : limitOf source.params = .ok (some 0))
    (w : World (Wire σ)) : ∃ lines, c.selectAll source w = (.ok [], w.logged lines) := by
  rw [selectAll_apply, hlimit]
  exact ⟨_, rfl⟩

/-- A first total with too many digits ends the call behind its first page. -/
theorem selectAll_of_long_announced (hfilling : Filling c.transport) {limit : Option ℕ}
    {w : World (Wire σ)} (hlimit : limitOf source.params = .ok (limit.map Int.ofNat))
    (hcalm : Undisturbed source.guarded w c.transport) (hne : limit ≠ some 0) {range : String}
    {total : Int} (hrange : '/' ∉ range.toList) (hlong : ¬ Numeral.IsShort total.natAbs)
    (hannounced : ∀ reply, (c.transport
      (c.pageRequest source.unlimited (limit.map Int.ofNat) 0) w.remote.server).1.exchange =
        .reply reply → reply.header "Content-Range" = range ++ "/" ++ toString total) :
    ∃ e, c.selectAll source w = (.error (.mishap (.numeral e)),
      after c (c.pageRequest source.unlimited (limit.map Int.ofNat) 0) w) := by
  obtain ⟨rows, reply, hreply, hstatus, hbody⟩ := hfilling
    (c.pageRequest source.unlimited (limit.map Int.ofNat) 0) w.remote.server
  have hok : reply.isOk = true := by
    rw [Reply.isOk, hstatus]
    rfl
  obtain ⟨e, htotal⟩ := (totalOf_announced hrange (hannounced reply hreply)).2 hlong
  have hmore := wantsMore_iff.2 ((zero_or_wanted limit).resolve_left hne)
  have hfree : (source.unlimited.guarded && w.token.cancelled) = false := hcalm.passes
  have hround := pages_round (c := c) source.unlimited w hmore
  rw [fetch_delivered hfree hreply ⟨hok, hbody⟩] at hround
  simp only [htotal] at hround
  refine ⟨e, ?_⟩
  rw [selectAll_apply, hlimit]
  rw [Source.unlimited] at hround
  simp only [hround]
  rfl

/-- A limit with too many digits ends the call before it. -/
theorem selectAll_of_long_limit (c : Client σ) {n : ℕ} (hlong : ¬ Numeral.IsShort n)
    (hlimit : (Row.get? source.params "limit").join = some (.whole (toString n)))
    (w : World (Wire σ)) : ∃ e, c.selectAll source w = (.error (.mishap (.numeral e)), w) := by
  obtain ⟨count, hread⟩ := (Numeral.readInt_repr n).2 hlong
  have hrefused : limitOf source.params = .error (.tooManyDigits count) := by
    rw [limitOf, hlimit]
    simp only [readWide_whole, hread]
    rfl
  refine ⟨.tooManyDigits count, ?_⟩
  rw [selectAll_apply, hrefused]

/-- Under a limit, and with a first total that is read, all pages are accounted for. -/
theorem selectAll_of_total (c : Client σ) (source : Source) {limit : Option ℕ}
    {w : World (Wire σ)} (hlimit : limitOf source.params = .ok (limit.map Int.ofNat))
    (hcalm : Undisturbed source.guarded w c.transport) (hfilling : Filling c.transport)
    {total : Int} (htotal : limit ≠ some 0 → ∀ reply,
      (c.transport (c.pageRequest source.unlimited (limit.map Int.ofNat) 0)
        w.remote.server).1.exchange = .reply reply →
          totalOf (reply.header "Content-Range") = .ok total) :
    ∃ (requests : List Request) (pages : List (List Row)) (w' : World (Wire σ)),
      c.selectAll source w = (.ok (pages.flatten.map .record), w') ∧
      w'.remote.sent = w.remote.sent ++ requests ∧
      List.Forall₂ Response.Fills (answers c.transport requests w.remote.server) pages ∧
      (∀ (k : ℕ) (r : Request), requests[k]? = some r →
        r.GoesOn c source limit (pages.take k).flatten.length) ∧
      (requests.length : Int) ≤ max 1 total ∧ ∀ n ∈ limit, requests.length ≤ n := by
  by_cases hzero : limit = some 0
  · subst hzero
    obtain ⟨lines, hnothing⟩ := selectAll_nothing c hlimit w
    refine ⟨[], [], w.logged lines, hnothing, (List.append_nil _).symm, .nil, nofun, ?_, ?_⟩
    · show (0 : Int) ≤ max 1 total
      omega
    · exact fun n _ => Nat.zero_le n
  replace htotal := htotal hzero
  obtain ⟨items, w₁, lines, hrounds, hafford, hend⟩ := selectAll_unbroken hfilling hlimit hcalm
    fun reply hreply => ⟨total, htotal reply hreply⟩
  obtain ⟨pages, rfl, hpages⟩ := hrounds.filled hfilling
  obtain ⟨reply, hreply⟩ : ∃ reply,
      (c.transport (c.pageRequest source.unlimited (limit.map Int.ofNat) 0)
        w.remote.server).1.exchange = .reply reply := by
    obtain ⟨rows, reply, hreply, -⟩ := hfilling
      (c.pageRequest source.unlimited (limit.map Int.ofNat) 0) w.remote.server
    exact ⟨reply, hreply⟩
  obtain ⟨hcount, hbelow⟩ := hafford.byTotal reply total hreply (htotal reply hreply)
  refine ⟨_, pages, w₁.logged lines, ?_, hrounds.remote.1, hpages, fun k r hr => ?_, ?_,
    fun n hn => ?_⟩
  · rw [hend, List.map_flatten]
  · have hplace : placeOf 0 (pages.map (·.map Value.record)) k =
        (pages.take k).flatten.length := by
      rw [placeOf, Nat.zero_add, ← List.map_take, ← List.map_flatten, List.length_map]
    have hrequest := pageRequests_getElem? hr
    have hk : k < (pages.map (·.map Value.record)).length := by
      have hlt := (List.getElem?_eq_some_iff.1 hr).1
      rwa [length_pageRequests] at hlt
    rw [hrequest, ← placeOf, hplace]
    refine pageRequest_goesOn c source ?_ ?_
    · rw [← hplace]
      exact hafford.wanted k hk
    · rw [← hplace]
      rcases hbelow k hk with rfl | hlt
      · exact show Numeral.IsShort 0 by decide
      · exact (isShort_of_totalOf (htotal reply hreply)).mono (by omega)
  · rw [length_pageRequests]
    exact hcount
  · subst hn
    have hcount := hafford.byLimit n rfl
    rw [length_pageRequests]
    omega

/-- **Paging always ends, and accounts for every page.**  Let an endpoint answer whatever it is
asked with some page of records, and nobody cancel the call.  If the limit and the total of the
first answer are read, all records of all pages are given in their order; each request goes on
behind the pages before it, with numbers that can be written; and there are no more requests than
the total says, or than the limit, but one for an empty table.  A first total with too many digits
ends the call behind its first page, and a limit with too many digits ends it before any request. -/
theorem selectAll_accounts (c : Client σ) (source : Source) (w : World (Wire σ))
    (hcalm : Undisturbed source.guarded w c.transport) (hfilling : Filling c.transport) :
    (∀ limit : Option ℕ, limitOf source.params = .ok (limit.map Int.ofNat) →
      let first := c.pageRequest source.unlimited (limit.map Int.ofNat) 0
      (∀ total : Int,
        (limit ≠ some 0 → ∀ reply, (c.transport first w.remote.server).1.exchange = .reply reply →
          totalOf (reply.header "Content-Range") = .ok total) →
        ∃ (requests : List Request) (pages : List (List Row)) (w' : World (Wire σ)),
          c.selectAll source w = (.ok (pages.flatten.map .record), w') ∧
          w'.remote.sent = w.remote.sent ++ requests ∧
          List.Forall₂ Response.Fills (answers c.transport requests w.remote.server) pages ∧
          (∀ (k : ℕ) (r : Request), requests[k]? = some r →
            r.GoesOn c source limit (pages.take k).flatten.length) ∧
          (requests.length : Int) ≤ max 1 total ∧ ∀ n ∈ limit, requests.length ≤ n) ∧
      ∀ (range : String) (total : Int), '/' ∉ range.toList →
        ¬ Numeral.IsShort total.natAbs → limit ≠ some 0 →
        (∀ reply, (c.transport first w.remote.server).1.exchange = .reply reply →
          reply.header "Content-Range" = range ++ "/" ++ toString total) →
        ∃ e, c.selectAll source w = (.error (.mishap (.numeral e)), after c first w)) ∧
    ∀ n : ℕ, ¬ Numeral.IsShort n →
      (Row.get? source.params "limit").join = some (.whole (toString n)) →
      ∃ e, c.selectAll source w = (.error (.mishap (.numeral e)), w) :=
  ⟨fun _ hlimit => ⟨fun _ htotal => selectAll_of_total c source hlimit hcalm hfilling htotal,
    fun _ _ hrange hlong hne hannounced =>
      selectAll_of_long_announced hfilling hlimit hcalm hne hrange hlong hannounced⟩,
    fun _ hlong hlimit => selectAll_of_long_limit c hlong hlimit w⟩

/-! ### Endpoints with one answer -/

/-- A page with a total. -/
def pageOf (total body : String) : Response :=
  ⟨false, .reply ⟨200, "OK", [("Content-Range", "*/" ++ total)], body⟩⟩

/-- A client of an endpoint that always gives the same answer. -/
def alwaysClient (response : Response) : Client Unit :=
  ⟨⟨"https://rows.test", "key", "execute_sql", "get_table_schema", .ofInt 30, Endpoint.usualPageSize⟩,
    fun _ _ => (response, ())⟩

/-- The rows of a table, with further parameters. -/
def itemsWith (params : Params) : Source :=
  ⟨"items", params, "structured_query", true⟩

variable {total body : String} {rows : List Row}

theorem always_filling (h : Json.read Json.lenient body = .ok (.list (rows.map .record))) :
    Filling (alwaysClient (pageOf total body)).transport :=
  fun _ _ => ⟨rows, _, rfl, rfl, h⟩

theorem header_pageOf (total body : String) :
    Reply.header ⟨200, "OK", [("Content-Range", "*/" ++ total)], body⟩ "Content-Range" =
      "*" ++ "/" ++ total := by
  simp [Reply.header]

theorem always_undisturbed (total body : String) :
    Undisturbed true calmWorld (alwaysClient (pageOf total body)).transport :=
  fun _ => ⟨rfl, fun _ _ => rfl⟩

theorem pages_of_always (h : Json.read Json.lenient body = .ok (.list (rows.map .record)))
    {requests : List Request} {pages : List (List Row)} {state : Unit}
    (hpages : List.Forall₂ Response.Fills
      (answers (alwaysClient (pageOf total body)).transport requests state) pages) :
    pages = List.replicate requests.length rows := by
  induction requests generalizing pages state with
  | nil =>
    cases hpages
    rfl
  | cons r rest ih =>
    cases hpages with
    | @cons _ page _ more hfills hrest =>
      obtain ⟨reply, hreply, -, hbody⟩ := hfills
      cases hreply
      rw [h] at hbody
      have hpage : page = rows := by
        have hmap : rows.map Value.record = page.map Value.record := by simpa using hbody
        exact (List.map_injective_iff.2 (fun _ _ heq => by simpa using heq) hmap).symm
      rw [ih hrest, hpage]
      rfl

/-- A page that comes again and again is given no more often than the total says. -/
theorem selectAll_accounts_repeated :
    ∃ n ≤ 2, ((alwaysClient (pageOf "2" "[\x7b\"id\": 1\x7d]")).selectAll
      (itemsWith [("select", some (.whole "*"))]) calmWorld).1 =
        .ok (List.replicate n (.record [("id", .int 1)])) := by
  have hbody : Json.read Json.lenient "[\x7b\"id\": 1\x7d]" =
      .ok (.list ([[("id", .int 1)]].map .record)) :=
    Json.read_of_chars ['[', '\x7b', '"', 'i', 'd', '"', ':', ' ', '1', '\x7d', ']'] (by decide)
      (by decide) rfl rfl
  have hcalm := always_undisturbed "2" "[\x7b\"id\": 1\x7d]"
  obtain ⟨hpaging, -⟩ := selectAll_accounts (alwaysClient (pageOf "2" "[\x7b\"id\": 1\x7d]"))
    (itemsWith [("select", some (.whole "*"))]) calmWorld hcalm (always_filling hbody)
  obtain ⟨requests, pages, w', hend, -, hpages, -, hcount, -⟩ :=
    (hpaging none rfl).1 2 fun _ reply hreply => by
      cases hreply
      have hrange : '/' ∉ "*".toList := by decide
      exact (@totalOf_announced _ _ 2 hrange (header_pageOf ..)).1 (by decide)
  refine ⟨requests.length, by omega, ?_⟩
  rw [hend, pages_of_always hbody hpages]
  simp [List.flatten_replicate_singleton]

/-- Two calls fail although every answer is a page of records: a total with 4301 digits is not read
behind the first page, and neither is a limit, before any page is fetched. -/
theorem selectAll_refuses_long :
    Filling (alwaysClient (pageOf (toString (10 ^ maxDigits)) "[]")).transport ∧
    Undisturbed true calmWorld (alwaysClient (pageOf (toString (10 ^ maxDigits)) "[]")).transport ∧
    (∃ e, ((alwaysClient (pageOf (toString (10 ^ maxDigits)) "[]")).selectAll
      (itemsWith [("select", some (.whole "*"))]) calmWorld).1 = .error (.mishap (.numeral e))) ∧
    ∃ e, (alwaysClient (pageOf "0" "[]")).selectAll
      (itemsWith [("limit", some (.whole (toString (10 ^ maxDigits))))]) calmWorld =
        (.error (.mishap (.numeral e)), calmWorld) := by
  have hbody : Json.read Json.lenient "[]" = .ok (.list ([].map .record)) :=
    Json.read_of_chars ['[', ']'] (by decide) (by decide) rfl rfl
  have hfilling := @always_filling (toString (10 ^ maxDigits)) _ _ hbody
  have hcalm := always_undisturbed (toString (10 ^ maxDigits)) "[]"
  refine ⟨hfilling, hcalm, ?_, selectAll_of_long_limit _ Numeral.not_isShort_pow rfl calmWorld⟩
  obtain ⟨e, hend⟩ := @selectAll_of_long_announced _ _
    (itemsWith [("select", some (.whole "*"))]) hfilling none _ rfl hcalm nofun "*"
    (10 ^ maxDigits : ℕ) (by decide) Numeral.not_isShort_pow fun reply hreply => by
      cases hreply
      exact header_pageOf ..
  exact ⟨e, by rw [hend]⟩

end ReadGate.Postgrest
