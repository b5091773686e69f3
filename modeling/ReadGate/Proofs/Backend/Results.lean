import ReadGate.Proofs.Json.Contents
import ReadGate.Proofs.Postgres.Session
import ReadGate.Proofs.Postgrest.Selection

/-!
# Results of execution functions

An endpoint and a database both hand a query text to a function whose result is a JSON value, and
both read rows from it.  An item of a list that is not a record gets a row of its own in either
case; but the endpoint puts its scalar there, the text of a list, and the database the item itself.

* `Value.resultRows`, `rowsOfResult_legible` — the rows in a result, by what stands for an item.
* `Value.NestsList`, `resultRows_agree_iff` — only a list in a list is read in two ways.
* `Client.Delivers`, `Database.Delivers` — the function of an endpoint, or of a database, gives a
  value.
* `rawExecute_agree_iff` — an endpoint and a database give the same rows for the same value, unless
  it nests a list.
* `rawExecute_agree_iff_nested` — two numbers in a list in a list, which they read differently.
-/

namespace ReadGate

open Run

variable {σ : Type}

/-! ## Rows in a result -/

namespace Value

/-- The rows in a result: none for null, one for each item of a list, and one for anything else.
An item that is not a record stands in its row as `cell` says. -/
def resultRows (cell : Value → Value) : Value → List Row
  | null => []
  | list items => items.map fun item =>
    match item with
    | record fields => fields
    | item => [(valueColumn, cell item)]
  | record fields => [fields]
  | v => [[(valueColumn, v)]]

/-- The value is a list with a list among its items. -/
def NestsList (v : Value) : Prop :=
  ∃ items inner, v = list items ∧ list inner ∈ items

theorem legible_of_mem {items : List Value} (h : LegibleItems items) :
    ∀ item ∈ items, item.Legible := by
  induction items with
  | nil => simp
  | cons first rest ih =>
    rw [legibleItems_cons] at h
    exact List.forall_mem_cons.2 ⟨h.1, ih h.2⟩

end Value

open Value

/-- The result of a function is read as the rows in it, whatever reads the items of a list. -/
theorem rowsOfResult_legible {item : Value → Except Mishap Value} {cell : Value → Value}
    (hitem : ∀ v, v.Legible → item v = .ok (cell v)) {v : Value} (hv : v.Legible) :
    rowsOfResult item v = .ok (v.resultRows cell) := by
  cases v with
  | list items =>
    show items.mapM _ = Except.ok (items.map _)
    rw [mapM_eq_ok_iff, List.forall₂_map_right_iff, List.forall₂_same]
    intro x hx
    have hlegible : x.Legible := legible_of_mem hv x hx
    cases x with
    | record fields => exact toRow_of_json hlegible.1
    | _ => simp only [hitem _ hlegible]; rfl
  | record fields =>
    have hrow : toRow fields = .ok fields := toRow_of_json hv.1
    simp only [rowsOfResult, hrow]
    rfl
  | _ => first | rfl | cases hv.1

/-- **Only a list in a list is read in two ways.** -/
theorem resultRows_agree_iff (v : Value) :
    v.resultRows scalarForm = v.resultRows id ↔ ¬ v.NestsList := by
  cases v with
  | list items =>
    have hitems : ¬ (list items).NestsList ↔ ∀ item ∈ items, ∀ inner, item ≠ .list inner := by
      simp only [NestsList, Value.list.injEq]
      grind
    rw [hitems]
    show items.map _ = items.map _ ↔ _
    rw [List.map_inj_left]
    refine forall₂_congr fun item _ => ?_
    cases item <;> simp [scalarForm]
  | _ => simp [resultRows, NestsList]

/-! ## The function of an endpoint -/

namespace Postgrest

/-- The body of a reply holds a value; an empty one holds null. -/
def Reply.Holds (r : Reply) (v : Value) : Prop :=
  (r.body = "" ∧ v = .null) ∨ Json.read Json.lenient r.body = .ok v

/-- The request that hands a query text to the function. -/
def Client.executionRequest (c : Client σ) (text : String) : Request :=
  c.request .post s!"rpc/{c.endpoint.rpcFunction}" none
    (some (.record [("sql_query", .text text)])) []

/-- No token stops the call before its request, and the function gives the value. -/
structure Client.Delivers (c : Client σ) (guarded : Bool) (text : String) (w : World (Wire σ))
    (v : Value) : Prop where
  free : (guarded && w.token.cancelled) = false
  reply : ∃ reply, reply.status = 200 ∧ reply.Holds v ∧
    (c.transport (c.executionRequest text) w.remote.server).1.exchange = .reply reply

theorem Reply.Holds.legible {r : Reply} {v : Value} (h : r.Holds v) : v.Legible := by
  rcases h with ⟨-, rfl⟩ | hread
  · exact ⟨rfl, rfl⟩
  · exact Json.legible_of_read hread

theorem rowsOfBody_apply {r : Reply} {v : Value} (h : r.Holds v) (w : World (Wire σ)) :
    Client.rowsOfBody r w = (.ok (v.resultRows scalarForm), w) := by
  have hrows : rowsOfResult Value.toScalar v = .ok (v.resultRows scalarForm) :=
    rowsOfResult_legible (fun _ => toScalar_of_legible) h.legible
  unfold Client.rowsOfBody
  cases hempty : r.body.isEmpty with
  | true =>
    have hbody : r.body = "" := String.isEmpty_iff.1 hempty
    rcases h with ⟨-, rfl⟩ | hread
    · rfl
    · rw [hbody] at hread
      cases hread
  | false =>
    rcases h with ⟨hbody, -⟩ | hread
    · rw [hbody] at hempty
      cases hempty
    · simp only [Bool.false_eq_true, if_false, bind_apply, decode_apply _ hread, hrows, lift_ok]

/-- An endpoint gives the rows in the result of its function, with scalars for the items. -/
theorem Client.Delivers.rows {c : Client σ} {guarded : Bool} {text : String}
    {w : World (Wire σ)} {v : Value} (h : c.Delivers guarded text w v) :
    (c.rawExecute guarded text w).1 = .ok (v.resultRows scalarForm) := by
  obtain ⟨reply, hstatus, hholds, hreply⟩ := h.reply
  have hok : reply.isOk = true := by
    rw [Reply.isOk, hstatus]
    rfl
  have hcall : c.callFunction "raw_execute" c.endpoint.rpcFunction [("sql_query", .text text)] w =
      (.ok reply, after c (c.executionRequest text) w) := send_heard "raw_execute" hreply
  unfold Client.rawExecute
  simp only [bind_apply, check_pass h.free, hcall, hok, if_true, rowsOfBody_apply hholds]

end Postgrest

/-! ## The function of a database -/

namespace Postgres

/-- A connection opens, executes the statement, and answers it with a result: a row that has the
value in its column of results. -/
structure Connection.Answers (c : Connection) (v : Value) : Prop where
  opens : c.connectFault = none
  executes : c.executeFault = none
  result : c.noResult = none
  row : ∃ row, c.row = some row ∧ Row.get? row "result" = some v

/-- No token stops the call before its visit, and the function gives the value. -/
structure Database.Delivers (d : Database) (guarded : Bool) (w : World Server) (v : Value) :
    Prop where
  free : (guarded && w.token.cancelled) = false
  function : ∃ name, d.rpcFunction = some name
  connection : ∃ c ∈ w.remote.script.head?, c.Answers v

theorem rowsOfFunction_answered {c : Connection} {v : Value} (h : c.Answers v) :
    rowsOfFunction c.row = rowsOfResult .ok v := by
  obtain ⟨row, hrow, hget⟩ := h.row
  rw [hrow]
  cases row with
  | nil => cases hget
  | cons cell rest =>
    have hcell : cellOf (some (cell :: rest)) "result" = .ok v := by
      simp only [cellOf, Value.part, hget]
    simp only [rowsOfFunction, hcell]
    rfl

/-- A session on a connection that opens ends as the answer says, if no fault stops the statement or
its fetch. -/
theorem session_answered {α : Type} (d : Database) (op : Operation) {w : World Server}
    {c : Connection} (hfree : (op.guarded && w.token.cancelled) = false)
    (hgranted : w.remote.script.head? = some c) (hopens : c.connectFault = none)
    (hexecutes : c.executeFault = none) (hresult : c.noResult = none) (sql : String)
    (params : Option (List Value)) (answer : Connection → Except Mishap α) :
    (session d op (fun c => ask c sql params (fetched c (answer c))) w).1 =
      (answer c).mapError .mishap := by
  have hopening : opening w.remote.script.head? = .ok c := by
    simp only [hgranted, opening, hopens, barring]
  obtain ⟨number, w₁, hconnect, htoken, -⟩ := connect_apply d.connectionString w
  obtain ⟨count, w₂, hheld, -⟩ :=
    held_apply (w := w₁) (by rwa [htoken]) number c sql params (fetched c (answer c))
  have hanswering : answering c (fetched c (answer c)) = .ok (answer c) := by
    simp only [answering, barring, hexecutes, fetched, hresult]
    rfl
  rw [hopening] at hconnect
  rw [hanswering] at hheld
  have hvisit : withConnection d.connectionString (fun number c => withRegistration op number
      (ask c sql params (fetched c (answer c)))) w = (tried (.ok (answer c)), w₂) := by
    unfold withConnection
    rw [bind_apply, hconnect]
    exact hheld
  unfold session
  rw [bind_apply, hvisit]
  cases answer c <;> rfl

/-- A database gives the rows in the result of its function, with the items as they are. -/
theorem Database.Delivers.rows {d : Database} {guarded : Bool} {w : World Server} {v : Value}
    (h : d.Delivers guarded w v) (hv : v.Legible) (text : String) :
    (d.rawExecute guarded text w).1 = .ok (v.resultRows id) := by
  obtain ⟨name, hname⟩ := h.function
  obtain ⟨c, hgranted, hanswers⟩ := h.connection
  have hrows : rowsOfFunction c.row = .ok (v.resultRows id) := by
    rw [rowsOfFunction_answered hanswers]
    exact rowsOfResult_legible (fun _ _ => rfl) hv
  have hsession := session_answered d ⟨"raw_execute", guarded, true⟩ h.free hgranted
    hanswers.opens hanswers.executes hanswers.result (Statement.callFunction name) (some [.text text])
    fun c => rowsOfFunction c.row
  unfold Database.rawExecute
  simp only [hname, bind_apply, check_pass h.free, hsession, hrows]
  rfl

end Postgres

/-! ## Both -/

/-- **An endpoint and a database read the same rows from the same result, unless it nests a list.**
Let the functions of both give one JSON value.  Both calls give rows; they are the rows in the
value, with scalars for the items of a list in one case and with the items themselves in the other,
and they are the same if and only if the value is no list with a list among its items. -/
theorem rawExecute_agree_iff (c : Postgrest.Client σ) (d : Postgres.Database)
    (guarded guarded' : Bool) (text text' : String) (w : World (Postgrest.Wire σ))
    (w' : World Postgres.Server) (v : Value)
    (hendpoint : c.Delivers guarded text w v) (hdatabase : d.Delivers guarded' w' v) :
    (c.rawExecute guarded text w).1 = .ok (v.resultRows scalarForm) ∧
    (d.rawExecute guarded' text' w').1 = .ok (v.resultRows id) ∧
    ((c.rawExecute guarded text w).1 = (d.rawExecute guarded' text' w').1 ↔ ¬ v.NestsList) := by
  obtain ⟨_, -, hholds, -⟩ := hendpoint.reply
  have hrows := hendpoint.rows
  have hrows' := hdatabase.rows hholds.legible text'
  refine ⟨hrows, hrows', ?_⟩
  rw [hrows, hrows', Except.ok.injEq]
  exact resultRows_agree_iff v

/-- Two numbers in a list in a list. -/
def nestedNumbers : Value :=
  .list [.list [.int 1, .int 2]]

/-- An endpoint whose function gives them. -/
def nestedEndpoint : Postgrest.Client (List Postgrest.Response) :=
  ⟨⟨"https://x.test", "k", "execute_sql", "get_table_schema", .ofInt 30,
    Postgrest.Endpoint.usualPageSize⟩, Postgrest.scripted⟩

/-- A call of the endpoint, before its reply. -/
def nestedReplies : World (Postgrest.Wire (List Postgrest.Response)) :=
  ⟨.fresh, [], ⟨[], [⟨false, .reply ⟨200, "OK", [], "[[1, 2]]"⟩⟩]⟩⟩

/-- A database whose function gives them. -/
def nestedDatabase : Postgres.Database :=
  ⟨"localhost", Postgres.Database.usualPort, "postgres", "postgres", "postgres",
    Postgres.Database.usualTimeout, some "execute_sql"⟩

/-- A call of the database, before its connection. -/
def nestedConnections : World Postgres.Server :=
  ⟨.fresh, [], ⟨[⟨none, none, [], some [("result", nestedNumbers)], none, false, false⟩], [], []⟩⟩

/-- The endpoint gives the text of the inner list, and the database gives the list. -/
theorem rawExecute_agree_iff_nested :
    (nestedEndpoint.rawExecute true "SELECT 1" nestedReplies).1 =
        .ok [[("value", .text "[1, 2]")]] ∧
      (nestedDatabase.rawExecute true "SELECT 1" nestedConnections).1 =
        .ok [[("value", .list [.int 1, .int 2])]] ∧
      (nestedEndpoint.rawExecute true "SELECT 1" nestedReplies).1 ≠
        (nestedDatabase.rawExecute true "SELECT 1" nestedConnections).1 := by
  have hbody : Json.read Json.lenient "[[1, 2]]" = .ok nestedNumbers :=
    Json.read_of_chars ['[', '[', '1', ',', ' ', '2', ']', ']'] (by decide) (by decide) rfl rfl
  have hendpoint : nestedEndpoint.Delivers true "SELECT 1" nestedReplies nestedNumbers :=
    ⟨rfl, ⟨200, "OK", [], "[[1, 2]]"⟩, rfl, .inr hbody, rfl⟩
  have hdatabase : nestedDatabase.Delivers true nestedConnections nestedNumbers :=
    ⟨rfl, ⟨_, rfl⟩, _, rfl, rfl, rfl, rfl, _, rfl, rfl⟩
  obtain ⟨hrows, hrows', hagree⟩ := rawExecute_agree_iff nestedEndpoint nestedDatabase true true
    "SELECT 1" "SELECT 1" nestedReplies nestedConnections nestedNumbers hendpoint hdatabase
  refine ⟨hrows, hrows', fun hsame => hagree.1 hsame ?_⟩
  exact ⟨_, _, rfl, List.mem_singleton_self _⟩

end ReadGate
