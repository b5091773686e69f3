import ReadGate.Postgrest.Paging
import ReadGate.Proofs.Backend.Run
import ReadGate.Proofs.Number.Numeral

/-!
# Endpoints that serve rows

An endpoint that holds ordered rows answers a request for a page with the rows from its offset on:
as many as are asked for, but never more than its cap, together with the total.

* `Holding`, `Conforms` — what an endpoint holds, and that it answers as it should.
* `Undisturbed` — nobody cancels the call.
* `totalOf_announced` — the total is read from the header, unless it has too many digits.
* `send_cases` — one request: what it gives, and the world after it.
* `fetch_conforming` — one page, as the client gets it.
-/

namespace ReadGate.Postgrest

open Run

variable {σ : Type}

/-! ## Conforming endpoints -/

/-- Ordered rows of JSON values, and the greatest number of rows in a reply. -/
structure Holding where
  rows : List Row
  cap : Nat
  json : ∀ row ∈ rows, Value.allJsonFields row = true
  cap_pos : 0 < cap

/-- The rows of the page of a width at an offset. -/
def Holding.page (h : Holding) (width offset : Nat) : List Row :=
  (h.rows.drop offset).take (min width h.cap)

/-- The reply brings the rows as a JSON array, and its header announces the total. -/
structure Brings (reply : Reply) (rows : List Row) (total : Nat) : Prop where
  status : reply.status = 200
  body : Json.read Json.lenient reply.body = .ok (.list (rows.map .record))
  total : ∃ range : String, '/' ∉ range.toList ∧
    reply.header "Content-Range" = range ++ "/" ++ toString total

/-- Every request for a page is answered with that page, in whatever state the remote side is. -/
def Conforms (t : Transport σ) (h : Holding) : Prop :=
  ∀ (r : Request) (state : σ) (params : Params) (width offset : Nat),
    r.method = .get → r.params = some params →
    Row.get? params "limit" = some (some (.whole (toString width))) →
    Row.get? params "offset" = some (some (.whole (toString offset))) →
    ∃ reply, (t r state).1.exchange = .reply reply ∧
      Brings reply (h.page width offset) h.rows.length

/-- If the call was handed its token, the token is not cancelled, and no reply cancels it. -/
def Undisturbed (guarded : Bool) (w : World (Wire σ)) (t : Transport σ) : Prop :=
  guarded = true → w.token.cancelled = false ∧ ∀ r state, (t r state).1.cancels = false

theorem Undisturbed.passes {guarded : Bool} {w : World (Wire σ)} {t : Transport σ}
    (h : Undisturbed guarded w t) : (guarded && w.token.cancelled) = false := by
  cases guarded with
  | false => rfl
  | true => exact (h rfl).1

/-! ## Headers -/

theorem behindSlash_append {range total : String} (h : '/' ∉ range.toList) :
    behindSlash (range ++ "/" ++ total) = total := by
  have hslash : ("/" : String).toList = ['/'] := by decide
  have hrange : ∀ c ∈ range.toList, (c != '/') = true := by
    intro c hc
    rw [bne_iff_ne]
    rintro rfl
    exact h hc
  rw [behindSlash, String.toList_append, String.toList_append, hslash, List.append_assoc,
    List.dropWhile_append_of_pos hrange]
  simp

/-- The announced total is read, unless it has too many digits. -/
theorem totalOf_announced {header range : String} {total : Int} (hrange : '/' ∉ range.toList)
    (h : header = range ++ "/" ++ toString total) :
    (Numeral.IsShort total.natAbs → totalOf header = .ok total) ∧
    (¬ Numeral.IsShort total.natAbs → ∃ e, totalOf header = .error (.mishap (.numeral e))) := by
  have hread := Numeral.readInt_toString total
  have hnumeral : Numeral.readInt (toString total) ≠ .error (.notInteger (.whole "")) ∧
      Numeral.readInt (toString total) ≠ .error (.notInteger (.whole "*")) := by
    by_cases hshort : Numeral.IsShort total.natAbs
    · rw [hread.1 hshort]
      exact ⟨nofun, nofun⟩
    · obtain ⟨count, herror⟩ := hread.2 hshort
      rw [herror]
      exact ⟨nofun, nofun⟩
  have hempty : (toString total).isEmpty = false := by
    rw [← Bool.not_eq_true, String.isEmpty_iff]
    exact fun hnil => hnumeral.1 (by rw [hnil]; rfl)
  have hstar : toString total ≠ "*" := fun hstar => hnumeral.2 (by rw [hstar]; rfl)
  have htotal : totalOf header =
      (Numeral.readInt (toString total)).mapError fun e => .mishap (.numeral e) := by
    simp only [totalOf, h, behindSlash_append hrange, hempty, hstar, decide_false, Bool.or_self,
      Bool.false_eq_true, if_false]
  rw [htotal]
  constructor
  · intro hshort
    rw [hread.1 hshort]
    rfl
  · intro hlong
    obtain ⟨count, herror⟩ := hread.2 hlong
    rw [herror]
    exact ⟨_, rfl⟩

/-- A total that is read is short. -/
theorem isShort_of_totalOf {header : String} {total : Int} (h : totalOf header = .ok total) :
    Numeral.IsShort total.natAbs := by
  unfold totalOf at h
  dsimp only at h
  split at h
  · cases h
  · cases hread : Numeral.readInt (behindSlash header) with
    | error e =>
      rw [hread] at h
      cases h
    | ok n =>
      rw [hread] at h
      cases h
      exact Numeral.isShort_of_readInt hread

/-! ## One request -/

/-- The world after a request. -/
def after (c : Client σ) (r : Request) (w : World (Wire σ)) : World (Wire σ) :=
  ⟨if (c.transport r w.remote.server).1.cancels then w.token.cancel.1 else w.token, w.log,
    ⟨w.remote.sent ++ [r], (c.transport r w.remote.server).2⟩⟩

/-- There is no reply in time, or none at all. -/
inductive Exchange.Lost : Exchange → Prop
  | timedOut (reason : String) : Lost (.timedOut reason)
  | broken (reason : String) : Lost (.broken reason)

/-- **A request gives the reply**, or ends in a failure that the client words itself, or in what the
session raises. -/
theorem send_cases (c : Client σ) (operation : String) (r : Request) (w : World (Wire σ)) :
    (∃ reply, (c.transport r w.remote.server).1.exchange = .reply reply ∧
      c.send operation r w = (.ok reply, after c r w)) ∨
    (∃ message, (c.transport r w.remote.server).1.exchange.Lost ∧
      c.send operation r w =
        (.error (.failure (.of .backendExecution message (Client.lostDetails operation))),
          after c r w)) ∨
    (∃ error, (c.transport r w.remote.server).1.exchange = .raised error ∧
      c.send operation r w = (.error (.mishap (.foreign error)), after c r w)) := by
  unfold Client.send
  rw [bind_apply, get_apply]
  simp only [bind_apply, set_apply]
  cases (c.transport r w.remote.server).1.exchange with
  | reply reply => exact .inl ⟨reply, rfl, rfl⟩
  | timedOut reason => exact .inr (.inl ⟨_, .timedOut reason, rfl⟩)
  | broken reason => exact .inr (.inl ⟨_, .broken reason, rfl⟩)
  | raised error => exact .inr (.inr ⟨error, rfl, rfl⟩)

theorem send_heard {c : Client σ} {r : Request} {w : World (Wire σ)} {reply : Reply}
    (operation : String) (h : (c.transport r w.remote.server).1.exchange = .reply reply) :
    c.send operation r w = (.ok reply, after c r w) := by
  obtain ⟨other, hother, hsend⟩ | ⟨_, hlost, -⟩ | ⟨_, hraised, -⟩ := send_cases c operation r w
  · rw [h] at hother
    cases hother
    exact hsend
  · rw [h] at hlost
    cases hlost
  · rw [h] at hraised
    cases hraised

/-! ## One page -/

theorem Undisturbed.send {guarded : Bool} {c : Client σ} {r : Request} {w w' : World (Wire σ)}
    (h : Undisturbed guarded w c.transport)
    (htoken : w'.token = if (c.transport r w.remote.server).1.cancels then w.token.cancel.1
      else w.token) : Undisturbed guarded w' c.transport := by
  intro hguarded
  obtain ⟨htok, hcancels⟩ := h hguarded
  refine ⟨?_, hcancels⟩
  rw [htoken, hcancels, if_neg Bool.false_ne_true]
  exact htok

theorem requireOk_apply {reply : Reply} (operation : String) (h : reply.status = 200)
    (w : World (Wire σ)) : Client.requireOk operation reply w = (.ok (), w) := by
  have hok : reply.isOk = true := by
    rw [Reply.isOk, h]
    rfl
  rw [Client.requireOk, if_pos hok, pure_apply]

theorem decode_apply {reply : Reply} {v : Value} (operation : String)
    (h : Json.read Json.lenient reply.body = .ok v) (w : World (Wire σ)) :
    Client.decode operation reply w = (.ok v, w) := by
  simp only [Client.decode, h, pure_apply]

/-- The parameters of a page, whatever the parameters of the source are. -/
theorem pageRequest_params (c : Client σ) (source : Source) {limit : Option Int}
    {offset width : Nat} (hwidth : c.pageLimit limit offset = width) :
    ∃ params, (c.pageRequest source limit offset).params = some params ∧
      Row.get? params "limit" = some (some (.whole (toString width))) ∧
      Row.get? params "offset" = some (some (.whole (toString offset))) := by
  refine ⟨_, rfl, ?_, ?_⟩
  · simp only [Row.putAll, List.foldl_cons, List.foldl_nil]
    rw [Row.get?_put_of_ne _ _ (by decide), Row.get?_put_self, hwidth]
    rfl
  · simp only [Row.putAll, List.foldl_cons, List.foldl_nil]
    rw [Row.get?_put_self]

/-- The client gets the page that it asks for, and nothing has disturbed the call by then. -/
theorem fetch_conforming {c : Client σ} {h : Holding} {source : Source} {limit : Option Int}
    {offset width : Nat} {w : World (Wire σ)} (hconf : Conforms c.transport h)
    (hcalm : Undisturbed source.guarded w c.transport)
    (hwidth : c.pageLimit limit offset = width) :
    ∃ reply w', c.fetch source limit offset w =
        (.ok (.list ((h.page width offset).map .record), reply), w') ∧
      Undisturbed source.guarded w' c.transport ∧
      Brings reply (h.page width offset) h.rows.length := by
  obtain ⟨params, hparams, hlimit, hoffset⟩ := pageRequest_params c source hwidth
  obtain ⟨reply, hreply, hbrings⟩ :=
    hconf _ w.remote.server params width offset rfl hparams hlimit hoffset
  refine ⟨reply, after c (c.pageRequest source limit offset) w, ?_, hcalm.send rfl, hbrings⟩
  simp only [Client.fetch, bind_apply, check_pass hcalm.passes, send_heard _ hreply,
    requireOk_apply _ hbrings.status, decode_apply _ hbrings.body, pure_apply]

end ReadGate.Postgrest
