import ReadGate.Proofs.Postgrest.Requests

/-!
# Conversations with an endpoint

Whatever an endpoint replies, a call that fetches page by page goes through some rounds, in each of
which it sends a request and gets a reply that lists items, and then it either has enough or breaks.
How it breaks is said by the last exchange: only a reply that baffles the client ends in a mishap,
or what the session itself raises.

* `answers`, `heard` — the responses to requests, and those that a call hears.
* `fetch_cases` — what a request for a page comes to.
* `Exchange.Upsets` — what is no reply and no lack of one, or a reply of a given shape.
* `Reply.Lists`, `Reply.Baffles` — replies that go on, and replies that end in a mishap.
* `Rounds`, `Breaks` — what a call goes through, and how it breaks.
* `more_course`, `pages_course`, `selectAll_course` — every call goes through rounds and then ends.
-/

namespace ReadGate.Postgrest

open Run

variable {σ : Type} {c : Client σ}

/-! ## Requests and responses -/

/-- The responses to requests that are sent one after the other. -/
def answers (t : Transport σ) : List Request → σ → List Response
  | [], _ => []
  | r :: rest, s => (t r s).1 :: answers t rest (t r s).2

/-- The state of the remote side after requests. -/
def serverAfter (t : Transport σ) (requests : List Request) (s : σ) : σ :=
  requests.foldl (fun s r => (t r s).2) s

theorem answers_append (t : Transport σ) (requests more : List Request) (s : σ) :
    answers t (requests ++ more) s =
      answers t requests s ++ answers t more (serverAfter t requests s) := by
  induction requests generalizing s with
  | nil => rfl
  | cons r rest ih => exact congrArg _ (ih _)

theorem length_answers (t : Transport σ) (requests : List Request) (s : σ) :
    (answers t requests s).length = requests.length := by
  induction requests generalizing s with
  | nil => rfl
  | cons r rest ih => exact congrArg (· + 1) (ih _)

/-- What the client hears while a call leads from one world to another. -/
def heard (c : Client σ) (w w' : World (Wire σ)) : List Response :=
  answers c.transport (w'.remote.sent.drop w.remote.sent.length) w.remote.server

theorem heard_of_sent (c : Client σ) {w w' : World (Wire σ)} {requests : List Request}
    (h : w'.remote.sent = w.remote.sent ++ requests) :
    heard c w w' = answers c.transport requests w.remote.server := by
  rw [heard, h, List.drop_left]

/-! ## Replies -/

/-- The reply reports success and brings a content. -/
structure Reply.Delivers (reply : Reply) (content : Value) : Prop where
  ok : reply.isOk = true
  read : Json.read Json.lenient reply.body = .ok content

/-- The exchange brings a reply of a shape, or what the session itself raises. -/
inductive Exchange.Upsets (shape : Reply → Prop) : Exchange → Prop
  | reply {reply : Reply} (h : shape reply) : Upsets shape (.reply reply)
  | raised (error : Foreign) : Upsets shape (.raised error)

section Exchanges

variable {shape : Reply → Prop} {reply : Reply} {exchange : Exchange}

theorem upsets_iff (h : exchange = .reply reply) : exchange.Upsets shape ↔ shape reply := by
  subst h
  exact ⟨fun | .reply hshape => hshape, .reply⟩

theorem Exchange.Upsets.of_raised {error : Foreign} (h : exchange = .raised error) :
    exchange.Upsets shape := by
  subst h
  exact .raised error

theorem Exchange.Lost.not_upsets (h : exchange.Lost) : ¬ exchange.Upsets shape := by
  rintro (_ | _) <;> cases h

theorem Exchange.Lost.ne_reply (h : exchange.Lost) : exchange ≠ .reply reply := by
  rintro rfl
  cases h

/-- A shape that more replies have upsets no less. -/
theorem Exchange.Upsets.mono {other : Reply → Prop} (h : exchange.Upsets shape)
    (himp : ∀ reply, exchange = .reply reply → shape reply → other reply) :
    exchange.Upsets other := by
  cases h with
  | reply h => exact .reply (himp _ rfl h)
  | raised error => exact .raised error

end Exchanges

/-- The body of the reply nests deeper than is read. -/
def Reply.TooDeep (reply : Reply) : Prop :=
  ∃ container, Json.read Json.lenient reply.body = .error (.tooDeep container)

theorem Reply.Delivers.shallow {reply : Reply} {content : Value} (h : reply.Delivers content) :
    ¬ reply.TooDeep := by
  rintro ⟨container, hdeep⟩
  rw [h.read] at hdeep
  cases hdeep

theorem Reply.Delivers.unique {reply : Reply} {content other : Value} (h : reply.Delivers content)
    (h' : reply.Delivers other) : content = other := by
  have hread := h.read
  rw [h'.read] at hread
  cases hread
  rfl

theorem errorOf_deep {reply : Reply} {container : Json.Container}
    (h : Json.read Json.lenient reply.body = .error (.tooDeep container)) :
    Client.errorOf reply = .error (.tooDeep container) := by
  simp only [Client.errorOf, h]

theorem errorOf_shallow {reply : Reply} (h : ¬ reply.TooDeep) :
    ∃ message code, Client.errorOf reply = .ok (message, code) := by
  unfold Client.errorOf
  split
  · rename_i container hdeep
    exact absurd ⟨container, hdeep⟩ h
  · exact ⟨_, _, rfl⟩
  · exact ⟨_, _, rfl⟩

/-- The content of a reply that reports success. -/
def contentOf (operation : String) (reply : Reply) : Run (Wire σ) Value := do
  Client.requireOk operation reply
  Client.decode operation reply

section Reading

variable {reply : Reply} {content : Value}

theorem contentOf_delivers (operation : String) (h : reply.Delivers content) (w : World (Wire σ)) :
    contentOf operation reply w = (.ok content, w) := by
  simp only [contentOf, bind_apply, Client.requireOk, h.ok, if_true, pure_apply,
    decode_apply operation h.read]

theorem contentOf_deep (operation : String) (h : reply.TooDeep) (w : World (Wire σ)) :
    ∃ m, contentOf operation reply w = (.error (.mishap m), w) := by
  obtain ⟨container, hread⟩ := h
  refine ⟨.tooDeep container, ?_⟩
  cases hok : reply.isOk with
  | true =>
    simp only [contentOf, bind_apply, Client.requireOk, hok, if_true, pure_apply, Client.decode,
      hread, throw_apply]
  | false =>
    simp only [contentOf, bind_apply, Client.requireOk, hok, Bool.false_eq_true, if_false,
      errorOf_deep hread]
    rfl

theorem contentOf_failed (operation : String) (h : ¬ reply.TooDeep)
    (hnone : ∀ content, ¬ reply.Delivers content) (w : World (Wire σ)) :
    ∃ f, contentOf operation reply w = (.error (.failure f), w) := by
  cases hok : reply.isOk with
  | false =>
    obtain ⟨message, code, herror⟩ := errorOf_shallow h
    simp only [contentOf, bind_apply, Client.requireOk, hok, Bool.false_eq_true, if_false, herror]
    exact ⟨_, rfl⟩
  | true =>
    simp only [contentOf, bind_apply, Client.requireOk, hok, if_true, pure_apply, Client.decode]
    cases hread : Json.read Json.lenient reply.body with
    | ok content => exact absurd ⟨hok, hread⟩ (hnone content)
    | error e =>
      cases e with
      | tooDeep container => exact absurd ⟨container, hread⟩ h
      | malformed fault left => exact ⟨_, rfl⟩
      | numeral error => exact ⟨_, rfl⟩

end Reading

/-! ## One request for a page -/

/-- What a request for a page comes to.  A failure tells nothing about a reply but that it brings no
content, and that it does not nest too deep; and that the session raised nothing. -/
inductive Fetched (c : Client σ) (source : Source) (limit : Option Int) (offset : ℕ)
    (w : World (Wire σ)) : Except Trouble (Value × Reply) → World (Wire σ) → Prop
  | stopped (h : (source.guarded && w.token.cancelled) = true) :
    Fetched c source limit offset w (.error (.failure (.cancelledBefore source.operation))) w
  | failed (hfree : (source.guarded && w.token.cancelled) = false) {f : Failure}
    (hcalm : ¬ (c.transport (c.pageRequest source limit offset)
      w.remote.server).1.exchange.Upsets Reply.TooDeep)
    (hnone : ∀ reply, (c.transport (c.pageRequest source limit offset)
      w.remote.server).1.exchange = .reply reply → ∀ content, ¬ reply.Delivers content) :
    Fetched c source limit offset w (.error (.failure f))
      (after c (c.pageRequest source limit offset) w)
  | upset (hfree : (source.guarded && w.token.cancelled) = false)
    (hupsets : (c.transport (c.pageRequest source limit offset)
      w.remote.server).1.exchange.Upsets Reply.TooDeep) {m : Mishap} :
    Fetched c source limit offset w (.error (.mishap m))
      (after c (c.pageRequest source limit offset) w)
  | page (hfree : (source.guarded && w.token.cancelled) = false) {reply : Reply} {content : Value}
    (hreply : (c.transport (c.pageRequest source limit offset)
      w.remote.server).1.exchange = .reply reply) (hdelivers : reply.Delivers content) :
    Fetched c source limit offset w (.ok (content, reply))
      (after c (c.pageRequest source limit offset) w)

/-- A page is fetched behind a check: the request is sent, and the content of its reply is read. -/
theorem fetch_eq (c : Client σ) (source : Source) (limit : Option Int) (offset : ℕ) :
    c.fetch source limit offset = (do
      Run.check source.guarded source.operation
      let reply ← c.send source.operation (c.pageRequest source limit offset)
      let content ← contentOf source.operation reply
      return (content, reply)) := by
  simp only [Client.fetch, contentOf, bind_assoc]

theorem fetch_cases (c : Client σ) (source : Source) (limit : Option Int) (offset : ℕ)
    (w : World (Wire σ)) : Fetched c source limit offset w
      (c.fetch source limit offset w).1 (c.fetch source limit offset w).2 := by
  rw [fetch_eq]
  cases hc : source.guarded && w.token.cancelled with
  | true =>
    simp only [bind_apply, check_stop hc]
    exact .stopped hc
  | false =>
    obtain ⟨reply, hreply, hsend⟩ | ⟨message, hlost, hsend⟩ | ⟨error, hraised, hsend⟩ :=
        send_cases c source.operation (c.pageRequest source limit offset) w <;>
      simp only [bind_apply, check_pass hc, hsend]
    · by_cases hdeep : reply.TooDeep
      · obtain ⟨m, hcontent⟩ := contentOf_deep source.operation hdeep
          (after c (c.pageRequest source limit offset) w)
        rw [hcontent]
        exact .upset hc ((upsets_iff hreply).2 hdeep)
      by_cases hdelivers : ∃ content, reply.Delivers content
      · obtain ⟨content, hdelivers⟩ := hdelivers
        rw [contentOf_delivers source.operation hdelivers]
        exact .page hc hreply hdelivers
      · obtain ⟨f, hcontent⟩ := contentOf_failed source.operation hdeep (not_exists.1 hdelivers)
          (after c (c.pageRequest source limit offset) w)
        rw [hcontent]
        refine .failed hc ((upsets_iff hreply).not.2 hdeep) fun other hother => ?_
        rw [hreply] at hother
        cases hother
        exact not_exists.1 hdelivers
    · exact .failed hc hlost.not_upsets fun reply hreply => absurd hreply hlost.ne_reply
    · exact .upset hc (.of_raised hraised)

/-- A page that is delivered is fetched. -/
theorem fetch_delivered {source : Source} {limit : Option Int} {offset : ℕ} {w : World (Wire σ)}
    (hfree : (source.guarded && w.token.cancelled) = false) {reply : Reply} {content : Value}
    (hreply : (c.transport (c.pageRequest source limit offset) w.remote.server).1.exchange =
      .reply reply) (hdelivers : reply.Delivers content) :
    c.fetch source limit offset w =
      (.ok (content, reply), after c (c.pageRequest source limit offset) w) := by
  simp only [fetch_eq, bind_apply, check_pass hfree, send_heard _ hreply,
    contentOf_delivers _ hdelivers, pure_apply]

/-! ## Rounds -/

/-- The reply lists items; and if it is the first of a conversation, its header announces a total
that is read. -/
structure Reply.Lists (first : Bool) (reply : Reply) (items : List Value) : Prop where
  page : ∃ content, reply.Delivers content ∧ content.itemsOrNone = .ok items
  counted : first = true → ∃ total, totalOf (reply.header "Content-Range") = .ok total

/-- The reply cannot be taken apart: its body nests too deep, or is no listing; or it is the first
of a conversation, and its header announces something that is no number. -/
inductive Reply.Baffles (first : Bool) (reply : Reply) : Prop
  | deep (h : reply.TooDeep)
  | total {content : Value} {m : Mishap} (hfirst : first = true)
    (hdelivers : reply.Delivers content)
    (h : totalOf (reply.header "Content-Range") = .error (.mishap m))
  | items {content : Value} {m : Mishap} (hdelivers : reply.Delivers content)
    (hcounted : first = true → ∃ total, totalOf (reply.header "Content-Range") = .ok total)
    (h : content.itemsOrNone = .error m)

theorem Reply.Lists.calm {first : Bool} {reply : Reply} {items : List Value}
    (h : reply.Lists first items) : ¬ reply.Baffles first := by
  obtain ⟨content, hdelivers, hitems⟩ := h.page
  intro hbaffles
  cases hbaffles with
  | deep hdeep => exact hdelivers.shallow hdeep
  | total hfirst _ htotal =>
    obtain ⟨total, hcounted⟩ := h.counted hfirst
    rw [htotal] at hcounted
    cases hcounted
  | items hother _ herror =>
    rw [hother.unique hdelivers, hitems] at herror
    cases herror

/-- A call goes through rounds: each sends the request for the next page, and gets a reply that
lists its items. -/
inductive Rounds (c : Client σ) (source : Source) (limit : Option Int) :
    Bool → ℕ → World (Wire σ) → List (List Value) → World (Wire σ) → Prop
  | done (first : Bool) (offset : ℕ) (w : World (Wire σ)) :
    Rounds c source limit first offset w [] w
  | round {first : Bool} {offset : ℕ} {w w' : World (Wire σ)} {items : List Value}
    {pages : List (List Value)} {reply : Reply}
    (hfree : (source.guarded && w.token.cancelled) = false)
    (hreply : (c.transport (c.pageRequest source limit offset)
      w.remote.server).1.exchange = .reply reply)
    (hlists : reply.Lists first items)
    (rest : Rounds c source limit false (offset + items.length)
      (after c (c.pageRequest source limit offset) w) pages w') :
    Rounds c source limit first offset w (items :: pages) w'

/-- A call breaks at its next request: it is stopped before it or fails behind it, since there is no
reply that lists items, and it ends in a mishap exactly if the reply baffles it or the session
raises something. -/
inductive Breaks (c : Client σ) (source : Source) (limit : Option Int) (first : Bool) (offset : ℕ)
    (w : World (Wire σ)) : Trouble → World (Wire σ) → Prop
  | stopped (h : (source.guarded && w.token.cancelled) = true) :
    Breaks c source limit first offset w (.failure (.cancelledBefore source.operation)) w
  | failed {f : Failure} (hcalm : ¬ (c.transport (c.pageRequest source limit offset)
      w.remote.server).1.exchange.Upsets (Reply.Baffles first))
    (hnone : ∀ reply, (c.transport (c.pageRequest source limit offset)
      w.remote.server).1.exchange = .reply reply → ∀ items, ¬ reply.Lists first items) :
    Breaks c source limit first offset w (.failure f)
      (after c (c.pageRequest source limit offset) w)
  | upset {m : Mishap} (hupsets : (c.transport (c.pageRequest source limit offset)
      w.remote.server).1.exchange.Upsets (Reply.Baffles first)) :
    Breaks c source limit first offset w (.mishap m)
      (after c (c.pageRequest source limit offset) w)

theorem Fetched.brought {source : Source} {limit : Option Int} {offset : ℕ}
    {w w' : World (Wire σ)} {content : Value} {reply : Reply}
    (h : Fetched c source limit offset w (.ok (content, reply)) w') :
    (source.guarded && w.token.cancelled) = false ∧
      (c.transport (c.pageRequest source limit offset) w.remote.server).1.exchange =
        .reply reply ∧
      reply.Delivers content ∧ w' = after c (c.pageRequest source limit offset) w := by
  cases h with
  | page hfree hreply hdelivers => exact ⟨hfree, hreply, hdelivers, rfl⟩

/-- A request that does not bring a page breaks the call. -/
theorem Fetched.breaks {source : Source} {limit : Option Int} {offset : ℕ} {w w' : World (Wire σ)}
    {t : Trouble} (h : Fetched c source limit offset w (.error t) w') (first : Bool) :
    Breaks c source limit first offset w t w' := by
  cases h with
  | stopped hstop => exact .stopped hstop
  | failed _ hcalm hnone =>
    refine .failed (fun hupsets => hcalm (hupsets.mono fun reply hreply hbaffles => ?_))
      fun reply hreply items hlists => ?_
    · cases hbaffles with
      | deep hdeep => exact hdeep
      | total _ hdelivers _ => exact absurd hdelivers (hnone reply hreply _)
      | items hdelivers _ _ => exact absurd hdelivers (hnone reply hreply _)
    · obtain ⟨content, hdelivers, -⟩ := hlists.page
      exact hnone reply hreply content hdelivers
  | upset _ hupsets => exact .upset (hupsets.mono fun _ _ => .deep)

/-! ## Courses -/

/-- Where the rows of a page stand: behind an offset and the pages before it. -/
def placeOf (offset : ℕ) (pages : List (List Value)) (k : ℕ) : ℕ :=
  offset + (pages.take k).flatten.length

theorem placeOf_succ (offset : ℕ) (page : List Value) (pages : List (List Value)) (k : ℕ) :
    placeOf offset (page :: pages) (k + 1) = placeOf (offset + page.length) pages k := by
  simp [placeOf, Nat.add_assoc]

/-- Pages are affordable behind an offset: none is asked for when the total or the limit is reached,
and each but the last brings a row. -/
structure Affordable (total : Int) (limit : Option Int) (offset : ℕ) (pages : List (List Value)) :
    Prop where
  byTotal : (pages.length : Int) ≤ max 0 (total - offset)
  byLimit : ∀ n ∈ limit, (pages.length : Int) ≤ max 0 (n - offset)
  wanted : ∀ k < pages.length, (placeOf offset pages k : Int) < total ∧
    wantsMore limit (placeOf offset pages k) = true

theorem wantsMore_eq {limit : Option Int} {count : ℕ} :
    wantsMore limit count = true ↔ ∀ n ∈ limit, (count : Int) < n := by
  cases limit <;> simp [wantsMore]

section Affording

variable {total : Int} {limit : Option Int} {offset : ℕ} {page : List Value}
  {pages : List (List Value)}

theorem Affordable.none : Affordable total limit offset [] :=
  ⟨by simp only [List.length_nil]; omega, fun n _ => by simp only [List.length_nil]; omega, nofun⟩

theorem Affordable.last (h : (offset : Int) < total ∧ wantsMore limit offset = true) :
    Affordable total limit offset [page] := by
  obtain ⟨htotal, hmore⟩ := h
  refine ⟨?_, fun n hn => ?_, fun k hk => ?_⟩
  · rw [List.length_singleton]
    omega
  · have := wantsMore_eq.1 hmore n hn
    rw [List.length_singleton]
    omega
  · rw [List.length_singleton, Nat.lt_one_iff] at hk
    subst hk
    exact ⟨htotal, hmore⟩

theorem Affordable.next (h : (offset : Int) < total ∧ wantsMore limit offset = true)
    (hpage : 0 < page.length) (hrest : Affordable total limit (offset + page.length) pages) :
    Affordable total limit offset (page :: pages) := by
  obtain ⟨htotal, hmore⟩ := h
  have hcount := hrest.byTotal
  refine ⟨?_, fun n hn => ?_, fun k hk => ?_⟩
  · rw [List.length_cons]
    omega
  · have hn' := wantsMore_eq.1 hmore n hn
    have hleft := hrest.byLimit n hn
    rw [List.length_cons]
    omega
  · cases k with
    | zero => exact ⟨htotal, hmore⟩
    | succ k =>
      rw [placeOf_succ]
      exact hrest.wanted k (Nat.lt_of_succ_lt_succ hk)

end Affording

/-- The loop goes through rounds, and then has enough or breaks. -/
theorem more_course (c : Client σ) (source : Source) (limit : Option Int) (total : Int)
    (records : List Value) (w : World (Wire σ)) :
    ∃ pages w₁, Rounds c source limit false records.length w pages w₁ ∧
      Affordable total limit records.length pages ∧
      (c.more source limit total records w = (.ok (records ++ pages.flatten), w₁) ∨
        ∃ t w₂, Breaks c source limit false (records.length + pages.flatten.length) w₁ t w₂ ∧
          c.more source limit total records w = (.error t, w₂)) := by
  -- the induction is on what is missing from the total, which every round makes less
  generalize hn : (total - records.length).toNat = n
  induction n using Nat.strongRecOn generalizing records w with
  | ind n ih =>
    by_cases hgo : (records.length : Int) < total ∧ wantsMore limit records.length
    · rw [more_round _ _ _ _ _ hgo]
      have hcases := fetch_cases c source limit records.length w
      rcases hfetch : c.fetch source limit records.length w with ⟨t | ⟨content, reply⟩, w'⟩ <;>
        rw [hfetch] at hcases
      · exact ⟨[], w, .done .., .none, .inr ⟨t, w', hcases.breaks false, rfl⟩⟩
      · obtain ⟨hfree, hreply, hdelivers, rfl⟩ := hcases.brought
        cases hitems : content.itemsOrNone with
        | error m =>
          have hbreaks : Breaks c source limit false records.length w (.mishap m) _ :=
            .upset ((upsets_iff hreply).2 (.items hdelivers nofun hitems))
          refine ⟨[], w, .done .., .none, .inr ⟨.mishap m, _, hbreaks, ?_⟩⟩
          simp only [hitems]
        | ok items =>
          have hlists : reply.Lists false items := ⟨⟨content, hdelivers, hitems⟩, nofun⟩
          rcases items with _ | ⟨first, rest⟩
          · refine ⟨[[]], _, .round hfree hreply hlists (.done ..), .last hgo, .inl ?_⟩
            simp [hitems]
          · have hlength : (records ++ first :: rest).length =
                records.length + (first :: rest).length := List.length_append
            have hless : (total - (records ++ first :: rest).length).toNat < n := by
              rw [hlength, List.length_cons]
              omega
            obtain ⟨pages, w₁, hrounds, hafford, hend⟩ :=
              ih _ hless (records ++ first :: rest) _ rfl
            rw [hlength] at hrounds hafford hend
            refine ⟨(first :: rest) :: pages, w₁, .round hfree hreply hlists hrounds,
              hafford.next hgo (Nat.succ_pos _), ?_⟩
            simp only [hitems, List.flatten_cons, List.length_append, ← Nat.add_assoc]
            rw [← List.append_assoc]
            exact hend
    · rw [more_done _ _ _ _ _ hgo]
      exact ⟨[], w, .done .., .none, .inl (by simp)⟩

/-- A reply that lists items does not break a call that nobody stops. -/
theorem Breaks.not_lists {source : Source} {limit : Option Int} {first : Bool} {offset : ℕ}
    {w w' : World (Wire σ)} {t : Trouble} {reply : Reply} {items : List Value}
    (h : Breaks c source limit first offset w t w')
    (hfree : (source.guarded && w.token.cancelled) = false)
    (hreply : (c.transport (c.pageRequest source limit offset) w.remote.server).1.exchange =
      .reply reply) : ¬ reply.Lists first items := by
  intro hlists
  cases h with
  | stopped hstop =>
    rw [hfree] at hstop
    cases hstop
  | failed _ hnone => exact hnone reply hreply items hlists
  | upset hupsets => exact hlists.calm ((upsets_iff hreply).1 hupsets)

/-- The requests for pages, each at the offset behind the pages before it. -/
def pageRequests (c : Client σ) (source : Source) (limit : Option Int) :
    ℕ → List (List Value) → List Request
  | _, [] => []
  | offset, page :: rest =>
    c.pageRequest source limit offset :: pageRequests c source limit (offset + page.length) rest

theorem length_pageRequests (c : Client σ) (source : Source) (limit : Option Int)
    (pages : List (List Value)) (offset : ℕ) :
    (pageRequests c source limit offset pages).length = pages.length := by
  induction pages generalizing offset with
  | nil => rfl
  | cons page rest ih => exact congrArg (· + 1) (ih _)

section Rounds

variable {source : Source} {limit : Option Int} {first : Bool} {offset : ℕ}
  {w w' : World (Wire σ)} {pages : List (List Value)}

/-- The rounds send their requests and nothing else. -/
theorem Rounds.remote (h : Rounds c source limit first offset w pages w') :
    w'.remote.sent = w.remote.sent ++ pageRequests c source limit offset pages ∧
      w'.remote.server =
        serverAfter c.transport (pageRequests c source limit offset pages) w.remote.server := by
  induction h with
  | done => exact ⟨(List.append_nil _).symm, rfl⟩
  | round hfree hreply hlists rest ih =>
    obtain ⟨hsent, hserver⟩ := ih
    refine ⟨?_, hserver⟩
    rw [hsent, after, List.append_assoc]
    rfl

/-- The last response of the rounds upsets nobody. -/
theorem Rounds.last_calm (h : Rounds c source limit first offset w pages w') {response : Response}
    (hlast : (answers c.transport (pageRequests c source limit offset pages)
      w.remote.server).getLast? = some response) :
    ¬ response.exchange.Upsets (Reply.Baffles (first && pages.length == 1)) := by
  induction h with
  | done => cases hlast
  | @round first offset w w' items pages _ hfree hreply hlists rest ih =>
    cases pages with
    | nil =>
      have hresponse : some (c.transport (c.pageRequest source limit offset) w.remote.server).1 =
        some response := hlast
      cases hresponse
      rw [upsets_iff hreply]
      simpa using hlists.calm
    | cons page more =>
      have hlast' : (answers c.transport
          (pageRequests c source limit (offset + items.length) (page :: more))
          (after c (c.pageRequest source limit offset) w).remote.server).getLast? =
            some response := hlast
      simpa using ih hlast'

end Rounds

/-! ## All pages -/

/-- All pages are affordable for the total that the first reply announces; only the first page is
asked for whatever the total is. -/
structure AffordableAll (c : Client σ) (source : Source) (limit : Option Int) (w : World (Wire σ))
    (pages : List (List Value)) : Prop where
  byTotal : ∀ reply total, (c.transport (c.pageRequest source limit 0)
    w.remote.server).1.exchange = .reply reply →
      totalOf (reply.header "Content-Range") = .ok total →
        (pages.length : Int) ≤ max 1 total ∧
          ∀ k < pages.length, k = 0 ∨ (placeOf 0 pages k : Int) < total
  byLimit : ∀ n ∈ limit, (pages.length : Int) ≤ max 0 n
  wanted : ∀ k < pages.length, wantsMore limit (placeOf 0 pages k) = true

theorem AffordableAll.none (c : Client σ) (source : Source) (limit : Option Int)
    (w : World (Wire σ)) : AffordableAll c source limit w [] :=
  ⟨fun _ _ _ _ => ⟨by simp only [List.length_nil]; omega, nofun⟩,
    fun _ _ => by simp only [List.length_nil]; omega, nofun⟩

/-- One page is affordable if any rows are wanted; and if it is not empty, so are those that are
affordable behind it. -/
theorem AffordableAll.succ {source : Source} {limit : Option Int} {w : World (Wire σ)}
    {reply : Reply} {total : Int} {page : List Value} {pages : List (List Value)}
    (hmore : wantsMore limit 0 = true)
    (hreply : (c.transport (c.pageRequest source limit 0) w.remote.server).1.exchange =
      .reply reply)
    (htotal : totalOf (reply.header "Content-Range") = .ok total)
    (hrest : pages = [] ∨ 0 < page.length ∧ Affordable total limit page.length pages) :
    AffordableAll c source limit w (page :: pages) := by
  have hplace (k : ℕ) : placeOf 0 (page :: pages) (k + 1) = placeOf page.length pages k := by
    rw [placeOf_succ, Nat.zero_add]
  refine ⟨fun other announced hother hannounced => ?_, fun n hn => ?_, fun k hk => ?_⟩
  · rw [hreply] at hother
    cases hother
    rw [htotal] at hannounced
    cases hannounced
    rw [List.length_cons]
    rcases hrest with rfl | ⟨hpage, hafford⟩
    · refine ⟨by rw [List.length_nil]; omega, fun k hk => .inl ?_⟩
      rw [List.length_nil] at hk
      omega
    · have hcount := hafford.byTotal
      refine ⟨by omega, fun k hk => ?_⟩
      cases k with
      | zero => exact .inl rfl
      | succ k =>
        rw [hplace]
        exact .inr (hafford.wanted k (by omega)).1
  · have hwanted := wantsMore_eq.1 hmore n hn
    rw [List.length_cons]
    rcases hrest with rfl | ⟨hpage, hafford⟩
    · rw [List.length_nil]
      omega
    · have := hafford.byLimit n hn
      omega
  · cases k with
    | zero => exact hmore
    | succ k =>
      rw [hplace]
      rcases hrest with rfl | ⟨-, hafford⟩
      · exact absurd hk (by simp)
      · exact (hafford.wanted k (Nat.lt_of_succ_lt_succ hk)).2

/-- The first round, as an equation. -/
theorem pages_round (source : Source) {limit : Option Int} (w : World (Wire σ))
    (hmore : wantsMore limit 0 = true) :
    c.pages source limit w =
      match c.fetch source limit 0 w with
      | (.ok (content, reply), w) =>
        match totalOf (reply.header "Content-Range"), content.itemsOrNone with
        | .error t, _ => (.error t, w)
        | .ok _, .error m => (.error (.mishap m), w)
        | .ok total, .ok [] => (.ok ([], some total), w)
        | .ok total, .ok (first :: rest) =>
          match c.more source limit total (first :: rest) w with
          | (.ok records, w) => (.ok (records, some total), w)
          | (.error t, w) => (.error t, w)
      | (.error t, w) => (.error t, w) := by
  rw [Client.pages, if_pos hmore, bind_apply]
  rcases c.fetch source limit 0 w with ⟨t | ⟨content, reply⟩, w₁⟩
  · rfl
  · simp only [bind_apply, mk_apply]
    rcases totalOf (reply.header "Content-Range") with t | total
    · rfl
    · rcases content.itemsOrNone with m | _ | ⟨first, rest⟩
      · rfl
      · rfl
      · simp only [lift_ok, List.isEmpty_cons, Bool.false_eq_true, if_false, bind_apply]
        rcases c.more source limit total (first :: rest) w₁ with ⟨t | records, w₂⟩ <;> rfl

/-- A first page whose total is not read breaks the call. -/
theorem breaks_of_total {source : Source} {limit : Option Int} {w : World (Wire σ)} {reply : Reply}
    {content : Value} {t : Trouble}
    (hreply : (c.transport (c.pageRequest source limit 0) w.remote.server).1.exchange =
      .reply reply) (hdelivers : reply.Delivers content)
    (htotal : totalOf (reply.header "Content-Range") = .error t) :
    Breaks c source limit true 0 w t (after c (c.pageRequest source limit 0) w) := by
  cases t with
  | mishap m => exact .upset ((upsets_iff hreply).2 (.total rfl hdelivers htotal))
  | failure f =>
    refine .failed ?_ fun other hother items hlists => ?_
    · rw [upsets_iff hreply]
      intro hbaffles
      cases hbaffles with
      | deep hdeep => exact hdelivers.shallow hdeep
      | total _ _ hmishap => simp [htotal] at hmishap
      | items _ hcounted _ => simp [htotal] at hcounted
    · rw [hreply] at hother
      cases hother
      simpa [htotal] using hlists.counted

/-- All pages: the call goes through rounds, and then has enough or breaks. -/
theorem pages_course (c : Client σ) (source : Source) (limit : Option Int) (w : World (Wire σ)) :
    ∃ pages w₁, Rounds c source limit true 0 w pages w₁ ∧
      AffordableAll c source limit w pages ∧
      ((∃ total, c.pages source limit w = (.ok (pages.flatten, total), w₁)) ∨
        ∃ t w₂, Breaks c source limit pages.isEmpty pages.flatten.length w₁ t w₂ ∧
          c.pages source limit w = (.error t, w₂)) := by
  by_cases hmore : wantsMore limit 0 = true
  · rw [pages_round source w hmore]
    have hcases := fetch_cases c source limit 0 w
    rcases hfetch : c.fetch source limit 0 w with ⟨t | ⟨content, reply⟩, w'⟩ <;>
      rw [hfetch] at hcases
    · exact ⟨[], w, .done .., .none .., .inr ⟨t, w', hcases.breaks true, rfl⟩⟩
    · obtain ⟨hfree, hreply, hdelivers, rfl⟩ := hcases.brought
      cases htotal : totalOf (reply.header "Content-Range") with
      | error t =>
        refine ⟨[], w, .done .., .none .., .inr ⟨t, _, breaks_of_total hreply hdelivers htotal, ?_⟩⟩
        simp only [htotal]
      | ok total =>
        have hcounted : true = true → ∃ total, totalOf (reply.header "Content-Range") = .ok total :=
          fun _ => ⟨total, htotal⟩
        cases hitems : content.itemsOrNone with
        | error m =>
          have hbreaks : Breaks c source limit true 0 w (.mishap m) _ :=
            .upset ((upsets_iff hreply).2 (.items hdelivers hcounted hitems))
          refine ⟨[], w, .done .., .none .., .inr ⟨.mishap m, _, hbreaks, ?_⟩⟩
          simp only [htotal, hitems]
        | ok items =>
          have hlists : reply.Lists true items := ⟨⟨content, hdelivers, hitems⟩, hcounted⟩
          rcases items with _ | ⟨first, rest⟩
          · refine ⟨[[]], _, .round hfree hreply hlists (.done ..),
              .succ hmore hreply htotal (.inl rfl), .inl ⟨some total, ?_⟩⟩
            simp only [htotal, hitems, List.flatten_cons, List.flatten_nil, List.append_nil]
          · obtain ⟨pages, w₁, hrounds, hafford, hend⟩ := more_course c source limit total
              (first :: rest) (after c (c.pageRequest source limit 0) w)
            rw [← Nat.zero_add (first :: rest).length] at hrounds
            refine ⟨(first :: rest) :: pages, w₁, .round hfree hreply hlists hrounds,
              .succ hmore hreply htotal (.inr ⟨Nat.succ_pos _, hafford⟩), ?_⟩
            simp only [htotal, hitems, List.flatten_cons, List.length_append, List.isEmpty_cons]
            rcases hend with hend | ⟨t, w₂, hbreaks, hend⟩
            · exact .inl ⟨some total, by rw [hend]⟩
            · exact .inr ⟨t, w₂, hbreaks, by rw [hend]⟩
  · rw [Client.pages, if_neg hmore]
    exact ⟨[], w, .done .., .none .., .inl ⟨none, rfl⟩⟩

/-- The source without a limit among its parameters. -/
def Source.unlimited (source : Source) : Source :=
  { source with params := Row.erase source.params "limit" }

/-- **All records.**  Once its limit is read, the call goes through rounds, and then gives the items
of all pages or breaks. -/
theorem selectAll_course (c : Client σ) {source : Source} {limit : Option Int}
    (hlimit : limitOf source.params = .ok limit) (w : World (Wire σ)) :
    ∃ pages w₁, Rounds c source.unlimited limit true 0 w pages w₁ ∧
      AffordableAll c source.unlimited limit w pages ∧
      ((∃ lines, c.selectAll source w = (.ok pages.flatten, w₁.logged lines)) ∨
        ∃ t w₂, Breaks c source.unlimited limit pages.isEmpty pages.flatten.length w₁ t w₂ ∧
          c.selectAll source w = (.error t, w₂)) := by
  obtain ⟨pages, w₁, hrounds, hafford, hend⟩ := pages_course c source.unlimited limit w
  refine ⟨pages, w₁, hrounds, hafford, ?_⟩
  rw [selectAll_apply, hlimit]
  rcases hend with ⟨total, hend⟩ | ⟨t, w₂, hbreaks, hend⟩ <;> rw [Source.unlimited] at hend
  · exact .inl ⟨_, by simp only [hend]; rfl⟩
  · exact .inr ⟨t, w₂, hbreaks, by simp only [hend]⟩

end ReadGate.Postgrest
