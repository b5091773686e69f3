import ReadGate.Cancellation.Script

/-!
# Contexts and the callbacks that fire

A token keeps a list of callbacks, while a caller thinks of contexts that are open.  Contexts may
share a callback, and those that are entered after the cancellation are never registered, so the
list is not the list of open contexts.  It holds their callbacks as long as the token is not
cancelled, and that is all that counts.

* `openIn` — the contexts that a history of steps leaves open, told from the steps alone.
* `Obeys` — what a step may fire and how it ends, told from the steps before it.
* `step_tracks`, `step_obeys` — one step keeps the list and the open contexts together, and obeys.
* `run_obeys` — so does every step of every script.

A history lists its steps with the latest first.
-/

namespace ReadGate.Scopes

/-! ## Histories -/

/-- The callback of a name, once a step has settled whether it raises an error. -/
def settled? : List ScopeStep → String → Option Callback
  | [], _ => none
  | .enter known raises _ :: past, name =>
    (settled? past name).or (if known = name then some ⟨known, raises⟩ else none)
  | _ :: past, name => settled? past name

/-- The callback that a step uses which names it. -/
def callbackIn (past : List ScopeStep) (name : String) (raises : Option String) : Callback :=
  (settled? past name).getD ⟨name, raises⟩

/-- The contexts that a history leaves open, in order of entry. -/
def openIn : List ScopeStep → List Scope
  | [] => []
  | .enter name raises guarded :: past =>
    let callback := callbackIn past name raises
    if guarded = true ∧ .cancel ∈ past ∧ callback.raises.isSome = true then openIn past
    else openIn past ++ [⟨callback, guarded⟩]
  | .exit name :: past => (openIn past).eraseP (·.callback.name == name)
  | _ :: past => openIn past

/-- The callbacks of the contexts that have the token, one for each context. -/
def listening (scopes : List Scope) : List Callback :=
  (scopes.filter (·.guarded)).map (·.callback)

/-- The error of a callback that fires as its context is entered. -/
def entryError (text : String) : Trouble :=
  .mishap (.foreign (.runtime text))

/-- What a step may do behind a history. -/
structure Obeys (past : List ScopeStep) (step : ScopeStep) (report : ScopeReport) : Prop where
  /-- Before the first cancellation nothing fires. -/
  silent : .cancel ∉ past → step ≠ .cancel → report.fired = [] ∧ report.log = []
  /-- The first cancellation fires the callback of every open context, whichever of them fail. -/
  first : .cancel ∉ past → step = .cancel → report.fired = listening (openIn past) ∧
    report.log = logOf (listening (openIn past)) ∧ report.result = .ok true
  /-- After it, only an entry fires anything. -/
  spent : .cancel ∈ past → (∀ name raises, step ≠ .enter name raises true) →
    report.fired = [] ∧ report.log = []
  /-- An entry fires its callback at once, and fails if that fails. -/
  late : .cancel ∈ past → ∀ name raises, step = .enter name raises true →
    report.fired = [callbackIn past name raises] ∧
      ∀ text, (callbackIn past name raises).raises = some text →
        report.result = .error (entryError text)
  /-- A check fails exactly behind a cancellation. -/
  check : ∀ stage, step = .check stage true →
    (report.result = .error (.failure (.cancelledBefore stage)) ↔ .cancel ∈ past)
  /-- The token is seen cancelled exactly behind a cancellation. -/
  flag : ∀ cancelled, report.result = .ok cancelled → (cancelled = true ↔ .cancel ∈ step :: past)
  /-- Nothing else fails. -/
  failure : ∀ trouble, report.result = .error trouble → .cancel ∈ past ∧
    ((∃ stage, step = .check stage true) ∨ ∃ name raises text, step = .enter name raises true ∧
      (callbackIn past name raises).raises = some text)

/-! ## Registered callbacks -/

/-- The state of a run after a history. -/
structure Tracks (past : List ScopeStep) (s : Scopes) : Prop where
  cancelled : s.token.cancelled = true ↔ .cancel ∈ past
  known : ∀ name, s.known.find? (·.name == name) = settled? past name
  opened : s.opened = openIn past
  /-- Once the token is cancelled, nobody looks at its list again. -/
  registered : .cancel ∉ past → s.token.callbacks = listening (openIn past)

theorem listening_append (scopes : List Scope) (scope : Scope) :
    listening (scopes ++ [scope]) =
      listening scopes ++ if scope.guarded then [scope.callback] else [] := by
  cases h : scope.guarded <;> simp [listening, h]

theorem erase_of_find {scopes : List Scope} {p : Scope → Bool} {scope : Scope}
    (hfind : scopes.find? p = some scope) : scopes.erase scope = scopes.eraseP p := by
  induction scopes with
  | nil => cases hfind
  | cons head rest ih =>
    by_cases hp : p head = true
    · have hhead : head = scope := by simpa [List.find?_cons, hp] using hfind
      rw [hhead] at hp ⊢
      rw [List.erase_cons_head, List.eraseP_cons_of_pos hp]
    · have hrest : rest.find? p = some scope := by simpa [List.find?_cons, hp] using hfind
      have hne : head ≠ scope := by
        rintro rfl
        exact hp (List.find?_some hrest)
      rw [List.erase_cons_tail (by simpa using hne), List.eraseP_cons_of_neg hp, ih hrest]

/-- Leaving the earliest open context of a name ends the first registration of its callback. -/
theorem listening_eraseP {scopes : List Scope} {name : String} {scope : Scope}
    (hfind : scopes.find? (·.callback.name == name) = some scope) :
    listening (scopes.eraseP (·.callback.name == name)) =
      if scope.guarded then (listening scopes).erase scope.callback else listening scopes := by
  induction scopes with
  | nil => cases hfind
  | cons head rest ih =>
    by_cases hname : (head.callback.name == name) = true
    · have hhead : head = scope := by simpa [List.find?_cons, hname] using hfind
      rw [hhead] at hname ⊢
      rw [List.eraseP_cons_of_pos (by simpa using hname)]
      cases hg : scope.guarded <;> simp [listening, hg]
    · have hrest : rest.find? (·.callback.name == name) = some scope := by
        simpa [List.find?_cons, hname] using hfind
      -- another callback comes first, so the registration that ends is further on
      have hother : head.callback ≠ scope.callback := by
        intro heq
        have hscope : (scope.callback.name == name) = true := by
          simpa using List.find?_some hrest
        rw [heq] at hname
        exact hname hscope
      rw [List.eraseP_cons_of_neg (by simpa using hname)]
      have ih := ih hrest
      cases hg : head.guarded with
      | false => simpa [listening, hg] using ih
      | true =>
        have hcons (scopes : List Scope) :
            listening (head :: scopes) = head.callback :: listening scopes := by
          simp [listening, hg]
        rw [hcons, hcons, ih]
        split
        · rw [List.erase_cons_tail (by simpa using hother)]
        · rfl

/-! ## One step -/

section Step

variable {past : List ScopeStep} {s : Scopes} {name : String} {raises : Option String}

theorem cancel_mem_cons {step : ScopeStep} (h : step ≠ .cancel) :
    .cancel ∈ step :: past ↔ .cancel ∈ past := by
  simp [h.symm]

theorem callback_name (s : Scopes) (name : String) (raises : Option String) :
    (s.callback name raises).name = name := by
  unfold callback
  cases hfind : s.known.find? (·.name == name) with
  | none => rfl
  | some known => simpa using List.find?_some hfind

theorem Tracks.callback (h : Tracks past s) (name : String) (raises : Option String) :
    s.callback name raises = callbackIn past name raises := by
  unfold Scopes.callback callbackIn
  rw [h.known]

/-- The first use of a callback settles it, and no later use changes it. -/
theorem Tracks.remember (h : Tracks past s) (name : String) (raises : Option String)
    (guarded : Bool) (other : String) :
    (s.remember (s.callback name raises)).find? (·.name == other) =
      settled? (.enter name raises guarded :: past) other := by
  have hsettled : settled? (.enter name raises guarded :: past) other =
      (s.known.find? (·.name == other)).or
        (if name = other then some ⟨name, raises⟩ else none) := by
    rw [h.known]
    rfl
  rw [hsettled]
  unfold Scopes.remember
  rw [callback_name]
  cases hfind : s.known.find? (·.name == name) with
  | some known =>
    have hany : s.known.any (·.name == name) = true := by
      rw [List.any_eq_true]
      exact ⟨known, List.mem_of_find?_eq_some hfind, by simpa using List.find?_some hfind⟩
    rw [if_pos hany]
    by_cases hname : name = other
    · subst hname
      rw [hfind]
      rfl
    · rw [if_neg hname, Option.or_none]
  | none =>
    have hany : ¬ s.known.any (·.name == name) = true := by
      rw [List.any_eq_true]
      rintro ⟨known, hmem, hname⟩
      exact List.find?_eq_none.1 hfind known hmem hname
    have hcallback : s.callback name raises = ⟨name, raises⟩ := by
      simp [Scopes.callback, hfind]
    rw [if_neg hany, hcallback, List.find?_append]
    by_cases hname : name = other
    · simp [hname]
    · simp [hname]

theorem enter_free {token : Token Callback} (hfree : token.cancelled = false)
    (known : List Callback) (opened : List Scope) (callback : Callback) :
    let s : Scopes := ⟨token, known, opened⟩
    s.enter callback true = (⟨⟨false, token.callbacks ++ [callback]⟩, s.remember callback,
      opened ++ [⟨callback, true⟩]⟩, ⟨.ok false, [], []⟩) := by
  simp [Scopes.enter, Token.enter, hfree]

theorem enter_late {token : Token Callback} (hcancelled : token.cancelled = true)
    (known : List Callback) (opened : List Scope) (callback : Callback) :
    let s : Scopes := ⟨token, known, opened⟩
    s.enter callback true = match callback.raises with
      | some text => (⟨token, s.remember callback, opened⟩,
          ⟨.error (entryError text), [callback], []⟩)
      | none => (⟨token, s.remember callback, opened ++ [⟨callback, true⟩]⟩,
          ⟨.ok true, [callback], []⟩) := by
  cases hraises : callback.raises <;>
    simp [Scopes.enter, Token.enter, hcancelled, hraises, entryError]

theorem enter_tracks (h : Tracks past s) (guarded : Bool) :
    Tracks (.enter name raises guarded :: past)
      (s.enter (s.callback name raises) guarded).1 := by
  have hknown := h.remember name raises guarded
  have hopened := h.opened
  obtain ⟨token, known, opened⟩ := s
  have hcancelled : token.cancelled = true ↔ .cancel ∈ past := h.cancelled
  have hmem : ScopeStep.cancel ∈ .enter name raises guarded :: past ↔ .cancel ∈ past :=
    cancel_mem_cons nofun
  cases guarded with
  | false =>
    refine ⟨hcancelled.trans hmem.symm, hknown, ?_, fun hfresh => ?_⟩
    · simp [Scopes.enter, openIn, ← h.callback, ← hopened]
    · have hlist := h.registered (mt hmem.2 hfresh)
      simpa [Scopes.enter, openIn, listening_append] using hlist
  | true =>
    by_cases hpast : .cancel ∈ past
    · have hlate := enter_late (hcancelled.2 hpast) known opened
        (callback ⟨token, known, opened⟩ name raises)
      rw [hlate]
      cases hraises : (callback ⟨token, known, opened⟩ name raises).raises with
      | some text =>
        refine ⟨hcancelled.trans hmem.symm, hknown, ?_,
          fun hfresh => absurd hpast (mt hmem.2 hfresh)⟩
        simpa [openIn, ← h.callback, hpast, hraises] using hopened
      | none =>
        refine ⟨hcancelled.trans hmem.symm, hknown, ?_,
          fun hfresh => absurd hpast (mt hmem.2 hfresh)⟩
        simp [openIn, ← h.callback, hraises, ← hopened]
    · have hfree : token.cancelled = false := by
        rw [← Bool.not_eq_true, hcancelled]
        exact hpast
      have hlist := h.registered hpast
      rw [enter_free hfree]
      refine ⟨by simp [hpast], hknown, ?_, fun _ => ?_⟩
      · simp [openIn, ← h.callback, hpast, ← hopened]
      · simpa [openIn, ← h.callback, hpast, listening_append] using hlist

theorem exit_tracks (h : Tracks past s) (name : String) :
    Tracks (.exit name :: past) (s.exit name).1 := by
  have hmem : ScopeStep.cancel ∈ .exit name :: past ↔ .cancel ∈ past := cancel_mem_cons nofun
  have hopened := h.opened
  unfold Scopes.exit
  cases hfind : s.opened.find? (·.callback.name == name) with
  | none =>
    have hsame : s.opened.eraseP (·.callback.name == name) = s.opened :=
      List.eraseP_of_forall_not fun scope hscope => List.find?_eq_none.1 hfind scope hscope
    have hopen : openIn (.exit name :: past) = s.opened := by
      rw [openIn, ← hopened, hsame]
    refine ⟨h.cancelled.trans hmem.symm, h.known, hopen.symm, fun hfresh => ?_⟩
    rw [hopen, hopened]
    exact h.registered (mt hmem.2 hfresh)
  | some scope =>
    have hopen : openIn (.exit name :: past) = s.opened.erase scope := by
      rw [openIn, ← hopened, erase_of_find hfind]
    have htoken : (if scope.guarded then s.token.leave scope.callback else s.token).cancelled =
        s.token.cancelled := by
      split <;> rfl
    refine ⟨?_, h.known, hopen.symm, fun hfresh => ?_⟩
    · show (if scope.guarded then s.token.leave scope.callback else s.token).cancelled = true ↔ _
      rw [htoken]
      exact h.cancelled.trans hmem.symm
    · have hlist := h.registered (mt hmem.2 hfresh)
      show (if scope.guarded then s.token.leave scope.callback else s.token).callbacks = _
      rw [hopen, erase_of_find hfind, listening_eraseP hfind, hopened, ← hlist]
      cases scope.guarded <;> rfl

theorem cancel_tracks (h : Tracks past s) : Tracks (.cancel :: past) s.cancel.1 := by
  have hcancelled : s.cancel.1.token.cancelled = true := Token.cancelled_cancel s.token
  refine ⟨by simp [hcancelled], h.known, h.opened, fun hfresh => ?_⟩
  exact absurd List.mem_cons_self hfresh

theorem check_tracks (h : Tracks past s) (stage : String) (guarded : Bool) :
    Tracks (.check stage guarded :: past) (s.check stage guarded).1 := by
  have hmem : ScopeStep.cancel ∈ .check stage guarded :: past ↔ .cancel ∈ past :=
    cancel_mem_cons nofun
  exact ⟨h.cancelled.trans hmem.symm, h.known, h.opened, fun hfresh =>
    h.registered (mt hmem.2 hfresh)⟩

/-- **Every step keeps the registered callbacks and the open contexts together.** -/
theorem step_tracks (h : Tracks past s) (step : ScopeStep) :
    Tracks (step :: past) (s.step step).1 := by
  cases step with
  | enter name raises guarded => exact enter_tracks h guarded
  | exit name => exact exit_tracks h name
  | cancel => exact cancel_tracks h
  | check stage guarded => exact check_tracks h stage guarded

/-! ## What a step reports -/

/-- A step that neither fires nor fails obeys, unless it is the first cancellation or an entry or a
check behind one. -/
theorem Obeys.quiet {step : ScopeStep} {cancelled : Bool} (hstep : step ≠ .cancel)
    (hcancelled : cancelled = true ↔ .cancel ∈ past)
    (hentry : ∀ name raises, step = .enter name raises true → .cancel ∉ past)
    (hcheck : ∀ stage, step = .check stage true → .cancel ∉ past) :
    Obeys past step ⟨.ok cancelled, [], []⟩ where
  silent _ _ := ⟨rfl, rfl⟩
  first _ h := absurd h hstep
  spent _ _ := ⟨rfl, rfl⟩
  late hpast name raises h := absurd hpast (hentry name raises h)
  check stage h := ⟨nofun, fun hpast => absurd hpast (hcheck stage h)⟩
  flag b h := by
    cases h
    exact hcancelled.trans (cancel_mem_cons hstep).symm
  failure _ h := by cases h

theorem enter_obeys (h : Tracks past s) (name : String) (raises : Option String)
    (guarded : Bool) :
    Obeys past (.enter name raises guarded) (s.enter (s.callback name raises) guarded).2 := by
  have hcallback := h.callback name raises
  have hcancelled := h.cancelled
  cases guarded with
  | false => exact .quiet nofun hcancelled nofun nofun
  | true =>
    by_cases hpast : .cancel ∈ past
    · have hlate := enter_late (hcancelled.2 hpast) s.known s.opened (s.callback name raises)
      rw [hcallback] at hlate ⊢
      rw [show s.enter (callbackIn past name raises) true = _ from hlate]
      cases hraises : (callbackIn past name raises).raises with
      | none =>
        refine ⟨fun hfresh => absurd hpast hfresh, fun hfresh => absurd hpast hfresh,
          fun _ hother => absurd rfl (hother name raises), ?_, nofun, ?_, nofun⟩
        · rintro - _ _ ⟨⟩
          exact ⟨rfl, fun text htext => by rw [hraises] at htext; cases htext⟩
        · rintro b ⟨⟩
          simp [hpast]
      | some text =>
        refine ⟨fun hfresh => absurd hpast hfresh, fun hfresh => absurd hpast hfresh,
          fun _ hother => absurd rfl (hother name raises), ?_, nofun, nofun, ?_⟩
        · rintro - _ _ ⟨⟩
          refine ⟨rfl, fun other hother => ?_⟩
          rw [hraises] at hother
          cases hother
          rfl
        · rintro trouble -
          exact ⟨hpast, .inr ⟨name, raises, text, rfl, hraises⟩⟩
    · have hfree : s.token.cancelled = false := by
        rw [← Bool.not_eq_true, hcancelled]
        exact hpast
      rw [show s.enter (s.callback name raises) true = _ from
        enter_free hfree s.known s.opened (s.callback name raises)]
      exact .quiet nofun (by simp [hpast]) (fun _ _ _ => hpast) nofun

theorem exit_obeys (h : Tracks past s) (name : String) :
    Obeys past (.exit name) (s.exit name).2 := by
  have hreport : (s.exit name).2 = ⟨.ok s.token.cancelled, [], []⟩ := by
    unfold Scopes.exit
    split
    · rename_i scope hfind
      cases scope.guarded <;> rfl
    · rfl
  rw [hreport]
  exact .quiet nofun h.cancelled nofun nofun

theorem cancel_obeys (h : Tracks past s) : Obeys past .cancel s.cancel.2 := by
  have hresult : s.cancel.2.result = .ok true := by
    show Except.ok s.token.cancel.1.cancelled = _
    rw [Token.cancelled_cancel]
  have hlog : s.cancel.2.log = logOf s.cancel.2.fired := rfl
  refine ⟨fun _ hother => absurd rfl hother, fun hfresh _ => ?_, fun hpast _ => ?_, nofun, nofun,
    fun b hb => ?_, fun trouble ht => ?_⟩
  · have hfree : s.token.cancelled = false := by
      rw [← Bool.not_eq_true, h.cancelled]
      exact hfresh
    have hfired : s.cancel.2.fired = listening (openIn past) := by
      rw [← h.registered hfresh]
      show s.token.cancel.2 = _
      simp [Token.cancel, hfree]
    exact ⟨hfired, by rw [hlog, hfired], hresult⟩
  · have hfired : s.cancel.2.fired = [] := by
      show s.token.cancel.2 = _
      simp [Token.cancel, h.cancelled.2 hpast]
    exact ⟨hfired, by rw [hlog, hfired]; rfl⟩
  · rw [hresult] at hb
    cases hb
    simp
  · rw [hresult] at ht
    cases ht

/-- A check that is given the token fails if the token is cancelled. -/
theorem check_report (s : Scopes) (stage : String) :
    (s.check stage true).2 =
      if s.token.cancelled then ⟨.error (.failure (.cancelledBefore stage)), [], []⟩
      else ⟨.ok false, [], []⟩ := by
  cases hcancelled : s.token.cancelled with
  | true =>
    have hverdict : s.token.check stage = .error (.cancelledBefore stage) := if_pos hcancelled
    simp only [Scopes.check, if_true, hverdict]
    rfl
  | false =>
    have hverdict : s.token.check stage = .ok () := by
      rw [Token.check, hcancelled, if_neg Bool.false_ne_true]
    simp only [Scopes.check, if_true, hverdict, hcancelled]
    rfl

theorem check_obeys (h : Tracks past s) (stage : String) (guarded : Bool) :
    Obeys past (.check stage guarded) (s.check stage guarded).2 := by
  have hcancelled := h.cancelled
  have hstep : ScopeStep.check stage guarded ≠ .cancel := by rintro ⟨⟩
  have hentry : ∀ name raises, ScopeStep.check stage guarded ≠ .enter name raises true := by
    rintro _ _ ⟨⟩
  cases guarded with
  | false =>
    refine .quiet hstep hcancelled (fun name raises h => absurd h (hentry name raises)) ?_
    rintro _ ⟨⟩
  | true =>
    rw [check_report]
    by_cases hpast : .cancel ∈ past
    · rw [if_pos (hcancelled.2 hpast)]
      refine ⟨fun hfresh => absurd hpast hfresh, fun _ h => absurd h hstep,
        fun _ _ => ⟨rfl, rfl⟩, fun _ name raises h => absurd h (hentry name raises), ?_, ?_,
        fun _ _ => ⟨hpast, .inl ⟨stage, rfl⟩⟩⟩
      · rintro _ ⟨⟩
        exact ⟨fun _ => hpast, fun _ => rfl⟩
      · rintro _ ⟨⟩
    · rw [if_neg (mt hcancelled.1 hpast)]
      exact .quiet hstep (by simp [hpast]) (fun name raises h => absurd h (hentry name raises))
        fun _ _ => hpast

/-- **Every step obeys the steps before it.** -/
theorem step_obeys (h : Tracks past s) (step : ScopeStep) : Obeys past step (s.step step).2 := by
  cases step with
  | enter name raises guarded => exact enter_obeys h name raises guarded
  | exit name => exact exit_obeys h name
  | cancel => exact cancel_obeys h
  | check stage guarded => exact check_obeys h stage guarded

end Step

/-! ## Runs -/

/-- The state behind a script. -/
def after (s : Scopes) (script : List ScopeStep) : Scopes :=
  script.foldl (fun s step => (s.step step).1) s

theorem start_tracks : Tracks [] start :=
  ⟨by simp [start, Token.fresh], fun _ => rfl, rfl, fun _ => rfl⟩

theorem after_tracks {past : List ScopeStep} {s : Scopes} (h : Tracks past s)
    (script : List ScopeStep) : Tracks (script.reverse ++ past) (s.after script) := by
  induction script generalizing past s with
  | nil => exact h
  | cons step script ih =>
    have hrest := ih (step_tracks h step)
    rwa [List.reverse_cons, List.append_assoc]

/-- The report of a step is made in the state behind the steps before it. -/
theorem run_getElem? (s : Scopes) (before later : List ScopeStep) (step : ScopeStep) :
    (s.run (before ++ step :: later))[before.length]? = some ((s.after before).step step).2 := by
  induction before generalizing s with
  | nil => rfl
  | cons first before ih => exact ih (s.step first).1

/-- **Tokens keep their word over whole runs.**  Every step of every script does what the steps
before it allow: nothing fires before the first cancellation, which fires the callback of each open
context once and in order of entry; no later one fires anything; a later entry fires its own
callback and is open only if that does not fail; and checks fail exactly behind a cancellation.
The contexts that count as open are those that the state of the run holds. -/
theorem run_obeys (before later : List ScopeStep) (step : ScopeStep) :
    ((start.after before).token.cancelled = true ↔ .cancel ∈ before) ∧
      (start.after before).opened = openIn before.reverse ∧
      ∃ report, (start.run (before ++ step :: later))[before.length]? = some report ∧
        Obeys before.reverse step report := by
  have htracks := after_tracks start_tracks before
  rw [List.append_nil] at htracks
  have hcancelled := htracks.cancelled
  rw [List.mem_reverse] at hcancelled
  exact ⟨hcancelled, htracks.opened, _, run_getElem? start before later step,
    step_obeys htracks step⟩

/-- A callback with two open contexts fires twice, and one that fails does not stop the next. -/
example : (start.run [.enter "a" none true, .enter "b" (some "no") true, .enter "a" none true,
    .exit "a", .enter "a" none true, .cancel, .enter "b" none true, .cancel]).map
      (fun report => report.fired.map (·.name)) =
    [[], [], [], [], [], ["b", "a", "a"], ["b"], []] := by decide

end ReadGate.Scopes
