import Mathlib.Data.List.Perm.Basic
import ReadGate.Proofs.Evaluation.Answers
import ReadGate.Proofs.Evaluation.Shares

/-!
# A report accounts for its cases

An evaluation runs its cases one after the other and counts.  Since the answer to a case is the one
that it has alone, the report can be told from these answers: it counts each case once, and lists
those that miss an expectation in their order.

* `stated`, `Answer.MissesFirst` — the expectations of a case, and the first one that is missed.
* `evaluate_cases` — the verdicts of an evaluation are those on the cases alone.
* `Counters.CountsAll`, `count_countsAll` — what the counters say while cases run, and at the end.
* `IsAccount`, `evaluate_accounts` — the report on any cases.
-/

namespace ReadGate.Evaluation

/-! ## Expectations -/

/-- The expectations that a case states, in the order in which they are checked.  A rule that is
void, such as the empty text, states nothing. -/
def stated (test : Row) : List (Shortfall × Value) :=
  ((Row.get? test "expected_kind").map (Shortfall.kind, ·)).toList ++
    (((Row.get? test "expected_rule").filter (!·.isVoid)).map (Shortfall.rule, ·)).toList ++
    ((Row.get? test "expected_row_count").map (Shortfall.rowCount, ·)).toList

namespace Answer

/-- What an answer is compared with, by expectation. -/
def got (a : Answer) : Shortfall → Value
  | .kind => .text a.kind
  | .rule => .ofText? a.rule
  | .rowCount => .ofInt? (a.rowCount.map Int.ofNat)

/-- Does the answer meet an expectation? -/
def meets (a : Answer) (e : Shortfall × Value) : Bool :=
  (a.got e.1).alike e.2

/-- Does the answer meet every expectation that the case states? -/
def meetsAll (a : Answer) (test : Row) : Bool :=
  (stated test).all a.meets

/-- The miss tells the first expectation of the case that the answer does not meet. -/
structure MissesFirst (a : Answer) (test : Row) (miss : Miss) : Prop where
  id : Row.get? test "id" = some miss.id
  missed : a.meets (miss.shortfall, miss.expected) = false
  first : ∃ before after, stated test = before ++ (miss.shortfall, miss.expected) :: after ∧
    ∀ e ∈ before, a.meets e = true
  got : miss.got = a.got miss.shortfall

/-- The miss of a case with an id, if its answer misses an expectation. -/
def miss? (a : Answer) (id : Value) (test : Row) : Option Miss :=
  ((stated test).find? fun e => !a.meets e).map fun e => ⟨id, e.1, e.2, a.got e.1, none⟩

variable {a : Answer} {test : Row} {id kind : Value} {miss : Miss}

theorem miss?_isNone : (a.miss? id test).isNone = a.meetsAll test := by
  rw [miss?, Option.isNone_map, meetsAll, Bool.eq_iff_iff, Option.isNone_iff_eq_none,
    List.find?_eq_none, List.all_eq_true]
  simp

theorem missesFirst_of_miss? (hid : Row.get? test "id" = some id) (h : a.miss? id test = some miss) :
    a.MissesFirst test miss := by
  obtain ⟨e, he, rfl⟩ := Option.map_eq_some_iff.1 h
  obtain ⟨hmissed, before, after, hstated, hbefore⟩ := List.find?_eq_some_iff_append.1 he
  refine ⟨hid, by simpa using hmissed, ⟨before, after, hstated, ?_⟩, rfl⟩
  exact fun e he => by simpa using hbefore e he

/-- A case without a rule states as much as one whose rule is void. -/
theorem stated_eq (hkind : Row.get? test "expected_kind" = some kind) :
    ∃ rule, (Value.record test).member "expected_rule" = .ok rule ∧
      stated test = (.kind, kind) :: ((if rule.isVoid then [] else [(.rule, rule)]) ++
        ((Row.get? test "expected_row_count").map (Shortfall.rowCount, ·)).toList) := by
  refine ⟨(Row.get? test "expected_rule").getD .null, rfl, ?_⟩
  cases hrule : Row.get? test "expected_rule" with
  | none => simp [stated, hkind, hrule, Value.isVoid]
  | some rule => cases hvoid : rule.isVoid <;> simp [stated, hkind, hrule, hvoid, Option.filter]

/-- A case is compared expectation by expectation. -/
theorem firstMiss_eq (hkind : Row.get? test "expected_kind" = some kind) :
    firstMiss (.record test) id kind a = .ok (a.miss? id test) := by
  have hkindMissed : (!(Value.text a.kind).alike kind) = !a.meets (.kind, kind) := rfl
  have hruleMissed (rule : Value) :
      (!(Value.ofText? a.rule).alike rule) = !a.meets (.rule, rule) := rfl
  have hcountMissed (count : Value) :
      (Value.ofInt? (a.rowCount.map Int.ofNat)).alike count = a.meets (.rowCount, count) := rfl
  obtain ⟨rule, hrule, hstated⟩ := stated_eq hkind
  simp only [firstMiss, hrule, hkindMissed, hruleMissed, hcountMissed, miss?, hstated]
  cases hkindMet : a.meets (.kind, kind) with
  | false => simp [hkindMet]; rfl
  | true =>
    cases hskip : !rule.isVoid && !a.meets (.rule, rule) with
    | true =>
      rw [Bool.and_eq_true, Bool.not_eq_true', Bool.not_eq_true'] at hskip
      simp [hkindMet, hskip.1, hskip.2, bind, Except.bind]; rfl
    | false =>
      have hnone : (if rule.isVoid then [] else [(Shortfall.rule, rule)]).find?
          (fun e => !a.meets e) = none := by
        split
        · rfl
        · rename_i hvoid
          simp only [Bool.not_eq_true] at hvoid
          simpa [hvoid] using hskip
      rw [List.find?_cons_of_neg (by simp [hkindMet]), List.find?_append, hnone, Option.none_or]
      cases Row.get? test "expected_row_count" with
      | none => simp [hskip, bind, Except.bind]; rfl
      | some count =>
        cases hcount : a.meets (.rowCount, count) <;>
          simp [hskip, hcount, bind, Except.bind] <;> rfl

end Answer

/-! ## Verdicts -/

namespace Step

variable {α β : Type} {w w' : World MemoryStore}

theorem lift_apply (a : α) (f : α → Step β) :
    ((liftM (Except.ok a : Except Mishap α) : Step α) >>= f) w = f a w := rfl

theorem bind_of_ok {x : Step α} {a : α} (h : x w = .ok (a, w')) (f : α → Step β) :
    (x >>= f) w = f a w' := by
  show (x w).bind _ = _
  rw [h]
  rfl

end Step

/-- A case has a query, an id, and the kind that its outcome should have. -/
structure IsCase (test : Row) : Prop where
  query : ∃ query, Row.get? test "query" = some query
  id : ∃ id, Row.get? test "id" = some id
  kind : ∃ kind, Row.get? test "expected_kind" = some kind

/-- The answer to a case that is the only one. -/
def answerAlone (tables : List (String × List Row)) (test : Row) : Except Mishap Answer := do
  let query ← (Value.record test).part "query"
  let id ← (Value.record test).part "id"
  (answer (runId id) query).run' (start tables)

/-- The verdict on a case with the given answer. -/
def verdictOf (a : Answer) (test : Row) : Verdict :=
  ⟨a, a.miss? ((Row.get? test "id").getD .null) test⟩

section Verdicts

variable {tables : List (String × List Row)} {test : Row} {tests : List Row}

/-- The verdict on a case does not depend on the cases before it. -/
theorem judge_case (tables : List (String × List Row)) (h : IsCase test) :
    ∃ a : Answer, a.IsServed ∧ answerAlone tables test = .ok a ∧ ∀ w, Holds tables w →
      ∃ w', judge (.record test) w = .ok (verdictOf a test, w') ∧ Holds tables w' := by
  obtain ⟨query, hquery⟩ := h.query
  obtain ⟨id, hid⟩ := h.id
  obtain ⟨kind, hkind⟩ := h.kind
  obtain ⟨a, hserved, hanswer⟩ := answer_holds tables query
  refine ⟨a, hserved, ?_, fun w hw => ?_⟩
  · obtain ⟨w', hrun, -⟩ := hanswer (runId id) (start tables) (start_holds tables)
    simp only [answerAlone, Value.part_record hquery, Value.part_record hid, bind, Except.bind,
      StateT.run', hrun]
    rfl
  · obtain ⟨w', hrun, hw'⟩ := hanswer (runId id) w hw
    refine ⟨w', ?_, hw'⟩
    simp only [judge, Value.part_record hquery, Value.part_record hid, Value.part_record hkind,
      Step.lift_apply, Step.bind_of_ok hrun, Answer.firstMiss_eq hkind, verdictOf, hid]
    rfl

/-- The verdicts on cases, one after the other, are those on each of them alone. -/
theorem judge_cases {answers : Row → Answer} (h : ∀ test ∈ tests, ∀ w, Holds tables w →
      ∃ w', judge (.record test) w = .ok (verdictOf (answers test) test, w') ∧ Holds tables w')
    {w : World MemoryStore} (hw : Holds tables w) :
    ∃ w', (tests.map Value.record).mapM judge w =
      .ok (tests.map fun test => verdictOf (answers test) test, w') := by
  induction tests generalizing w with
  | nil => exact ⟨w, rfl⟩
  | cons test rest ih =>
    obtain ⟨w₁, hfirst, hw₁⟩ := h test List.mem_cons_self w hw
    obtain ⟨w₂, hrest⟩ := ih (fun t ht => h t (List.mem_cons_of_mem test ht)) hw₁
    refine ⟨w₂, ?_⟩
    rw [List.map_cons, List.mapM_cons, Step.bind_of_ok hfirst, Step.bind_of_ok hrest]
    rfl

/-- **The verdicts of an evaluation are those on its cases alone.** -/
theorem evaluate_cases (tables : List (String × List Row)) (h : ∀ test ∈ tests, IsCase test) :
    ∃ answers : Row → Answer, (∀ test ∈ tests, (answers test).IsServed ∧
        answerAlone tables test = .ok (answers test)) ∧
      ∀ order : List Row, order ⊆ tests → evaluate tables (order.map .record) =
        .ok (order.map fun test => verdictOf (answers test) test) := by
  have : Nonempty Answer := ⟨⟨"", none, none⟩⟩
  choose! answers hserved halone hjudge using fun test ht => judge_case tables (h test ht)
  refine ⟨answers, fun test ht => ⟨hserved test ht, halone test ht⟩, fun order horder => ?_⟩
  obtain ⟨w', hrun⟩ := judge_cases (fun test ht => hjudge test (horder ht)) (start_holds tables)
  simp only [evaluate, StateT.run', hrun]
  rfl

end Verdicts

/-! ## Counters -/

/-- The counters say what was seen: how many verdicts there were, of each kind, and the misses in
their order. -/
structure Counters.CountsAll (c : Counters) (seen : List Verdict) : Prop where
  total : c.total = seen.length
  correct : c.correct = seen.countP (·.miss.isNone)
  okTotal : c.okTotal = seen.countP (·.answer.kind == okKind)
  fallbackServed : c.fallbackServed = seen.countP Verdict.isFallback
  misses : c.misses = seen.filterMap (·.miss)
  balance : c.total = c.correct + c.misses.length

theorem countP_snoc (p : Verdict → Bool) (seen : List Verdict) (v : Verdict) :
    (seen ++ [v]).countP p = if p v then seen.countP p + 1 else seen.countP p := by
  rw [List.countP_append, List.countP_singleton]
  split <;> rfl

/-- A verdict is counted. -/
theorem Counters.CountsAll.add {c : Counters} {seen : List Verdict} (h : c.CountsAll seen)
    (v : Verdict) : (c.add v).CountsAll (seen ++ [v]) where
  total := by simp [Counters.add, h.total]
  correct := by rw [countP_snoc, ← h.correct]; rfl
  okTotal := by rw [countP_snoc, ← h.okTotal]; rfl
  fallbackServed := by rw [countP_snoc, ← h.fallbackServed]; rfl
  misses := by cases hmiss : v.miss <;> simp [Counters.add, h.misses, hmiss]
  balance := by
    have hbalance := h.balance
    cases hmiss : v.miss <;> simp [Counters.add, hmiss] <;> omega

/-- **The counters say what was seen**, after any number of verdicts. -/
theorem count_countsAll (verdicts : List Verdict) : (count verdicts).CountsAll verdicts := by
  have hfold (c : Counters) (seen : List Verdict) (h : c.CountsAll seen) :
      (verdicts.foldl .add c).CountsAll (seen ++ verdicts) := by
    induction verdicts generalizing c seen with
    | nil => rwa [List.append_nil]
    | cons v rest ih =>
      rw [List.foldl_cons, List.append_cons]
      exact ih (c.add v) (seen ++ [v]) (h.add v)
  exact hfold .zero [] ⟨rfl, rfl, rfl, rfl, rfl, rfl⟩

/-! ## Reports -/

/-- The cases whose answers miss an expectation, in their order. -/
def missing (tests : List Row) (answers : Row → Answer) : List Row :=
  tests.filter fun test => !(answers test).meetsAll test

/-- The report and the complaint are an account of the cases with their answers. -/
structure IsAccount (tests : List Row) (answers : Row → Answer) (report : Report)
    (complaint : Option String) : Prop where
  total : report.measures.total = tests.length
  correct : report.measures.correct = tests.countP fun test => (answers test).meetsAll test
  balance : report.measures.total = report.measures.correct + (missing tests answers).length
  misses : List.Forall₂ (fun test miss => (answers test).MissesFirst test miss)
    ((missing tests answers).take listedMisses) report.misses
  okTotal : report.measures.okTotal = tests.countP fun test => (answers test).kind == okKind
  fallbackServed : report.measures.fallbackServed = report.measures.okTotal
  okTotal_le : report.measures.okTotal ≤ report.measures.total
  /-- There is a complaint if the share of correct cases is rounded to less than one. -/
  gate : complaint.isSome = true ↔ tests.length < 2 ^ 54 * (missing tests answers).length
  gate_few : tests.length < 2 ^ 54 →
    (complaint.isSome = true ↔ ∃ test ∈ tests, (answers test).meetsAll test = false)

section Reports

variable {tests : List Row} {answers : Row → Answer}

/-- A case that misses an expectation has one miss, and any other none. -/
theorem misses_first (hid : ∀ test ∈ tests, ∃ id, Row.get? test "id" = some id) :
    List.Forall₂ (fun test miss => (answers test).MissesFirst test miss) (missing tests answers)
      ((tests.map fun test => verdictOf (answers test) test).filterMap (·.miss)) := by
  induction tests with
  | nil => exact .nil
  | cons test rest ih =>
    have hrest := ih fun t ht => hid t (List.mem_cons_of_mem test ht)
    obtain ⟨id, hid⟩ := hid test List.mem_cons_self
    have hnone : ((answers test).miss? id test).isNone = (answers test).meetsAll test :=
      Answer.miss?_isNone
    have hmiss : (verdictOf (answers test) test).miss = (answers test).miss? id test := by
      simp only [verdictOf, hid, Option.getD_some]
    unfold missing
    rw [List.filter_cons, List.map_cons]
    cases h : (answers test).miss? id test with
    | none =>
      rw [h] at hnone hmiss
      rw [← hnone, List.filterMap_cons_none hmiss]
      exact hrest
    | some miss =>
      rw [h] at hnone hmiss
      rw [← hnone, List.filterMap_cons_some hmiss]
      exact .cons (Answer.missesFirst_of_miss? hid h) hrest

/-- The structured path serves all answers with rows. -/
theorem isFallback_iff {a : Answer} (h : a.IsServed) (test : Row) :
    (verdictOf a test).isFallback = ((verdictOf a test).answer.kind == okKind) := by
  show (a.kind == okKind && a.rule.any (!·.isEmpty)) = (a.kind == okKind)
  cases hkind : a.kind == okKind with
  | false => rfl
  | true =>
    obtain ⟨rule, hrule⟩ := h (by simpa using hkind)
    rw [hrule]
    cases rule <;> decide

/-- What is counted of the verdicts on cases. -/
theorem count_cases (hserved : ∀ test ∈ tests, (answers test).IsServed) :
    let c := count (tests.map fun test => verdictOf (answers test) test)
    c.total = tests.length ∧ c.correct = (tests.countP fun test => (answers test).meetsAll test) ∧
      c.okTotal = (tests.countP fun test => (answers test).kind == okKind) ∧
      c.fallbackServed = c.okTotal := by
  intro c
  have hcounts := count_countsAll (tests.map fun test => verdictOf (answers test) test)
  refine ⟨?_, ?_, ?_, ?_⟩
  · rw [hcounts.total, List.length_map]
  · rw [hcounts.correct, List.countP_map]
    exact List.countP_congr fun test _ => by
      rw [Function.comp_apply, verdictOf, Answer.miss?_isNone]
  · rw [hcounts.okTotal, List.countP_map]
    rfl
  · rw [hcounts.fallbackServed, hcounts.okTotal]
    refine List.countP_congr fun v hv => ?_
    obtain ⟨test, htest, rfl⟩ := List.mem_map.1 hv
    rw [isFallback_iff (hserved test htest)]

/-- The report on cases with their answers is an account of them. -/
theorem reportOf_isAccount (hne : tests ≠ []) (hcases : ∀ test ∈ tests, IsCase test)
    (hserved : ∀ test ∈ tests, (answers test).IsServed) :
    let verdicts := tests.map fun test => verdictOf (answers test) test
    IsAccount tests answers (reportOf verdicts) (gate verdicts) := by
  intro verdicts
  have hcounts := count_countsAll verdicts
  obtain ⟨htotal, hcorrect, hok, hfallback⟩ := count_cases hserved
  have hmisses := @misses_first tests answers fun test ht => (hcases test ht).id
  have hlength : (count verdicts).misses.length = (missing tests answers).length := by
    rw [hcounts.misses]
    exact hmisses.length_eq.symm
  have hbalance := hcounts.balance
  rw [hlength] at hbalance
  have hpos : 0 < (count verdicts).total := by
    rw [htotal]
    exact List.length_pos_iff.2 hne
  have hgate : (gate verdicts).isSome = true ↔
      tests.length < 2 ^ 54 * (missing tests answers).length := by
    have hdifference : (count verdicts).total - (count verdicts).correct =
        (missing tests answers).length := by omega
    have hwhole : (count verdicts).total = tests.length := htotal
    rw [← hdifference, ← hwhole, ← belowOne_share hpos (by omega)]
    show (if belowOne (share (count verdicts).correct (count verdicts).total) then some _
      else none : Option String).isSome = true ↔ _
    cases belowOne (share (count verdicts).correct (count verdicts).total) <;> simp
  refine ⟨?_, ?_, ?_, ?_, ?_, ?_, ?_, hgate, fun hfew => ?_⟩
  · exact congrArg Int.ofNat htotal
  · exact congrArg Int.ofNat hcorrect
  · show ((count verdicts).total : ℤ) = (count verdicts).correct + (missing tests answers).length
    omega
  · show List.Forall₂ _ _ ((count verdicts).misses.take listedMisses)
    rw [hcounts.misses]
    exact List.forall₂_take listedMisses hmisses
  · exact congrArg Int.ofNat hok
  · exact congrArg Int.ofNat hfallback
  · show ((count verdicts).okTotal : ℤ) ≤ (count verdicts).total
    rw [hok, htotal]
    exact_mod_cast List.countP_le_length
  · have hsome : 0 < (missing tests answers).length ↔
        ∃ test ∈ tests, (answers test).meetsAll test = false := by
      simp [List.length_pos_iff_exists_mem, missing]
    rw [hgate, ← hsome]
    omega

end Reports

/-- **A report accounts for its cases.**  Each case has an answer, which is the one that it has
alone. The report counts the cases, those whose answers meet all expectations that they state, and
those with rows, all of which were served by the structured path.  It lists the first of the other
cases in their order, each with the first expectation that is missed.  There is a complaint exactly
if the share of correct cases is rounded to less than one; among fewer than `2 ^ 54` cases, exactly
if a case misses an expectation.  In another order the same cases have the same measures. -/
theorem evaluate_accounts (tables : List (String × List Row)) {tests : List Row} (hne : tests ≠ [])
    (hcases : ∀ test ∈ tests, IsCase test) :
    ∃ (answers : Row → Answer) (verdicts : List Verdict),
      (∀ test ∈ tests, answerAlone tables test = .ok (answers test)) ∧
      evaluate tables (tests.map .record) = .ok verdicts ∧
      IsAccount tests answers (reportOf verdicts) (gate verdicts) ∧
      ∀ order : List Row, tests.Perm order → ∃ verdicts',
        evaluate tables (order.map .record) = .ok verdicts' ∧
        (reportOf verdicts').measures = (reportOf verdicts).measures ∧
        gate verdicts' = gate verdicts := by
  obtain ⟨answers, hanswers, hevaluate⟩ := evaluate_cases tables hcases
  have hserved : ∀ test ∈ tests, (answers test).IsServed := fun test ht => (hanswers test ht).1
  refine ⟨answers, _, fun test ht => (hanswers test ht).2, hevaluate tests (List.Subset.refl tests),
    reportOf_isAccount hne hcases hserved, fun order horder => ?_⟩
  refine ⟨_, hevaluate order horder.symm.subset, ?_⟩
  obtain ⟨htotal, hcorrect, hok, hfallback⟩ := count_cases hserved
  obtain ⟨htotal', hcorrect', hok', hfallback'⟩ := @count_cases order answers
    fun test ht => hserved test (horder.mem_iff.2 ht)
  have hmeasures : (count (order.map fun test => verdictOf (answers test) test)).measures =
      (count (tests.map fun test => verdictOf (answers test) test)).measures := by
    simp only [Counters.measures, htotal, hcorrect, hok, hfallback, htotal', hcorrect', hok',
      hfallback', horder.length_eq, horder.countP_eq]
  constructor
  · simp only [reportOf, hmeasures]
  · simp only [gate, hmeasures]

/-! ### Cases over one row -/

/-- A table with one row. -/
def oneUser : List (String × List Row) :=
  [("users", [[("id", .int 1)]])]

/-- A case that asks for the row, with more expectations. -/
def asking (more : Row) : Row :=
  [("id", .int 1), ("query", .text "SELECT * FROM users"), ("expected_kind", .text "ok")] ++ more

/-- A case that states how many rows there are. -/
def metCase : Row := asking [("expected_row_count", .int 1)]

/-- A case that states a rule which is not the one that matches. -/
def missedCase : Row := asking [("expected_rule", .text "count_all")]

theorem asking_isCase (more : Row) : IsCase (asking more) :=
  ⟨⟨_, rfl⟩, ⟨_, rfl⟩, ⟨_, rfl⟩⟩

theorem answerAlone_asking (more : Row) :
    answerAlone oneUser (asking more) = .ok ⟨"ok", some "select_all", some 1⟩ := by
  with_unfolding_all rfl

/-- The verdict on a case that is the only one. -/
theorem evaluate_asking (more : Row) : evaluate oneUser [.record (asking more)] =
    .ok [verdictOf ⟨"ok", some "select_all", some 1⟩ (asking more)] := by
  have hcases : ∀ test ∈ [asking more], IsCase test :=
    List.forall_mem_singleton.2 (asking_isCase more)
  obtain ⟨answers, hanswers, hevaluate⟩ := evaluate_cases oneUser hcases
  obtain ⟨-, halone⟩ := hanswers (asking more) (List.mem_singleton.2 rfl)
  have hverdicts := hevaluate [asking more] (List.Subset.refl _)
  rwa [List.map_singleton, List.map_singleton,
    Except.ok.inj (halone.symm.trans (answerAlone_asking more))] at hverdicts

theorem meetsAll_metCase {a : Answer} (h : answerAlone oneUser metCase = .ok a) :
    a.meetsAll metCase = true := by
  rw [Except.ok.inj (h.symm.trans (answerAlone_asking _))]
  decide +kernel

theorem meetsAll_missedCase {a : Answer} (h : answerAlone oneUser missedCase = .ok a) :
    a.meetsAll missedCase = false := by
  rw [Except.ok.inj (h.symm.trans (answerAlone_asking _))]
  decide +kernel

/-- One of two cases misses an expectation. -/
theorem evaluate_accounts_two : ∃ verdicts,
    evaluate oneUser ([metCase, missedCase].map .record) = .ok verdicts ∧
    (reportOf verdicts).measures.total = 2 ∧ (reportOf verdicts).measures.correct = 1 ∧
    (gate verdicts).isSome = true := by
  obtain ⟨answers, verdicts, halone, hverdicts, haccount, -⟩ := evaluate_accounts oneUser
    (List.cons_ne_nil metCase [missedCase])
    (List.forall_mem_cons.2 ⟨asking_isCase _, List.forall_mem_singleton.2 (asking_isCase _)⟩)
  have hmet := meetsAll_metCase (halone metCase (by simp))
  have hmissed := meetsAll_missedCase (halone missedCase (by simp))
  refine ⟨verdicts, hverdicts, haccount.total, ?_, ?_⟩
  · rw [haccount.correct, List.countP_cons, List.countP_cons, hmet, hmissed]
    rfl
  · exact (haccount.gate_few (by decide)).2 ⟨missedCase, by simp, hmissed⟩

/-- One miss among so many cases passes without a complaint if it is rounded away. -/
theorem evaluate_oneMiss {n : ℕ} (hn : 2 ^ 54 ≤ n + 1) : ∃ verdicts,
    evaluate oneUser ((List.replicate n metCase ++ [missedCase]).map .record) = .ok verdicts ∧
    (reportOf verdicts).measures.total = n + 1 ∧ (reportOf verdicts).measures.correct = n ∧
    gate verdicts = none := by
  have hcases : ∀ test ∈ List.replicate n metCase ++ [missedCase], IsCase test := by
    intro test ht
    rcases List.mem_append.1 ht with ht | ht
    · rw [List.eq_of_mem_replicate ht]
      exact asking_isCase _
    · rw [List.mem_singleton.1 ht]
      exact asking_isCase _
  obtain ⟨answers, hanswers, hevaluate⟩ := evaluate_cases oneUser hcases
  have haccount := reportOf_isAccount (by simp) hcases fun test ht => (hanswers test ht).1
  have hmet := meetsAll_metCase (hanswers metCase (by simp; omega)).2
  have hmissed := meetsAll_missedCase (hanswers missedCase (by simp)).2
  have hcorrect := haccount.correct
  have htotal := haccount.total
  have hbalance := haccount.balance
  rw [List.countP_append, List.countP_replicate, List.countP_singleton, hmet, hmissed,
    if_pos rfl, if_neg Bool.false_ne_true, Nat.add_zero] at hcorrect
  rw [List.length_append, List.length_replicate, List.length_singleton] at htotal
  refine ⟨_, hevaluate _ (List.Subset.refl _), by exact_mod_cast htotal, hcorrect, ?_⟩
  rw [← Option.not_isSome_iff_eq_none, haccount.gate, List.length_append, List.length_replicate,
    List.length_singleton]
  omega

/-- A rule that is the empty text is stated and not met, and yet the case counts as correct.  And
among very many cases, a miss passes without a complaint. -/
theorem evaluate_overlooks :
    (∃ verdict, evaluate oneUser [.record (asking [("expected_rule", .text "")])] = .ok [verdict] ∧
      verdict.answer.rule = some "select_all" ∧
      (reportOf [verdict]).measures.correct = 1 ∧ gate [verdict] = none) ∧
    ∃ verdicts, evaluate oneUser
        ((List.replicate (2 ^ 54 - 1) metCase ++ [missedCase]).map .record) = .ok verdicts ∧
      (reportOf verdicts).measures.correct < (reportOf verdicts).measures.total ∧
      gate verdicts = none := by
  constructor
  · exact ⟨_, evaluate_asking _, rfl, by decide +kernel, by decide +kernel⟩
  · have hmany : 2 ^ 54 ≤ 2 ^ 54 - 1 + 1 := by norm_num
    obtain ⟨verdicts, hverdicts, htotal, hcorrect, hgate⟩ := evaluate_oneMiss hmany
    exact ⟨verdicts, hverdicts, by omega, hgate⟩

end ReadGate.Evaluation
