import ReadGate.Backend.Classification
import ReadGate.Proofs.Text.Lower
import ReadGate.Proofs.Text.Occurrences

/-!
# What is made of a missing table or function

The database names the table or the function that a query asks for and that it does not have.  The
classification searches the message for phrases, and that name stands in it.  So the name has a part
in the verdict.  A missing table counts as a failure of the execution function when its own name
says so, and a missing function does when its name contains the one of the execution function.

* `verdict` — the kind of a failure, from the two conditions that are looked at.
* `Says` — a text says a phrase.
* `says_unknownTable_iff`, `says_unknownFunction_iff` — the messages say what the names in them say.
* `classify_missing` — the verdicts on a missing table and on a missing function.
-/

namespace ReadGate.BackendFault

open Text

/-- The kind of a failure: the capability is absent, or else the syntax is rejected, or neither. -/
def verdict (absent rejected : Prop) [Decidable absent] [Decidable rejected] : BackendFault :=
  if absent then .capabilityAbsent
  else if rejected then .syntaxError
  else .other

section Verdict

variable {absent rejected absent' rejected' : Prop} [Decidable absent] [Decidable rejected]
  [Decidable absent'] [Decidable rejected']

theorem verdict_congr (ha : absent ↔ absent') (hr : rejected ↔ rejected') :
    verdict absent rejected = verdict absent' rejected' := by
  simp only [verdict, ha, hr]

theorem verdict_absent (h : absent) : verdict absent rejected = .capabilityAbsent :=
  if_pos h

theorem verdict_other (ha : ¬ absent) (hr : ¬ rejected) : verdict absent rejected = .other := by
  rw [verdict, if_neg ha, if_neg hr]

end Verdict

/-! ## What a text says -/

/-- The text says the phrase, in any letter case.  The phrase is in lower case. -/
def Says (text phrase : String) : Prop :=
  phrase.toList <:+: (lower text).toList

instance (text phrase : String) : Decidable (Says text phrase) :=
  inferInstanceAs (Decidable (_ <:+: _))

/-- The words for a function that is not exposed. -/
def hiddenFunction : String := "could not find the function"

section Texts

variable {message function code : String}

/-- The verdict, from what the message says. -/
theorem ofText_eq_verdict (hf : function ≠ "") (hhidden : code ≠ hiddenFunctionCode)
    (hrejected : code ≠ syntaxCode) :
    ofText message (some code) (some function) =
      verdict
        (Says message hiddenFunction ∨ Says message (lower function) ∧
          (code = unknownFunctionCode ∨ Says message "function" ∧ Says message "does not exist"))
        (Says message "syntax error") := by
  have hempty : function.isEmpty = false := by simpa using hf
  simp only [ofText, verdict, Says, hiddenFunction, ← contains_iff, Bool.or_eq_true,
    Bool.and_eq_true, beq_iff_eq, Option.some.injEq, hhidden, hrejected, hempty, Bool.not_false,
    true_and, false_or]

/-- A capability that is absent whatever the execution function is called is absent under its name.
-/
theorem ofText_absent (h : ofText message (some code) none = .capabilityAbsent) :
    ofText message (some code) (some function) = .capabilityAbsent := by
  have habsent : (some code == some hiddenFunctionCode ||
      contains (lower message) "could not find the function") = true := by
    by_contra hn
    simp only [ofText, hn, Bool.or_false, if_false] at h
    split at h <;> cases h
  simp only [ofText, habsent, Bool.true_or, if_true]

/-- Texts are classified by what they say. -/
theorem classify_text (message code function : String) :
    classify (.text message) (.text code) (.text function) =
      .ok (ofText message (some code) (some function)) := by
  unfold classify
  by_cases h : ofText message (some code) none = .capabilityAbsent
  · simp [textOf, h, ofText_absent h, bind, Except.bind, pure, Except.pure]
  · simp [textOf, h, bind, Except.bind, pure, Except.pure]

end Texts

/-! ## The messages -/

/-- What the database says of a table that it does not have. -/
def unknownTable (table : String) : String :=
  "relation \"" ++ table ++ "\" does not exist"

/-- The code of an unknown table. -/
def unknownTableCode : String := "42P01"

/-- What the database says of a function that it does not have, with the types of its arguments. -/
def unknownFunction (name arguments : String) : String :=
  "function " ++ name ++ "(" ++ arguments ++ ") does not exist"

theorem lowerFrom_missing : lowerFrom [] " does not exist".toList = " does not exist".toList := by
  decide +kernel

theorem lower_unknownTable (table : String) :
    (lower (unknownTable table)).toList =
      "relation ".toList ++ '"' :: ((lower table).toList ++ '"' :: " does not exist".toList) := by
  have hquote : Neutral '"' := by decide +kernel
  have hmark : lowerChar '"' = ['"'] := by decide
  have hchars : (unknownTable table).toList =
      "relation ".toList ++ '"' :: (table.toList ++ '"' :: " does not exist".toList) := by
    simp [unknownTable]
  have hstart : lowerFrom [] "relation ".toList = "relation ".toList := by decide +kernel
  simp only [lower, String.toList_ofList, hchars, lowerFrom_neutral hquote, hstart, hmark,
    lowerFrom_missing, List.append_assoc, List.singleton_append]

theorem lower_unknownFunction (name arguments : String) :
    (lower (unknownFunction name arguments)).toList =
      "function ".toList ++ ((lower name).toList ++
        '(' :: ((lower arguments).toList ++ ')' :: " does not exist".toList)) := by
  have hblank : Neutral ' ' := by decide +kernel
  have hopen : Neutral '(' := by decide +kernel
  have hclose : Neutral ')' := by decide +kernel
  have hmarks : lowerChar ' ' = [' '] ∧ lowerChar '(' = ['('] ∧ lowerChar ')' = [')'] := by decide
  have hchars : (unknownFunction name arguments).toList =
      "function".toList ++ ' ' ::
        (name.toList ++ '(' :: (arguments.toList ++ ')' :: " does not exist".toList)) := by
    simp [unknownFunction]
  have hstart : lowerFrom [] "function".toList ++ [' '] = "function ".toList := by decide +kernel
  simp only [lower, String.toList_ofList, hchars, lowerFrom_neutral hblank,
    lowerFrom_neutral hopen, lowerFrom_neutral hclose, hmarks, hstart, lowerFrom_missing,
    List.append_assoc, List.singleton_append]

section Messages

variable {phrase : String}

/-- A phrase that is foreign to the words about a table is said only by its name. -/
theorem says_unknownTable_iff (hquote : '"' ∉ phrase.toList)
    (hstart : ¬ phrase.toList <:+: "relation ".toList)
    (hend : ¬ phrase.toList <:+: " does not exist".toList) (table : String) :
    Says (unknownTable table) phrase ↔ Says table phrase := by
  rw [Says, lower_unknownTable, infix_cut_iff hquote, infix_cut_iff hquote, or_iff_right hstart,
    or_iff_left hend, Says]

/-- A phrase that is foreign to the words about a function is said only by its name, or by the types
of its arguments. -/
theorem says_unknownFunction_iff (hopen : '(' ∉ phrase.toList) (hclose : ')' ∉ phrase.toList)
    (hstart : ∀ tail ∈ "function ".toList.tails, tail ≠ [] →
      ¬ tail <+: phrase.toList ∧ ¬ phrase.toList <+: tail)
    (hend : ¬ phrase.toList <:+: " does not exist".toList) (name arguments : String) :
    Says (unknownFunction name arguments) phrase ↔ Says name phrase ∨ Says arguments phrase := by
  rw [Says, lower_unknownFunction, infix_behind_iff hstart, infix_cut_iff hopen,
    infix_cut_iff hclose, or_iff_left hend, Says, Says]

end Messages

theorem unknownTable_says_missing (table : String) : Says (unknownTable table) "does not exist" := by
  rw [Says, lower_unknownTable]
  exact ⟨"relation ".toList ++ '"' :: ((lower table).toList ++ ['"', ' ']), [], by simp⟩

/-! ## The verdicts -/

section Verdicts

variable {function : String}

theorem unknownTable_verdict (hf : function ≠ "") (table : String) :
    ofText (unknownTable table) (some unknownTableCode) (some function) =
      verdict
        (Says table hiddenFunction ∨
          Says (unknownTable table) (lower function) ∧ Says table "function")
        (Says table "syntax error") := by
  have hcode : unknownTableCode ≠ unknownFunctionCode := by decide
  rw [ofText_eq_verdict hf (by decide) (by decide)]
  refine verdict_congr ?_ (says_unknownTable_iff (by decide) (by decide) (by decide) table)
  refine or_congr (says_unknownTable_iff (by decide) (by decide) (by decide) table)
    (and_congr_right' ?_)
  rw [or_iff_right hcode, and_iff_left (unknownTable_says_missing table)]
  exact says_unknownTable_iff (by decide) (by decide) (by decide) table

theorem unknownFunction_verdict (hf : function ≠ "") (name arguments : String) :
    ofText (unknownFunction name arguments) (some unknownFunctionCode) (some function) =
      verdict
        ((Says name hiddenFunction ∨ Says arguments hiddenFunction) ∨
          Says (unknownFunction name arguments) (lower function))
        (Says name "syntax error" ∨ Says arguments "syntax error") := by
  rw [ofText_eq_verdict hf (by decide) (by decide)]
  refine verdict_congr (or_congr ?_ (and_iff_left (.inl rfl))) ?_
  · exact says_unknownFunction_iff (by decide) (by decide) (by decide) (by decide) name arguments
  · exact says_unknownFunction_iff (by decide) (by decide) (by decide) (by decide) name arguments

/-- The execution function itself is named in what is said of it. -/
theorem unknownFunction_says_itself {name : String} (h : lower name = lower function)
    (arguments : String) : Says (unknownFunction name arguments) (lower function) := by
  rw [Says, lower_unknownFunction, h]
  exact List.infix_append' _ _ _

/-- **The verdicts on a missing table and on a missing function**, whatever their names are and
whatever the execution function is called.  If the missing function is the execution function, the
capability is absent. -/
theorem classify_missing (hf : function ≠ "") (table name arguments : String) :
    classify (.text (unknownTable table)) (.text unknownTableCode) (.text function) =
      .ok (verdict
        (Says table hiddenFunction ∨
          Says (unknownTable table) (lower function) ∧ Says table "function")
        (Says table "syntax error")) ∧
    classify (.text (unknownFunction name arguments)) (.text unknownFunctionCode)
        (.text function) =
      .ok (verdict
        ((Says name hiddenFunction ∨ Says arguments hiddenFunction) ∨
          Says (unknownFunction name arguments) (lower function))
        (Says name "syntax error" ∨ Says arguments "syntax error")) ∧
    (lower name = lower function →
      classify (.text (unknownFunction name arguments)) (.text unknownFunctionCode)
        (.text function) = .ok .capabilityAbsent) := by
  simp only [classify_text, unknownTable_verdict hf, unknownFunction_verdict hf, Except.ok.injEq,
    true_and]
  intro hname
  exact verdict_absent (.inr (unknownFunction_says_itself hname arguments))

/-- A name that contains the one of the execution function is mistaken for it, and so is a table
that is called a function. -/
theorem classify_missing_execute_sql :
    lower "execute_sql_v2" ≠ lower "execute_sql" ∧
    classify (.text (unknownFunction "execute_sql_v2" "text")) (.text "42883")
      (.text "execute_sql") = .ok .capabilityAbsent ∧
    classify (.text (unknownFunction "my_udf" "integer")) (.text "42883")
      (.text "execute_sql") = .ok .other ∧
    classify (.text (unknownTable "function_execute_sql")) (.text "42P01")
      (.text "execute_sql") = .ok .capabilityAbsent := by
  have hf : "execute_sql" ≠ "" := by decide
  obtain ⟨htable, hlonger, -⟩ :=
    classify_missing hf "function_execute_sql" "execute_sql_v2" "text"
  obtain ⟨-, hother, -⟩ := classify_missing hf "" "my_udf" "integer"
  refine ⟨by decide +kernel, hlonger.trans ?_, hother.trans ?_, htable.trans ?_⟩
  · exact congrArg _ (verdict_absent (by decide +kernel))
  · exact congrArg _ (verdict_other (by decide +kernel) (by decide +kernel))
  · exact congrArg _ (verdict_absent (by decide +kernel))

end Verdicts

end ReadGate.BackendFault
