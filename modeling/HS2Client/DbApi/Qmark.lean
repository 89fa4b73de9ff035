import HS2Client.DbApi.Binding

/-!
# Positional binding as simultaneous substitution

A template is a non-empty sequence of `?` marks between literal segments. The
reference meaning puts the rendered values into the marks at once. The code
reaches it by rewriting the text again and again, so a marker inside an inserted
value is taken for one of the statement. `MarkersStayInStatement` says when none is.
-/

namespace HS2Client.DbApi

open TextSearch

/-- Literal text that holds none of the three kinds of marker. -/
def MarkerFree (segment : Text) : Prop :=
  '?' ∉ segment ∧ ¬ formatMarker <:+: segment ∧
    ∀ digit : Char, digit.isDigit → ¬ [':', digit] <:+: segment

/-- The segments `s₀ … sₘ` of a statement with `m ≥ 1` marks. -/
structure QmarkTemplate where
  first : Text
  rest : List Text
  nonempty : rest ≠ []
  markerFree : ∀ segment ∈ first :: rest, MarkerFree segment

namespace QmarkTemplate

def markCount (template : QmarkTemplate) : Nat := template.rest.length

/-- `s₀ ? s₁ ? … ? sₘ` -/
def statement (template : QmarkTemplate) : Text :=
  template.first ++ template.rest.flatMap ('?' :: ·)

/-- `s₀ r₁ s₁ … rₘ sₘ` -/
def substitute (template : QmarkTemplate) (rendered : List Text) : Text :=
  template.first ++ (List.zipWith (· ++ ·) rendered template.rest).flatten

/-- Binding raises exactly on a wrong number of values and otherwise substitutes. -/
def BindsSimultaneously (template : QmarkTemplate) (values : List Value) : Prop :=
  (values.length ≠ template.markCount →
    ∃ message, bindParametersList template.statement values =
      .error (.programmingError message)) ∧
  (values.length = template.markCount →
    bindParametersList template.statement values =
      .ok (template.substitute (values.map stringParameter)))

/-- Inserting the values one by one meets the last `?` only with the last value. -/
def QmarksBalance (template : QmarkTemplate) (rendered : List Text) : Prop :=
  template.markCount + rendered.flatten.count '?' = rendered.length ∧
    ∀ inserted < rendered.length,
      template.markCount + (rendered.take inserted).flatten.count '?' ≠ inserted

/-- No pass ever finds a marker that an inserted value brought in: surplus values are not
used up by `?` inside other values, and with the right number of values the substituted
text holds no marker at all. -/
def MarkersStayInStatement (template : QmarkTemplate) (values : List Value) : Prop :=
  let rendered := values.map stringParameter
  (template.QmarksBalance rendered → values.length = template.markCount) ∧
  (values.length = template.markCount →
    '?' ∉ rendered.flatten ∧ ¬ formatMarker <:+: template.substitute rendered ∧
      ∀ index, 1 ≤ index → index ≤ values.length →
        ¬ numericMarker index <:+: template.substitute rendered)

theorem markCount_pos (template : QmarkTemplate) : 0 < template.markCount :=
  List.length_pos_iff.mpr template.nonempty

theorem qmark_not_mem (template : QmarkTemplate) {segment : Text}
    (membership : segment ∈ template.first :: template.rest) : '?' ∉ segment :=
  (template.markerFree segment membership).1

theorem count_statement (template : QmarkTemplate) :
    template.statement.count '?' = template.markCount := by
  have segments : ∀ rest : List Text, (∀ segment ∈ rest, '?' ∉ segment) →
      (rest.flatMap ('?' :: ·)).count '?' = rest.length := by
    intro rest clean
    induction rest with
    | nil => rfl
    | cons segment rest ih =>
        have none : segment.count '?' = 0 := List.count_eq_zero.mpr (clean segment (by simp))
        have tail := ih (fun other membership => clean other (by simp [membership]))
        simp [List.count_append, none, tail]
  have first : template.first.count '?' = 0 :=
    List.count_eq_zero.mpr (template.qmark_not_mem (by simp))
  rw [statement, List.count_append, first, Nat.zero_add]
  exact segments template.rest (fun segment membership =>
    template.qmark_not_mem (by simp [membership]))

end QmarkTemplate

/-- The `?` pass gets through only when the marks balance at the last value. -/
theorem qmarksBalance_of_ok {template : QmarkTemplate} {rendered : List Text} {result : Text}
    (passed : replaceMarkers qmark template.statement rendered = .ok result) :
    template.QmarksBalance rendered := by
  unfold replaceMarkers at passed
  cases loop : replaceMarkersLoop qmark rendered.length 0 rendered template.statement with
  | error raised => simp [loop] at passed
  | ok outcome =>
      obtain ⟨op, finalIndex⟩ := outcome
      obtain ⟨used, bounded, index, balance, minimal⟩ := replaceMarkersLoop_qmark_ok loop
      have positive := template.markCount_pos
      rw [template.count_statement] at balance minimal
      simp only [loop] at passed
      have complete : used = rendered.length := by
        by_contra partly
        have raised : finalIndex ≠ 0 ∧ finalIndex ≠ rendered.length := by omega
        simp [raised] at passed
      subst used
      rw [List.take_length] at balance
      exact ⟨balance, minimal⟩

theorem replaceMarkers_error {marker op : Text} {parameters : List Text} {raised : DbError}
    (failed : replaceMarkers marker op parameters = .error raised) :
    ∃ message, raised = .programmingError message := by
  cases raised with
  | programmingError message => exact ⟨message, rfl⟩

/-- A statement whose marks do not balance is rejected by the first pass. -/
theorem bindParametersList_error_of_unbalanced {template : QmarkTemplate} {values : List Value}
    (unbalanced : ¬ template.QmarksBalance (values.map stringParameter)) :
    ∃ message, bindParametersList template.statement values =
      .error (.programmingError message) := by
  cases passed : replaceMarkers qmark template.statement (values.map stringParameter) with
  | ok result => exact absurd (qmarksBalance_of_ok passed) unbalanced
  | error raised =>
      obtain ⟨message, rfl⟩ := replaceMarkers_error passed
      exact ⟨message, by simp [bindParametersList, replaceNumericMarkers, passed, bind, Except.bind]⟩

/-- As many values as marks balance only when no value holds a `?`. -/
theorem qmark_not_mem_of_balance {template : QmarkTemplate} {rendered : List Text}
    (complete : rendered.length = template.markCount)
    (balance : template.QmarksBalance rendered) : '?' ∉ rendered.flatten := by
  intro present
  have positive : 0 < rendered.flatten.count '?' := List.count_pos_iff.mpr present
  have total := balance.1
  omega

theorem bindParametersList_clean {template : QmarkTemplate} {values : List Value}
    (complete : values.length = template.markCount)
    (cleanValues : '?' ∉ (values.map stringParameter).flatten)
    (noFormat : ¬ formatMarker <:+: template.substitute (values.map stringParameter))
    (noNumeric : ∀ index, 1 ≤ index → index ≤ values.length →
      ¬ numericMarker index <:+: template.substitute (values.map stringParameter)) :
    bindParametersList template.statement values =
      .ok (template.substitute (values.map stringParameter)) := by
  have lengths : (values.map stringParameter).length = template.rest.length := by
    simpa [QmarkTemplate.markCount] using complete
  have first : replaceMarkers qmark template.statement (values.map stringParameter) =
      .ok (template.substitute (values.map stringParameter)) :=
    replaceMarkers_clean [] lengths (template.qmark_not_mem List.mem_cons_self)
      (fun segment membership => template.qmark_not_mem (by simp [membership])) cleanValues
  have second := replaceMarkers_of_absent noFormat (values.map stringParameter)
  have third := replaceNumbered_of_absent (values.map stringParameter)
    (values.map stringParameter).length _
    (fun index positive bounded => noNumeric index positive (by simpa using bounded))
  simp only [bindParametersList, replaceNumericMarkers, first, second, bind, Except.bind,
    pure, Except.pure, third]

/-- Positional binding is simultaneous substitution as long as no inserted value brings a
marker into the text. With as many values as marks, a `?` in any value breaks it. -/
theorem bindParametersList_simultaneous (template : QmarkTemplate) (values : List Value) :
    (template.MarkersStayInStatement values → template.BindsSimultaneously values) ∧
    (values.length = template.markCount → '?' ∈ (values.map stringParameter).flatten →
      ¬ template.BindsSimultaneously values) := by
  constructor
  · rintro ⟨surplus, clean⟩
    refine ⟨?_, ?_⟩
    · intro mismatch
      exact bindParametersList_error_of_unbalanced (fun balance => mismatch (surplus balance))
    · intro complete
      obtain ⟨cleanValues, noFormat, noNumeric⟩ := clean complete
      exact bindParametersList_clean complete cleanValues noFormat noNumeric
  · intro complete present simultaneous
    have unbalanced : ¬ template.QmarksBalance (values.map stringParameter) := fun balance =>
      qmark_not_mem_of_balance (by simpa using complete) balance present
    obtain ⟨message, raised⟩ := bindParametersList_error_of_unbalanced unbalanced
    rw [simultaneous.2 complete] at raised
    cases raised

/-- `a = ? and b = ?` -/
def twoMarks : QmarkTemplate where
  first := "a = ".toList
  rest := [" and b = ".toList, []]
  nonempty := by simp
  markerFree := by
    intro segment membership
    have cases : segment = "a = ".toList ∨ segment = " and b = ".toList ∨ segment = [] := by
      simpa using membership
    have noColon : ∀ text : Text, ':' ∉ text → ∀ digit : Char, ¬ [':', digit] <:+: text := by
      intro text absent digit found
      exact absent (found.mem (by simp))
    rcases cases with rfl | rfl | rfl <;>
      exact ⟨by decide, by decide, fun digit _ => noColon _ (by decide) digit⟩

theorem bindParametersList_simultaneous_twoMarks :
    bindParametersList twoMarks.statement [.str "it's 5%".toList, .none] =
        .ok "a = 'it\\'s 5%' and b = NULL".toList ∧
      twoMarks.BindsSimultaneously [.str "it's 5%".toList, .none] := by
  refine ⟨by decide, (bindParametersList_simultaneous twoMarks _).1 ⟨fun _ => rfl, fun _ => ?_⟩⟩
  refine ⟨by decide, by decide, fun index positive bounded => ?_⟩
  have indices : index = 1 ∨ index = 2 := by
    change index ≤ 2 at bounded
    omega
  rcases indices with rfl | rfl <;> decide

/-- A single mark with nothing around it. -/
def bareMark : QmarkTemplate where
  first := []
  rest := [[]]
  nonempty := by simp
  markerFree := by
    intro segment membership
    obtain rfl : segment = [] := by simpa using membership
    exact ⟨by simp, by decide, by simp⟩

/-- The value `?` is taken for a second mark, for which there is no value. -/
theorem bindParametersList_rescans_value :
    bareMark.statement = "?".toList ∧
      ¬ bareMark.BindsSimultaneously [.str "?".toList] := by
  refine ⟨rfl, fun simultaneous => ?_⟩
  have substituted := simultaneous.2 rfl
  exact absurd substituted (by decide)

end HS2Client.DbApi
