import HS2Client.Library.TextSearch

/-!
# Parameter binding of the DB API

A statement and its parameters are Python texts. `_bind_parameters_list` renders
every value and then runs three rewriting passes over the statement: `?`, `%s`
and `:N`. Each pass starts again at the beginning of the text that the previous
one produced.
-/

namespace HS2Client.DbApi

open TextSearch

/-- A Python text, as its sequence of code points. -/
abbrev Text := List Char

/-- What a caller may pass as a parameter: `None`, a string, or any other object,
of which only the result of `str()` matters. -/
inductive Value where
  | none
  | str (text : Text)
  | other (rendered : Text)
  deriving DecidableEq, Repr

inductive DbError where
  | programmingError (message : String)
  deriving DecidableEq, Repr

/-- Quote a string for use between single quotes. -/
def escape (s : Text) : Text :=
  let e := s
  let e := replaceAll ['\\'] ['\\', '\\'] e
  let e := replaceAll ['\n'] ['\\', 'n'] e
  let e := replaceAll ['\r'] ['\\', 'r'] e
  let e := replaceAll ['\''] ['\\', '\''] e
  replaceAll ['"'] ['\\', '"'] e

/-- One round of the loop that fills `string_parameters`. -/
def stringParameter : Value → Text
  | .none => "NULL".toList
  | .str text => '\'' :: (escape text ++ ['\''])
  | .other rendered => rendered

def incorrectBindings (markerIndex paramCount : Nat) : DbError :=
  .programmingError
    ("Incorrect number of bindings supplied. The current statement uses " ++
      toString (markerIndex + 1) ++ " or more, and there are " ++
      toString paramCount ++ " supplied.")

/-- The `while op.find(marker) > -1` loop, on the parameters not used so far. -/
def replaceMarkersLoop (marker : Text) (paramCount : Nat) :
    Nat → List Text → Text → Except DbError (Text × Nat)
  | markerIndex, [], op =>
      if marker <:+: op then .error (incorrectBindings markerIndex paramCount)
      else .ok (op, markerIndex)
  | markerIndex, parameter :: parameters, op =>
      if marker <:+: op then
        replaceMarkersLoop marker paramCount (markerIndex + 1) parameters
          (replaceFirst marker parameter op)
      else .ok (op, markerIndex)

def replaceMarkers (marker op : Text) (parameters : List Text) : Except DbError Text :=
  match replaceMarkersLoop marker parameters.length 0 parameters op with
  | .error raised => .error raised
  | .ok (op, markerIndex) =>
      if markerIndex ≠ 0 ∧ markerIndex ≠ parameters.length then
        .error (incorrectBindings markerIndex parameters.length)
      else .ok op

def qmark : Text := ['?']

def formatMarker : Text := ['%', 's']

/-- `':' + str(index)` -/
def numericMarker (index : Nat) : Text := ':' :: Nat.toDigits 10 index

/-- `for index in range(n, 0, -1)`, with `n` the first argument. -/
def replaceNumbered (parameters : List Text) : Nat → Text → Text
  | 0, operation => operation
  | index + 1, operation =>
      replaceNumbered parameters index
        (replaceAll (numericMarker (index + 1)) (parameters.getD index []) operation)

def replaceNumericMarkers (operation : Text) (stringParameters : List Text) :
    Except DbError Text := do
  let operation ← replaceMarkers qmark operation stringParameters
  let operation ← replaceMarkers formatMarker operation stringParameters
  return replaceNumbered stringParameters stringParameters.length operation

def bindParametersList (operation : Text) (parameters : List Value) : Except DbError Text :=
  replaceNumericMarkers operation (parameters.map stringParameter)

/-! ## The single passes -/

/-- A pass whose marker does not occur leaves the text alone and raises nothing. -/
theorem replaceMarkers_of_absent {marker op : Text} (absent : ¬ marker <:+: op)
    (parameters : List Text) : replaceMarkers marker op parameters = .ok op := by
  have loop : replaceMarkersLoop marker parameters.length 0 parameters op = .ok (op, 0) := by
    cases parameters <;> simp [replaceMarkersLoop, absent]
  simp [replaceMarkers, loop]

theorem replaceNumbered_of_absent (parameters : List Text) (count : Nat) (op : Text)
    (absent : ∀ index, 1 ≤ index → index ≤ count → ¬ numericMarker index <:+: op) :
    replaceNumbered parameters count op = op := by
  induction count with
  | zero => rfl
  | succ count ih =>
      rw [replaceNumbered, replaceAll_of_not_infix (absent (count + 1) (by omega) le_rfl)]
      exact ih (fun index positive bounded => absent index positive (by omega))

section Clean

variable {head : Char} (tail : Text) (paramCount : Nat)

theorem marker_occurs (before segment : Text) (segments : List Text) :
    head :: tail <:+:
      before ++ (segment :: segments).flatMap fun segment => head :: (tail ++ segment) :=
  ⟨before, segment ++ segments.flatMap fun segment => head :: (tail ++ segment), by simp⟩

/-- One turn of the loop puts the next value in the place of the first marker. -/
theorem replaceMarkersLoop_turn (markerIndex : Nat) {before : Text} (cleanBefore : head ∉ before)
    (value segment : Text) (rendered segments : List Text) :
    replaceMarkersLoop (head :: tail) paramCount markerIndex (value :: rendered)
        (before ++ (segment :: segments).flatMap fun segment => head :: (tail ++ segment)) =
      replaceMarkersLoop (head :: tail) paramCount (markerIndex + 1) rendered
        (before ++ (value ++ segment) ++
          segments.flatMap fun segment => head :: (tail ++ segment)) := by
  have replaced := replaceFirst_append_marker cleanBefore tail value
    (segment ++ segments.flatMap fun segment => head :: (tail ++ segment))
  rw [replaceMarkersLoop, if_pos (marker_occurs tail before segment segments), List.flatMap_cons]
  simp only [List.cons_append, List.append_assoc] at replaced ⊢
  rw [replaced]

/-- With segments and values that lack the first character of the marker, the loop puts the values
in one by one. -/
theorem replaceMarkersLoop_clean (markerIndex : Nat) {rendered segments : List Text}
    {before : Text} (enough : segments.length ≤ rendered.length) (cleanBefore : head ∉ before)
    (cleanSegments : ∀ segment ∈ segments, head ∉ segment)
    (cleanValues : head ∉ rendered.flatten) :
    replaceMarkersLoop (head :: tail) paramCount markerIndex rendered
        (before ++ segments.flatMap fun segment => head :: (tail ++ segment)) =
      .ok (before ++ (List.zipWith (· ++ ·) rendered segments).flatten,
        markerIndex + segments.length) := by
  induction segments generalizing markerIndex rendered before with
  | nil =>
      have absent := not_infix_of_head_not_mem cleanBefore tail
      cases rendered <;> simp [replaceMarkersLoop, absent]
  | cons segment segments ih =>
      cases rendered with
      | nil => simp at enough
      | cons value rendered =>
          simp only [List.flatten_cons, List.mem_append, not_or] at cleanValues
          have cleanNext : head ∉ before ++ (value ++ segment) := by
            simp [cleanBefore, cleanValues.1, cleanSegments segment (by simp)]
          rw [replaceMarkersLoop_turn tail paramCount markerIndex cleanBefore,
            ih (markerIndex + 1) (Nat.le_of_succ_le_succ enough) cleanNext
              (fun other membership => cleanSegments other (by simp [membership])) cleanValues.2]
          simp [Nat.add_assoc, Nat.add_comm 1]

/-- With too few values it raises. -/
theorem replaceMarkersLoop_few (markerIndex : Nat) {rendered segments : List Text} {before : Text}
    (few : rendered.length < segments.length) (cleanBefore : head ∉ before)
    (cleanSegments : ∀ segment ∈ segments, head ∉ segment)
    (cleanValues : head ∉ rendered.flatten) :
    ∃ raised, replaceMarkersLoop (head :: tail) paramCount markerIndex rendered
        (before ++ segments.flatMap fun segment => head :: (tail ++ segment)) = .error raised := by
  induction segments generalizing markerIndex rendered before with
  | nil => simp at few
  | cons segment segments ih =>
      cases rendered with
      | nil =>
          exact ⟨_, by rw [replaceMarkersLoop, if_pos (marker_occurs tail before segment segments)]⟩
      | cons value rendered =>
          simp only [List.flatten_cons, List.mem_append, not_or] at cleanValues
          have cleanNext : head ∉ before ++ (value ++ segment) := by
            simp [cleanBefore, cleanValues.1, cleanSegments segment (by simp)]
          rw [replaceMarkersLoop_turn tail paramCount markerIndex cleanBefore]
          exact ih (markerIndex + 1) (Nat.lt_of_succ_lt_succ few) cleanNext
            (fun other membership => cleanSegments other (by simp [membership])) cleanValues.2

variable {paramCount}

theorem replaceMarkers_clean {rendered segments : List Text} {before : Text}
    (lengths : rendered.length = segments.length) (cleanBefore : head ∉ before)
    (cleanSegments : ∀ segment ∈ segments, head ∉ segment)
    (cleanValues : head ∉ rendered.flatten) :
    replaceMarkers (head :: tail)
        (before ++ segments.flatMap fun segment => head :: (tail ++ segment)) rendered =
      .ok (before ++ (List.zipWith (· ++ ·) rendered segments).flatten) := by
  rw [replaceMarkers, replaceMarkersLoop_clean tail rendered.length 0 lengths.ge cleanBefore
    cleanSegments cleanValues]
  simp [lengths]

/-- A wrong number of values is noticed. -/
theorem replaceMarkers_mismatch {rendered segments : List Text} {before : Text}
    (marked : segments ≠ []) (lengths : rendered.length ≠ segments.length)
    (cleanBefore : head ∉ before) (cleanSegments : ∀ segment ∈ segments, head ∉ segment)
    (cleanValues : head ∉ rendered.flatten) :
    ∃ message, replaceMarkers (head :: tail)
        (before ++ segments.flatMap fun segment => head :: (tail ++ segment)) rendered =
      .error (.programmingError message) := by
  rcases Nat.lt_or_gt_of_ne lengths with few | many
  · obtain ⟨⟨message⟩, raised⟩ := replaceMarkersLoop_few tail rendered.length 0 few cleanBefore
      cleanSegments cleanValues
    exact ⟨message, by rw [replaceMarkers, raised]⟩
  · rw [replaceMarkers, replaceMarkersLoop_clean tail rendered.length 0 many.le cleanBefore
      cleanSegments cleanValues]
    have used : segments.length ≠ 0 := fun none => marked (List.length_eq_zero_iff.mp none)
    exact ⟨_, by simp [used, lengths.symm]; rfl⟩

end Clean

/-- Every round consumes one `?` and adds those of the inserted text, so a run of the
loop that ends after `used` rounds has used up the marks it met, for the first time. -/
theorem replaceMarkersLoop_qmark_ok {paramCount markerIndex finalIndex : Nat}
    {parameters : List Text} {op result : Text}
    (finished : replaceMarkersLoop qmark paramCount markerIndex parameters op =
      .ok (result, finalIndex)) :
    ∃ used ≤ parameters.length, finalIndex = markerIndex + used ∧
      op.count '?' + (parameters.take used).flatten.count '?' = used ∧
      ∀ earlier < used, op.count '?' + (parameters.take earlier).flatten.count '?' ≠ earlier := by
  induction parameters generalizing markerIndex op with
  | nil =>
      by_cases found : qmark <:+: op
      · simp [replaceMarkersLoop, found] at finished
      · simp only [replaceMarkersLoop, if_neg found, Except.ok.injEq, Prod.mk.injEq] at finished
        have none : op.count '?' = 0 := List.count_eq_zero.mpr
          (fun present => found (singleton_infix_iff.mpr present))
        exact ⟨0, le_rfl, by omega, by simp [none], by omega⟩
  | cons parameter parameters ih =>
      by_cases found : qmark <:+: op
      · simp only [replaceMarkersLoop, if_pos found] at finished
        obtain ⟨used, bounded, index, balance, minimal⟩ := ih finished
        have present : '?' ∈ op := singleton_infix_iff.mp found
        have positive : 0 < op.count '?' := List.count_pos_iff.mpr present
        have traded := count_replaceFirst_singleton present parameter
        change (replaceFirst qmark parameter op).count '?' + 1 = _ at traded
        refine ⟨used + 1, by simpa using bounded, by omega, ?_, ?_⟩
        · simp only [List.take_succ_cons, List.flatten_cons, List.count_append]
          omega
        · intro earlier before
          cases earlier with
          | zero => simp; omega
          | succ earlier =>
              have later := minimal earlier (by omega)
              simp only [List.take_succ_cons, List.flatten_cons, List.count_append]
              omega
      · simp only [replaceMarkersLoop, if_neg found, Except.ok.injEq, Prod.mk.injEq] at finished
        have none : op.count '?' = 0 := List.count_eq_zero.mpr
          (fun present => found (singleton_infix_iff.mpr present))
        exact ⟨0, by simp, by omega, by simp [none], by omega⟩

end HS2Client.DbApi
