import HS2Client.DbApi.Binding

/-!
# The three positional styles

A statement refers to its parameters by `?`, by `%s` or by `:N`. The last pass replaces the
numbers from the largest to the smallest, so that what is left of `:1` when its turn comes is no
beginning of `:10`.
-/

namespace HS2Client.DbApi

open TextSearch

/-- Text in which no marker of any style can begin. -/
structure MarkerCharFree (text : Text) : Prop where
  qmark : '?' ∉ text
  percent : '%' ∉ text
  colon : ':' ∉ text

/-- Segments with numbered references between them. A number ends where its segment begins: with
no digit, and with the end of the statement if it is empty. -/
structure PositionalTemplate where
  first : Text
  rest : List (Nat × Text)
  clean : ∀ segment ∈ first :: rest.map Prod.snd, MarkerCharFree segment
  stops : ∀ item ∈ rest, ∀ c ∈ item.2.head?, c.isDigit = false
  separated : ∀ item ∈ rest.dropLast, item.2 ≠ []

namespace PositionalTemplate

variable (template : PositionalTemplate)

def segments : List Text := template.rest.map Prod.snd

def numericForm : Text :=
  template.first ++ template.rest.flatMap fun item => numericMarker item.1 ++ item.2

def qmarkForm : Text := template.first ++ template.segments.flatMap fun segment => qmark ++ segment

def formatForm : Text :=
  template.first ++ template.segments.flatMap fun segment => formatMarker ++ segment

/-- `s₀ p_k₁ s₁ … p_kₘ sₘ` -/
def substitute (parameters : List Text) : Text :=
  template.first ++ template.rest.flatMap fun item => parameters.getD (item.1 - 1) [] ++ item.2

end PositionalTemplate

/-! ## Decimal numbers -/

theorem toDigits_injective {j k : Nat} (same : Nat.toDigits 10 j = Nat.toDigits 10 k) : j = k := by
  have parsed := congrArg (fun digits => Nat.ofDigitChars 10 digits 0) same
  simpa only [Nat.ofDigitChars_ten_toDigits] using parsed

theorem length_toDigits_mono {j k : Nat} (le : k ≤ j) :
    (Nat.toDigits 10 k).length ≤ (Nat.toDigits 10 j).length := by
  rw [Nat.length_toDigits_le_iff (by decide) Nat.length_toDigits_pos]
  exact le.trans_lt ((Nat.length_toDigits_le_iff (by decide) Nat.length_toDigits_pos).mp le_rfl)

/-- A number that is not smaller is found in front of a text only in its own place. -/
theorem eq_of_startsWith_toDigits {j k : Nat} (le : k ≤ j) {rest : Text}
    (stops : ∀ c ∈ rest.head?, c.isDigit = false)
    (found : Nat.toDigits 10 j <+: Nat.toDigits 10 k ++ rest) : j = k := by
  obtain ⟨more, split⟩ := List.prefix_of_prefix_length_le (List.prefix_append _ rest) found
    (length_toDigits_mono le)
  cases more with
  | nil => exact toDigits_injective (by simpa using split.symm)
  | cons digit more =>
      rw [← split, List.prefix_append_right_inj] at found
      have digits : digit.isDigit = true := by
        apply Nat.isDigit_of_mem_toDigits (b := 10) (n := j) (by decide) le_rfl
        rw [← split]
        exact List.mem_append_right _ List.mem_cons_self
      cases rest with
      | nil => simp at found
      | cons c rest =>
          obtain ⟨rfl, -⟩ := List.cons_prefix_cons.mp found
          simp [stops digit rfl] at digits

theorem not_startsWith_numericMarker {j k : Nat} (lt : k < j) {rest : Text}
    (stops : ∀ c ∈ rest.head?, c.isDigit = false) :
    ¬ numericMarker j <+: numericMarker k ++ rest := by
  intro found
  have digits := (List.cons_prefix_cons.mp found).2
  exact lt.ne' (eq_of_startsWith_toDigits lt.le stops digits)

theorem not_mem_toDigits {c : Char} (notDigit : c.isDigit = false) (k : Nat) :
    c ∉ Nat.toDigits 10 k := by
  intro member
  rw [Nat.isDigit_of_mem_toDigits (by decide) le_rfl member] at notDigit
  cases notDigit

theorem not_mem_numericMarker {c : Char} (notColon : c ≠ ':') (notDigit : c.isDigit = false)
    (k : Nat) : c ∉ numericMarker k := by
  simp [numericMarker, notColon, not_mem_toDigits notDigit]

/-- Without the first two kinds of marks only the numbers are replaced. -/
theorem replaceNumericMarkers_of_no_marks {op : Text} (noQmark : '?' ∉ op) (noPercent : '%' ∉ op)
    (parameters : List Text) :
    replaceNumericMarkers op parameters =
      .ok (replaceNumbered parameters parameters.length op) := by
  have first := replaceMarkers_of_absent (not_infix_of_head_not_mem noQmark []) parameters
  have second := replaceMarkers_of_absent (not_infix_of_head_not_mem noPercent ['s']) parameters
  rw [replaceNumericMarkers, qmark, first, formatMarker]
  exact congrArg (Except.map (replaceNumbered parameters parameters.length)) second

/-! ## Replacing the numbers -/

section Numbered

variable {parameters : List Text}

/-- A reference after the numbers above `count` have been replaced. -/
def numberedPiece (parameters : List Text) (count k : Nat) : Text :=
  if count < k then parameters.getD (k - 1) [] else numericMarker k

theorem not_mem_getD {c : Char} (clean : ∀ parameter ∈ parameters, c ∉ parameter) (k : Nat) :
    c ∉ parameters.getD k [] := by
  rw [List.getD_eq_getElem?_getD]
  cases found : parameters[k]? with
  | none => simp
  | some parameter => exact clean parameter (List.mem_of_getElem? found)

/-- One number is replaced, and no beginning of another one with it. -/
theorem replaceAll_numberedPiece (clean : ∀ parameter ∈ parameters, ':' ∉ parameter)
    (count k : Nat) {rest : Text} (stops : ∀ c ∈ rest.head?, c.isDigit = false) :
    replaceAll (numericMarker (count + 1)) (parameters.getD count [])
        (numberedPiece parameters (count + 1) k ++ rest) =
      numberedPiece parameters count k ++
        replaceAll (numericMarker (count + 1)) (parameters.getD count []) rest := by
  rcases lt_trichotomy k (count + 1) with smaller | rfl | larger
  · have pieces : ∀ bound ≥ k, numberedPiece parameters bound k = numericMarker k :=
      fun bound le => if_neg (not_lt.mpr le)
    rw [pieces (count + 1) smaller.le, pieces count (Nat.le_of_lt_succ smaller)]
    have mismatch := not_startsWith_numericMarker smaller stops
    rw [numericMarker, numericMarker, List.cons_append] at mismatch ⊢
    rw [replaceAll_cons_of_mismatch mismatch, replaceAll_append (not_mem_toDigits rfl k)]
    rfl
  · rw [numberedPiece, if_neg (lt_irrefl _), numberedPiece, if_pos (Nat.lt_succ_self _)]
    exact replaceAll_marker _ rest
  · rw [numberedPiece, if_pos larger, numberedPiece, if_pos (Nat.lt_of_succ_lt larger)]
    exact replaceAll_append (not_mem_getD clean _) _ rest

theorem head?_append_items {item : Nat × Text} {items : List (Nat × Text)} (later : Text)
    (stops : ∀ c ∈ item.2.head?, c.isDigit = false)
    (separated : ∀ other ∈ (item :: items).dropLast, other.2 ≠ [])
    (atEnd : items = [] → later = []) :
    ∀ c ∈ (item.2 ++ later).head?, c.isDigit = false := by
  cases segment : item.2 with
  | nil =>
      cases items with
      | nil => simp [atEnd rfl]
      | cons next items => exact absurd segment (separated item (by simp))
  | cons d segment' =>
      intro c head
      apply stops c
      rw [segment]
      exact head

/-- One round of the loop, on the whole statement. -/
theorem replaceAll_items (clean : ∀ parameter ∈ parameters, ':' ∉ parameter) (count : Nat)
    {items : List (Nat × Text)} (cleanSegments : ∀ item ∈ items, ':' ∉ item.2)
    (stops : ∀ item ∈ items, ∀ c ∈ item.2.head?, c.isDigit = false)
    (separated : ∀ item ∈ items.dropLast, item.2 ≠ []) :
    replaceAll (numericMarker (count + 1)) (parameters.getD count [])
        (items.flatMap fun item => numberedPiece parameters (count + 1) item.1 ++ item.2) =
      items.flatMap fun item => numberedPiece parameters count item.1 ++ item.2 := by
  induction items with
  | nil => rfl
  | cons item items ih =>
      obtain ⟨cleanSegment, laterClean⟩ := List.forall_mem_cons.mp cleanSegments
      obtain ⟨stop, laterStops⟩ := List.forall_mem_cons.mp stops
      have boundary := head?_append_items
        (items.flatMap fun item => numberedPiece parameters (count + 1) item.1 ++ item.2)
        stop separated (by rintro rfl; rfl)
      have laterSeparated : ∀ other ∈ items.dropLast, other.2 ≠ [] := by
        intro other member
        apply separated other
        cases items with
        | nil => simp at member
        | cons next items => exact List.mem_cons_of_mem _ member
      rw [List.flatMap_cons, List.append_assoc, replaceAll_numberedPiece clean count _ boundary,
        List.flatMap_cons, List.append_assoc]
      congr 1
      exact (replaceAll_append cleanSegment _ _).trans
        (congrArg _ (ih laterClean laterStops laterSeparated))

end Numbered

namespace PositionalTemplate

variable {template : PositionalTemplate} {parameters : List Text}

/-- The statement after the numbers above `count` have been replaced. -/
def partlyReplaced (template : PositionalTemplate) (parameters : List Text) (count : Nat) : Text :=
  template.first ++
    template.rest.flatMap fun item => numberedPiece parameters count item.1 ++ item.2

theorem clean_segment (template : PositionalTemplate) {item : Nat × Text}
    (member : item ∈ template.rest) : MarkerCharFree item.2 :=
  template.clean item.2 (List.mem_cons_of_mem _ (List.mem_map_of_mem member))

theorem replaceNumbered_partlyReplaced (clean : ∀ parameter ∈ parameters, ':' ∉ parameter)
    (count : Nat) :
    replaceNumbered parameters count (template.partlyReplaced parameters count) =
      template.partlyReplaced parameters 0 := by
  induction count with
  | zero => rfl
  | succ count ih =>
      have round : replaceAll (numericMarker (count + 1)) (parameters.getD count [])
          (template.partlyReplaced parameters (count + 1)) =
            template.partlyReplaced parameters count := by
        have first := (template.clean template.first List.mem_cons_self).colon
        apply (replaceAll_append first _ _).trans
        exact congrArg (template.first ++ ·) (replaceAll_items clean count
          (fun item member => (template.clean_segment member).colon) template.stops
          template.separated)
      rw [replaceNumbered, round, ih]

/-- The references are numbers of parameters. -/
def RefersTo (template : PositionalTemplate) (parameters : List Text) : Prop :=
  ∀ item ∈ template.rest, 1 ≤ item.1 ∧ item.1 ≤ parameters.length

theorem partlyReplaced_length (refers : template.RefersTo parameters) :
    template.partlyReplaced parameters parameters.length = template.numericForm := by
  refine congrArg (template.first ++ ·) (List.flatMap_congr fun item member => ?_)
  rw [numberedPiece, if_neg (not_lt.mpr (refers item member).2)]

theorem partlyReplaced_zero (refers : template.RefersTo parameters) :
    template.partlyReplaced parameters 0 = template.substitute parameters := by
  refine congrArg (template.first ++ ·) (List.flatMap_congr fun item member => ?_)
  have positive : 0 < item.1 := (refers item member).1
  rw [numberedPiece, if_pos positive]

/-- A character that is in no segment and in no reference is not in the statement. -/
theorem not_mem_form {c : Char} {reference : Nat × Text → Text}
    (first : c ∉ template.first) (references : ∀ item ∈ template.rest, c ∉ reference item)
    (segments : ∀ item ∈ template.rest, c ∉ item.2) :
    c ∉ template.first ++ template.rest.flatMap fun item => reference item ++ item.2 := by
  intro member
  rcases List.mem_append.mp member with inFirst | later
  · exact first inFirst
  · obtain ⟨item, present, occurs⟩ := List.mem_flatMap.mp later
    rcases List.mem_append.mp occurs with inReference | inSegment
    · exact references item present inReference
    · exact segments item present inSegment

theorem not_mem_substitute {c : Char} (first : c ∉ template.first)
    (segments : ∀ item ∈ template.rest, c ∉ item.2)
    (values : ∀ parameter ∈ parameters, c ∉ parameter) : c ∉ template.substitute parameters :=
  not_mem_form first (fun _ _ => not_mem_getD values _) segments

/-- The numeric style is substitution, whatever the number of digits. -/
theorem replaceNumericMarkers_numericForm
    (clean : ∀ parameter ∈ parameters, MarkerCharFree parameter)
    (refers : template.RefersTo parameters) :
    replaceNumericMarkers template.numericForm parameters =
      .ok (template.substitute parameters) := by
  have first := template.clean template.first List.mem_cons_self
  have noQmark : '?' ∉ template.numericForm :=
    not_mem_form first.qmark (fun item _ => not_mem_numericMarker (by decide) rfl item.1)
      fun item member => (template.clean_segment member).qmark
  have noPercent : '%' ∉ template.numericForm :=
    not_mem_form first.percent (fun item _ => not_mem_numericMarker (by decide) rfl item.1)
      fun item member => (template.clean_segment member).percent
  rw [replaceNumericMarkers_of_no_marks noQmark noPercent, ← partlyReplaced_length refers,
    replaceNumbered_partlyReplaced fun parameter member => (clean parameter member).colon,
    partlyReplaced_zero refers]

/-! ## The other two styles -/

/-- The references are all the parameters, in order. -/
def Ordered (template : PositionalTemplate) : Prop :=
  template.rest.map Prod.fst = List.range' 1 template.rest.length

theorem substitute_of_ordered (ordered : template.Ordered)
    (lengths : parameters.length = template.rest.length) :
    template.substitute parameters =
      template.first ++ (List.zipWith (· ++ ·) parameters template.segments).flatten := by
  refine congrArg (template.first ++ ·) ?_
  rw [List.flatMap_def]
  refine congrArg List.flatten (List.ext_getElem (by simp [segments, lengths]) ?_)
  intro i inRest inValues
  have inItems : i < template.rest.length := by simpa using inRest
  have number : template.rest[i].1 = i + 1 := by
    have nth := congrArg (fun numbers => numbers[i]?) ordered
    simpa [List.getElem?_range', inItems, Nat.add_comm 1] using nth
  have inParameters : i < parameters.length := lengths ▸ inItems
  simp [segments, number, inParameters]

theorem refersTo_of_ordered (ordered : template.Ordered)
    (lengths : parameters.length = template.rest.length) : template.RefersTo parameters := by
  intro item member
  have listed : item.1 ∈ template.rest.map Prod.fst := List.mem_map_of_mem member
  rw [ordered, List.mem_range'_1] at listed
  omega

/-- A style that marks the places of the parameters in order fails exactly on a wrong number of
parameters, and otherwise substitutes. -/
def BindsInOrder (template : PositionalTemplate) (form : Text) (parameters : List Text) : Prop :=
  ((∃ message, replaceNumericMarkers form parameters = .error (.programmingError message)) ↔
    parameters.length ≠ template.rest.length) ∧
  (parameters.length = template.rest.length →
    replaceNumericMarkers form parameters =
      replaceNumericMarkers template.numericForm parameters)

theorem bindsInOrder_of_cases {form : Text}
    (clean : ∀ parameter ∈ parameters, MarkerCharFree parameter) (ordered : template.Ordered)
    (mismatch : parameters.length ≠ template.rest.length →
      ∃ message, replaceNumericMarkers form parameters = .error (.programmingError message))
    (complete : parameters.length = template.rest.length →
      replaceNumericMarkers form parameters = .ok (template.substitute parameters)) :
    template.BindsInOrder form parameters := by
  refine ⟨⟨?_, mismatch⟩, ?_⟩
  · rintro ⟨message, raised⟩ lengths
    rw [complete lengths] at raised
    cases raised
  · intro lengths
    rw [complete lengths,
      replaceNumericMarkers_numericForm clean (refersTo_of_ordered ordered lengths)]

section Marks

variable {head : Char} (tail : Text) (clean : ∀ parameter ∈ parameters, head ∉ parameter)
  (first : head ∉ template.first) (segments : ∀ segment ∈ template.segments, head ∉ segment)

include clean first segments

theorem replaceMarkers_form_mismatch (marked : template.rest ≠ [])
    (lengths : parameters.length ≠ template.rest.length) :
    ∃ message, replaceMarkers (head :: tail)
        (template.first ++ template.segments.flatMap fun segment => head :: (tail ++ segment))
        parameters = .error (.programmingError message) := by
  apply replaceMarkers_mismatch tail _ _ first segments
  · intro member
    obtain ⟨parameter, present, occurs⟩ := List.mem_flatten.mp member
    exact clean parameter present occurs
  · simpa [PositionalTemplate.segments] using marked
  · simpa [PositionalTemplate.segments] using lengths

theorem replaceMarkers_form (ordered : template.Ordered)
    (lengths : parameters.length = template.rest.length) :
    replaceMarkers (head :: tail)
        (template.first ++ template.segments.flatMap fun segment => head :: (tail ++ segment))
        parameters = .ok (template.substitute parameters) := by
  rw [substitute_of_ordered ordered lengths]
  apply replaceMarkers_clean tail _ first segments
  · intro member
    obtain ⟨parameter, present, occurs⟩ := List.mem_flatten.mp member
    exact clean parameter present occurs
  · simpa [PositionalTemplate.segments] using lengths

end Marks

section Styles

variable (clean : ∀ parameter ∈ parameters, MarkerCharFree parameter)

include clean

/-- Nothing is left to replace after the values have been put in. -/
theorem passes_substitute (template : PositionalTemplate) :
    replaceMarkers formatMarker (template.substitute parameters) parameters =
        .ok (template.substitute parameters) ∧
      replaceNumbered parameters parameters.length (template.substitute parameters) =
        template.substitute parameters := by
  have first := template.clean template.first List.mem_cons_self
  have noPercent : '%' ∉ template.substitute parameters :=
    not_mem_substitute first.percent (fun item member => (template.clean_segment member).percent)
      fun parameter member => (clean parameter member).percent
  have noColon : ':' ∉ template.substitute parameters :=
    not_mem_substitute first.colon (fun item member => (template.clean_segment member).colon)
      fun parameter member => (clean parameter member).colon
  exact ⟨replaceMarkers_of_absent (not_infix_of_head_not_mem noPercent _) parameters,
    replaceNumbered_of_absent _ _ _ fun index _ _ => not_infix_of_head_not_mem noColon _⟩

theorem bindsInOrder_qmarkForm (ordered : template.Ordered) (marked : template.rest ≠ []) :
    template.BindsInOrder template.qmarkForm parameters := by
  have values : ∀ parameter ∈ parameters, '?' ∉ parameter := fun parameter member =>
    (clean parameter member).qmark
  have first := (template.clean template.first List.mem_cons_self).qmark
  have segments : ∀ segment ∈ template.segments, '?' ∉ segment := fun segment member =>
    (template.clean segment (List.mem_cons_of_mem _ member)).qmark
  apply bindsInOrder_of_cases clean ordered
  · intro lengths
    obtain ⟨message, raised⟩ := replaceMarkers_form_mismatch [] values first segments marked lengths
    change replaceMarkers qmark template.qmarkForm parameters = _ at raised
    exact ⟨message, by simp [replaceNumericMarkers, raised, bind, Except.bind]⟩
  · intro lengths
    have replaced := replaceMarkers_form [] values first segments ordered lengths
    change replaceMarkers qmark template.qmarkForm parameters = _ at replaced
    obtain ⟨second, third⟩ := passes_substitute clean template
    simp [replaceNumericMarkers, replaced, second, third, bind, Except.bind, pure, Except.pure]

theorem bindsInOrder_formatForm (ordered : template.Ordered) (marked : template.rest ≠ []) :
    template.BindsInOrder template.formatForm parameters := by
  have values : ∀ parameter ∈ parameters, '%' ∉ parameter := fun parameter member =>
    (clean parameter member).percent
  have first := template.clean template.first List.mem_cons_self
  have segments : ∀ segment ∈ template.segments, '%' ∉ segment := fun segment member =>
    (template.clean segment (List.mem_cons_of_mem _ member)).percent
  have noQmark : '?' ∉ template.formatForm := by
    rw [formatForm, PositionalTemplate.segments, List.flatMap_map]
    exact not_mem_form first.qmark (fun _ _ => by decide) fun item member =>
      (template.clean_segment member).qmark
  have untouched : replaceMarkers qmark template.formatForm parameters = .ok template.formatForm :=
    replaceMarkers_of_absent (not_infix_of_head_not_mem noQmark []) parameters
  apply bindsInOrder_of_cases clean ordered
  · intro lengths
    obtain ⟨message, raised⟩ :=
      replaceMarkers_form_mismatch ['s'] values first.percent segments marked lengths
    change replaceMarkers formatMarker template.formatForm parameters = _ at raised
    exact ⟨message, by simp [replaceNumericMarkers, untouched, raised, bind, Except.bind]⟩
  · intro lengths
    have replaced := replaceMarkers_form ['s'] values first.percent segments ordered lengths
    change replaceMarkers formatMarker template.formatForm parameters = _ at replaced
    obtain ⟨-, third⟩ := passes_substitute clean template
    simp [replaceNumericMarkers, untouched, replaced, third, bind, Except.bind, pure, Except.pure]

/-- All positional styles are substitution, whatever the number of parameters; the two styles
without numbers also notice a wrong number of them. -/
theorem positional_styles_agree (template : PositionalTemplate) :
    (template.RefersTo parameters →
      replaceNumericMarkers template.numericForm parameters =
        .ok (template.substitute parameters)) ∧
    (template.Ordered → template.rest ≠ [] →
      template.BindsInOrder template.qmarkForm parameters ∧
        template.BindsInOrder template.formatForm parameters) := by
  refine ⟨replaceNumericMarkers_numericForm clean, fun ordered marked => ⟨?_, ?_⟩⟩
  · exact bindsInOrder_qmarkForm clean ordered marked
  · exact bindsInOrder_formatForm clean ordered marked

end Styles

instance (text : Text) : Decidable (MarkerCharFree text) :=
  decidable_of_iff ('?' ∉ text ∧ '%' ∉ text ∧ ':' ∉ text)
    ⟨fun free => ⟨free.1, free.2.1, free.2.2⟩, fun free => ⟨free.1, free.2, free.3⟩⟩

instance (template : PositionalTemplate) (parameters : List Text) :
    Decidable (template.RefersTo parameters) :=
  inferInstanceAs (Decidable (∀ item ∈ template.rest, _ ∧ _))

/-- `a:10 b:1` -/
def tenAndOne : PositionalTemplate where
  first := "a".toList
  rest := [(10, " b".toList), (1, [])]
  clean := by decide
  stops := by simp
  separated := by decide

/-- `a:1 b:2` -/
def oneAndTwo : PositionalTemplate where
  first := "a".toList
  rest := [(1, " b".toList), (2, [])]
  clean := by decide
  stops := by simp
  separated := by decide

theorem positional_styles_agree_examples :
    replaceNumericMarkers "a:10 b:1".toList (List.replicate 9 "x".toList ++ ["y0".toList]) =
        .ok "ay0 bx".toList ∧
      oneAndTwo.BindsInOrder "a? b?".toList ["x".toList, "y".toList] ∧
      oneAndTwo.BindsInOrder "a%s b%s".toList ["x".toList] := by
  refine ⟨?_, ?_, ?_⟩
  · exact (positional_styles_agree (by decide) tenAndOne).1 (by decide)
  · exact ((positional_styles_agree (by decide) oneAndTwo).2 rfl (by decide)).1
  · exact ((positional_styles_agree (by decide) oneAndTwo).2 rfl (by decide)).2

end PositionalTemplate

end HS2Client.DbApi
