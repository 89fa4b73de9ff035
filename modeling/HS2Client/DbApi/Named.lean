import HS2Client.DbApi.Binding
import Mathlib.Data.List.Find

/-!
# Named binding as simultaneous substitution

`_bind_parameters_dict` rewrites every `:name` to `%(name)s` with a regular expression and then
formats the text with the dictionary of rendered values. Both scan the text once, from left to
right; a counter skips the characters of a match.
-/

namespace HS2Client.DbApi

/-- What `re` and `%` bring along. -/
structure PyText where
  /-- `\w` -/
  isWord : Char → Bool
  /-- `\d` -/
  isDigit : Char → Bool
  notWord : ∀ c ∈ [':', '%', '(', ')'], isWord c = false
  /-- Any conversion but `%(key)s` and `%%`: from the dictionary and the text after the percent
  sign, the characters to insert and how many to skip, or the message of an exception. -/
  otherConversion : List (Text × Text) → Text → Except Text (Text × Nat)

inductive DictError where
  | keyError (key : Text)
  | formatError (message : Text)
  deriving DecidableEq

/-! ## The two scanners -/

/-- `%(name)s` -/
def pyformat (name : Text) : Text := '%' :: '(' :: (name ++ [')', 's'])

namespace PyText

variable (py : PyText)

/-- `[^\d\W]` -/
def startsName (c : Char) : Bool := py.isWord c && !py.isDigit c

/-- What `[^\d\W]\w*` matches at the start of a text; nothing if it does not match. -/
def nameAt : Text → Text
  | [] => []
  | c :: rest => if py.startsName c then c :: rest.takeWhile py.isWord else []

/-- `re.sub(":([^\d\W]\w*)", "%(\g<1>)s", text)` -/
def subNamed : Nat → Text → Text
  | _, [] => []
  | skip + 1, _ :: rest => subNamed skip rest
  | 0, c :: rest =>
      if c = ':' ∧ py.nameAt rest ≠ [] then
        pyformat (py.nameAt rest) ++ subNamed (py.nameAt rest).length rest
      else c :: subNamed 0 rest

/-- A key up to the parenthesis that closes it, and what follows. -/
def keyUntil : Nat → Text → Option (Text × Text)
  | _, [] => none
  | depth, c :: rest =>
      if c = ')' then
        match depth with
        | 0 => some ([], rest)
        | depth + 1 => (keyUntil depth rest).map fun (key, rest) => (c :: key, rest)
      else if c = '(' then (keyUntil (depth + 1) rest).map fun (key, rest) => (c :: key, rest)
      else (keyUntil depth rest).map fun (key, rest) => (c :: key, rest)

/-- The key of a conversion `%(key)s`, from the text after the percent sign. -/
def stringKey? : Text → Option Text
  | '(' :: rest =>
      match keyUntil 0 rest with
      | some (key, 's' :: _) => some key
      | _ => none
  | _ => none

/-- `text % dict` -/
def formatDict (dict : List (Text × Text)) : Nat → Text → Except DictError Text
  | _, [] => .ok []
  | skip + 1, _ :: rest => formatDict dict skip rest
  | 0, c :: rest =>
      if c = '%' then
        match stringKey? rest with
        | some key =>
            match dict.lookup key with
            | none => .error (.keyError key)
            | some value => (formatDict dict (key.length + 3) rest).map (value ++ ·)
        | none =>
            if rest.head? = some '%' then (formatDict dict 1 rest).map ('%' :: ·)
            else
              match py.otherConversion dict rest with
              | .error message => .error (.formatError message)
              | .ok (text, skip) => (formatDict dict skip rest).map (text ++ ·)
      else (formatDict dict 0 rest).map (c :: ·)

end PyText

def bindParametersDict (py : PyText) (operation : Text) (parameters : List (Text × Value)) :
    Except DictError Text :=
  let stringParameters := parameters.map fun (name, value) => (name, stringParameter value)
  let operation := py.subNamed 0 operation
  py.formatDict stringParameters 0 operation

/-! ## Templates -/

inductive ReferenceStyle where
  | named
  | pyformat
  deriving DecidableEq

/-- A name as the regular expression has it: a word character that is no digit, and word
characters. -/
def PyText.IsName (py : PyText) (name : Text) : Prop :=
  ∃ c rest, name = c :: rest ∧ py.startsName c = true ∧ ∀ d ∈ rest, py.isWord d = true

structure Reference where
  style : ReferenceStyle
  name : Text
  deriving DecidableEq

def Reference.text : Reference → Text
  | ⟨.named, name⟩ => ':' :: name
  | ⟨.pyformat, name⟩ => DbApi.pyformat name

/-- Segments without `:` and `%`, with references between them; a word character may not follow
`:name`. -/
structure NamedTemplate (py : PyText) where
  first : Text
  rest : List (Reference × Text)
  names : ∀ item ∈ rest, py.IsName item.1.name
  clean : ∀ segment ∈ first :: rest.map Prod.snd, ':' ∉ segment ∧ '%' ∉ segment
  stops : ∀ item ∈ rest, item.1.style = .named → ∀ c ∈ item.2.head?, py.isWord c = false

namespace NamedTemplate

variable {py : PyText} (template : NamedTemplate py)

def statement : Text :=
  template.first ++ template.rest.flatMap fun item => item.1.text ++ item.2

def references : List Text := template.rest.map fun item => item.1.name

/-- The segments with the values of a function on names between them. -/
def substitute (value : Text → Text) : Text :=
  template.first ++ template.rest.flatMap fun item => value item.1.name ++ item.2

end NamedTemplate

namespace PyText

variable {py : PyText}

theorem isWord_of_mem_name {name : Text} (valid : py.IsName name) {c : Char} (member : c ∈ name) :
    py.isWord c = true := by
  obtain ⟨first, rest, rfl, starts, words⟩ := valid
  rcases List.mem_cons.mp member with rfl | later
  · simp only [startsName, Bool.and_eq_true] at starts
    exact starts.1
  · exact words c later

theorem not_mem_name {name : Text} (valid : py.IsName name) {c : Char}
    (punctuation : c ∈ [':', '%', '(', ')']) : c ∉ name := by
  intro member
  have word := isWord_of_mem_name valid member
  rw [py.notWord c punctuation] at word
  cases word

/-! ### The regular expression -/

theorem subNamed_skip (skipped rest : Text) :
    py.subNamed skipped.length (skipped ++ rest) = py.subNamed 0 rest := by
  induction skipped with
  | nil => rfl
  | cons c skipped ih => exact ih

theorem subNamed_literal {segment : Text} (clean : ':' ∉ segment) (rest : Text) :
    py.subNamed 0 (segment ++ rest) = segment ++ py.subNamed 0 rest := by
  induction segment with
  | nil => rfl
  | cons c segment ih =>
      have different : c ≠ ':' := fun same => clean (by simp [same])
      have cleanRest : ':' ∉ segment := fun later => clean (by simp [later])
      simp [subNamed, different, ih cleanRest]

/-- The name is taken up to the first character that is no word character. -/
theorem nameAt_append {name rest : Text} (valid : py.IsName name)
    (stops : ∀ c ∈ rest.head?, py.isWord c = false) : py.nameAt (name ++ rest) = name := by
  obtain ⟨first, others, rfl, starts, words⟩ := valid
  have stopped : rest.takeWhile py.isWord = [] := by
    cases rest with
    | nil => rfl
    | cons c rest => simp [stops c rfl]
  rw [List.cons_append, nameAt, if_pos starts, List.takeWhile_append_of_pos words, stopped,
    List.append_nil]

theorem subNamed_named {name rest : Text} (valid : py.IsName name)
    (stops : ∀ c ∈ rest.head?, py.isWord c = false) :
    py.subNamed 0 (':' :: (name ++ rest)) = pyformat name ++ py.subNamed 0 rest := by
  have nonempty : name ≠ [] := by
    obtain ⟨first, others, rfl, -⟩ := valid
    exact List.cons_ne_nil _ _
  rw [subNamed, nameAt_append valid stops, if_pos ⟨rfl, nonempty⟩, subNamed_skip]

theorem colon_not_mem_pyformat {name : Text} (valid : py.IsName name) : ':' ∉ pyformat name := by
  have absent := not_mem_name valid (c := ':') (by simp)
  simp [pyformat, absent]

theorem subNamed_reference {reference : Reference} {rest : Text} (valid : py.IsName reference.name)
    (stops : reference.style = .named → ∀ c ∈ rest.head?, py.isWord c = false) :
    py.subNamed 0 (reference.text ++ rest) = pyformat reference.name ++ py.subNamed 0 rest := by
  obtain ⟨style, name⟩ := reference
  cases style with
  | named => exact subNamed_named valid (stops rfl)
  | pyformat => exact subNamed_literal (colon_not_mem_pyformat valid) rest

theorem head?_references (items : List (Reference × Text)) :
    ∀ c ∈ (items.flatMap fun item => item.1.text ++ item.2).head?, py.isWord c = false := by
  cases items with
  | nil => nofun
  | cons item items =>
      obtain ⟨⟨style, name⟩, segment⟩ := item
      intro c head
      apply py.notWord c
      cases style with
      | named =>
          cases head
          simp
      | pyformat =>
          cases head
          simp

/-- The regular expression turns every reference into the other notation. -/
theorem subNamed_items {items : List (Reference × Text)}
    (names : ∀ item ∈ items, py.IsName item.1.name)
    (clean : ∀ item ∈ items, ':' ∉ item.2)
    (stops : ∀ item ∈ items, item.1.style = .named → ∀ c ∈ item.2.head?, py.isWord c = false) :
    py.subNamed 0 (items.flatMap fun item => item.1.text ++ item.2) =
      items.flatMap fun item => pyformat item.1.name ++ item.2 := by
  induction items with
  | nil => rfl
  | cons item items ih =>
      obtain ⟨valid, laterNames⟩ := List.forall_mem_cons.mp names
      obtain ⟨cleanSegment, laterClean⟩ := List.forall_mem_cons.mp clean
      obtain ⟨stop, laterStops⟩ := List.forall_mem_cons.mp stops
      have boundary : item.1.style = .named →
          ∀ c ∈ (item.2 ++ items.flatMap fun item => item.1.text ++ item.2).head?,
            py.isWord c = false := by
        intro style
        cases segment : item.2 with
        | nil => exact head?_references items
        | cons c rest =>
            intro d head
            apply stop style d
            rw [segment]
            exact head
      rw [List.flatMap_cons, List.append_assoc, subNamed_reference valid boundary,
        subNamed_literal cleanSegment, ih laterNames laterClean laterStops, List.flatMap_cons,
        List.append_assoc]

/-! ### Formatting -/

variable (dict : List (Text × Text))

theorem formatDict_skip (skipped rest : Text) :
    py.formatDict dict skipped.length (skipped ++ rest) = py.formatDict dict 0 rest := by
  induction skipped with
  | nil => rfl
  | cons c skipped ih => exact ih

theorem formatDict_literal {segment : Text} (clean : '%' ∉ segment) (rest : Text) :
    py.formatDict dict 0 (segment ++ rest) = (py.formatDict dict 0 rest).map (segment ++ ·) := by
  induction segment with
  | nil => cases formatted : py.formatDict dict 0 rest <;> simp [formatted, Except.map]
  | cons c segment ih =>
      have different : c ≠ '%' := fun same => clean (by simp [same])
      have cleanRest : '%' ∉ segment := fun later => clean (by simp [later])
      rw [List.cons_append, formatDict, if_neg different, ih cleanRest]
      cases py.formatDict dict 0 rest <;> rfl

theorem keyUntil_append {key : Text} (opens : '(' ∉ key) (closes : ')' ∉ key) (rest : Text) :
    keyUntil 0 (key ++ ')' :: rest) = some (key, rest) := by
  induction key with
  | nil => rfl
  | cons c key ih =>
      have notOpen : c ≠ '(' := fun same => opens (by simp [same])
      have notClose : c ≠ ')' := fun same => closes (by simp [same])
      have later := ih (fun found => opens (by simp [found])) (fun found => closes (by simp [found]))
      simp [keyUntil, notOpen, notClose, later]

theorem formatDict_pyformat {name : Text} (valid : py.IsName name) (rest : Text) :
    py.formatDict dict 0 (pyformat name ++ rest) =
      match dict.lookup name with
      | none => .error (.keyError name)
      | some value => (py.formatDict dict 0 rest).map (value ++ ·) := by
  have key : stringKey? ('(' :: (name ++ ')' :: 's' :: rest)) = some name := by
    have closed := keyUntil_append (not_mem_name valid (c := '(') (by simp))
      (not_mem_name valid (c := ')') (by simp)) ('s' :: rest)
    simp [stringKey?, closed]
  have skipped : py.formatDict dict ('(' :: (name ++ [')', 's'])).length
      ('(' :: (name ++ [')', 's']) ++ rest) = py.formatDict dict 0 rest :=
    formatDict_skip dict _ rest
  simp only [List.length_cons, List.length_append, List.length_nil, List.cons_append,
    List.append_assoc, List.nil_append] at skipped
  simp only [pyformat, List.cons_append, List.append_assoc, List.nil_append, formatDict, if_true,
    key]
  cases dict.lookup name with
  | none => rfl
  | some value => exact congrArg (Except.map _) skipped

/-- The first reference without a value is reported; otherwise all values are put in at once. -/
theorem formatDict_items {items : List (Reference × Text)}
    (names : ∀ item ∈ items, py.IsName item.1.name) (clean : ∀ item ∈ items, '%' ∉ item.2) :
    py.formatDict dict 0 (items.flatMap fun item => pyformat item.1.name ++ item.2) =
      match items.find? fun item => (dict.lookup item.1.name).isNone with
      | some item => .error (.keyError item.1.name)
      | none => .ok (items.flatMap fun item => (dict.lookup item.1.name).getD [] ++ item.2) := by
  induction items with
  | nil => rfl
  | cons item items ih =>
      obtain ⟨valid, laterNames⟩ := List.forall_mem_cons.mp names
      obtain ⟨cleanSegment, laterClean⟩ := List.forall_mem_cons.mp clean
      rw [List.flatMap_cons, List.append_assoc, formatDict_pyformat dict valid,
        formatDict_literal dict cleanSegment, ih laterNames laterClean]
      cases found : dict.lookup item.1.name with
      | none => simp [found]
      | some value =>
          rw [List.find?_cons_of_neg (by simp [found])]
          cases items.find? fun item => (dict.lookup item.1.name).isNone with
          | none => simp [Except.map, found]
          | some missing => rfl

end PyText

/-! ## Binding a template -/

namespace NamedTemplate

variable {py : PyText} (template : NamedTemplate py)

/-- The rendered value under a name, if there is one. -/
def rendered? (parameters : List (Text × Value)) (name : Text) : Option Text :=
  (parameters.lookup name).map stringParameter

theorem lookup_stringParameters (parameters : List (Text × Value)) (name : Text) :
    (parameters.map fun (name, value) => (name, stringParameter value)).lookup name =
      rendered? parameters name := by
  induction parameters with
  | nil => rfl
  | cons parameter parameters ih =>
      obtain ⟨key, value⟩ := parameter
      simp only [List.map_cons, List.lookup_cons, ih, rendered?]
      cases name == key <;> rfl

/-- Binding reports the first reference without a value, and otherwise substitutes. -/
theorem bindParametersDict_eq (parameters : List (Text × Value)) :
    bindParametersDict py template.statement parameters =
      match template.references.find? fun name => (rendered? parameters name).isNone with
      | some name => .error (.keyError name)
      | none => .ok (template.substitute fun name => (rendered? parameters name).getD []) := by
  have clean : ∀ item ∈ template.rest, ':' ∉ item.2 ∧ '%' ∉ item.2 := fun item member =>
    template.clean item.2 (List.mem_cons_of_mem _ (List.mem_map_of_mem member))
  have first := template.clean template.first List.mem_cons_self
  rw [bindParametersDict, statement, PyText.subNamed_literal first.1,
    PyText.subNamed_items template.names (fun item member => (clean item member).1) template.stops,
    PyText.formatDict_literal _ first.2,
    PyText.formatDict_items _ template.names fun item member => (clean item member).2]
  simp only [lookup_stringParameters, references, List.find?_map]
  cases found : template.rest.find? fun item => (rendered? parameters item.1.name).isNone with
  | none => simp [found, substitute, Except.map]
  | some item => simp [found, Except.map]

theorem rendered?_eq_none_iff (parameters : List (Text × Value)) (name : Text) :
    (rendered? parameters name).isNone = true ↔ name ∉ parameters.map Prod.fst := by
  rw [rendered?, Option.isNone_iff_eq_none, Option.map_eq_none_iff, List.lookup_eq_none_iff]
  simp only [bne_iff_ne, List.mem_map, not_exists, not_and]
  exact forall₂_congr fun item _ => ne_comm

theorem bindParametersDict_of_keys {parameters : List (Text × Value)}
    (keys : ∀ name ∈ template.references, name ∈ parameters.map Prod.fst) :
    bindParametersDict py template.statement parameters =
      .ok (template.substitute fun name => (rendered? parameters name).getD []) := by
  have found : (template.references.find? fun name => (rendered? parameters name).isNone) =
      none := by
    rw [List.find?_eq_none]
    intro name member missing
    exact (rendered?_eq_none_iff parameters name).mp missing (keys name member)
  rw [bindParametersDict_eq, found]

theorem bindParametersDict_of_missing {parameters : List (Text × Value)} {name : Text}
    (member : name ∈ template.references) (missing : name ∉ parameters.map Prod.fst) :
    ∃ key, bindParametersDict py template.statement parameters = .error (.keyError key) := by
  rw [bindParametersDict_eq]
  cases found : template.references.find? fun name => (rendered? parameters name).isNone with
  | some key => exact ⟨key, rfl⟩
  | none =>
      have present := List.find?_eq_none.mp found name member
      exact absurd ((rendered?_eq_none_iff parameters name).mpr missing) present

/-- Only the values under the names of the template count. -/
theorem bindParametersDict_congr {parameters others : List (Text × Value)}
    (agree : ∀ name ∈ template.references, others.lookup name = parameters.lookup name) :
    bindParametersDict py template.statement others =
      bindParametersDict py template.statement parameters := by
  have same : ∀ name ∈ template.references, rendered? others name = rendered? parameters name :=
    fun name member => congrArg (Option.map stringParameter) (agree name member)
  have found : (template.references.find? fun name => (rendered? others name).isNone) =
      template.references.find? fun name => (rendered? parameters name).isNone :=
    List.find?_congr fun name member => by rw [same name member]
  have substituted : (template.substitute fun name => (rendered? others name).getD []) =
      template.substitute fun name => (rendered? parameters name).getD [] := by
    refine congrArg (template.first ++ ·) (List.flatMap_congr fun item member => ?_)
    dsimp only
    rw [same item.1.name (List.mem_map_of_mem member)]
  rw [bindParametersDict_eq, bindParametersDict_eq, found, substituted]

/-- The notation of the references does not count. -/
theorem bindParametersDict_restyle {other : NamedTemplate py} (first : other.first = template.first)
    (rest : other.rest.map (fun item => (item.1.name, item.2)) =
      template.rest.map fun item => (item.1.name, item.2)) (parameters : List (Text × Value)) :
    bindParametersDict py other.statement parameters =
      bindParametersDict py template.statement parameters := by
  have references : other.references = template.references := by
    simpa [NamedTemplate.references, Function.comp_def] using congrArg (List.map Prod.fst) rest
  have substituted : ∀ value, other.substitute value = template.substitute value := by
    intro value
    have joined := congrArg (List.flatMap fun item : Text × Text => value item.1 ++ item.2) rest
    simp only [List.flatMap_map] at joined
    rw [substitute, substitute, first, joined]
  rw [bindParametersDict_eq, bindParametersDict_eq, references, substituted]

end NamedTemplate

/-- The classes of `re` on ASCII texts. -/
def asciiText : PyText where
  isWord c := c.isAlphanum || c = '_'
  isDigit := Char.isDigit
  notWord := by simp
  otherConversion _ _ := .error "unsupported format character".toList

/-- `:b=:a, %(a)s, :n` -/
def namedTwice : NamedTemplate asciiText where
  first := []
  rest := [(⟨.named, "b".toList⟩, "=".toList), (⟨.named, "a".toList⟩, ", ".toList),
    (⟨.pyformat, "a".toList⟩, ", ".toList), (⟨.named, "n".toList⟩, [])]
  names := by
    intro item member
    simp only [List.mem_cons, List.not_mem_nil, or_false] at member
    rcases member with rfl | rfl | rfl | rfl
    · exact ⟨'b', [], rfl, rfl, by simp⟩
    · exact ⟨'a', [], rfl, rfl, by simp⟩
    · exact ⟨'a', [], rfl, rfl, by simp⟩
    · exact ⟨'n', [], rfl, rfl, by simp⟩
  clean := by
    intro segment member
    simp only [List.map_cons, List.map_nil, List.mem_cons, List.not_mem_nil, or_false] at member
    rcases member with rfl | rfl | rfl | rfl | rfl <;> decide
  stops := by
    intro item member named c following
    simp only [List.mem_cons, List.not_mem_nil, or_false] at member
    rcases member with rfl | rfl | rfl | rfl
    · obtain rfl : '=' = c := Option.some.inj following
      rfl
    · obtain rfl : ',' = c := Option.some.inj following
      rfl
    · cases named
    · cases following

end HS2Client.DbApi
