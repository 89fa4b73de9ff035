import Mathlib.Data.List.Basic

/-!
# Quoting texts with an escape symbol

A scheme says which symbols are written as an escape symbol and a letter, and what a letter
after the escape symbol means. A reader takes such pairs together and stops at the first
delimiter outside them. Texts are lists over an arbitrary alphabet.
-/

namespace Escaping

universe u

structure Scheme (Symbol : Type u) where
  escape : Symbol
  delimiter : Symbol
  delimiter_ne_escape : delimiter ≠ escape
  /-- The letter for a symbol that may not stand for itself. -/
  letter? : Symbol → Option Symbol
  meaning : Symbol → Symbol
  meaning_letter : ∀ symbol letter, letter? symbol = some letter → meaning letter = symbol
  letter_escape : (letter? escape).isSome
  letter_delimiter : (letter? delimiter).isSome

namespace Scheme

variable {Symbol : Type u} (scheme : Scheme Symbol)

def encodeSymbol (symbol : Symbol) : List Symbol :=
  match scheme.letter? symbol with
  | some letter => [scheme.escape, letter]
  | none => [symbol]

def encode (text : List Symbol) : List Symbol := text.flatMap scheme.encodeSymbol

@[simp] theorem encode_nil : scheme.encode [] = [] := rfl

@[simp] theorem encode_cons (symbol : Symbol) (text : List Symbol) :
    scheme.encode (symbol :: text) = scheme.encodeSymbol symbol ++ scheme.encode text := rfl

variable [DecidableEq Symbol]

/-- The text up to the first delimiter that is not part of a pair, and what follows it. -/
def read : List Symbol → Option (List Symbol × List Symbol)
  | [] => none
  | symbol :: rest =>
      if symbol = scheme.escape then
        match rest with
        | [] => none
        | letter :: rest => (read rest).map fun (text, rest) => (scheme.meaning letter :: text, rest)
      else if symbol = scheme.delimiter then some ([], rest)
      else (read rest).map fun (text, rest) => (symbol :: text, rest)

/-- The symbols that are not part of a pair. -/
def unpaired : List Symbol → List Symbol
  | [] => []
  | symbol :: rest =>
      if symbol = scheme.escape then
        match rest with
        | [] => [symbol]
        | _ :: rest => unpaired rest
      else symbol :: unpaired rest

theorem read_pair (letter : Symbol) (rest : List Symbol) :
    scheme.read (scheme.escape :: letter :: rest) =
      (scheme.read rest).map fun (text, rest) => (scheme.meaning letter :: text, rest) := by
  simp [read]

theorem read_delimiter (rest : List Symbol) :
    scheme.read (scheme.delimiter :: rest) = some ([], rest) := by
  rw [read.eq_def]
  simp [scheme.delimiter_ne_escape]

theorem unpaired_pair (letter : Symbol) (rest : List Symbol) :
    scheme.unpaired (scheme.escape :: letter :: rest) = scheme.unpaired rest := by
  simp [unpaired]

variable {scheme}

theorem read_other {symbol : Symbol} (notEscape : symbol ≠ scheme.escape)
    (notDelimiter : symbol ≠ scheme.delimiter) (rest : List Symbol) :
    scheme.read (symbol :: rest) =
      (scheme.read rest).map fun (text, rest) => (symbol :: text, rest) := by
  rw [read.eq_def]
  simp [notEscape, notDelimiter]

theorem unpaired_other {symbol : Symbol} (notEscape : symbol ≠ scheme.escape)
    (rest : List Symbol) :
    scheme.unpaired (symbol :: rest) = symbol :: scheme.unpaired rest := by
  rw [unpaired.eq_def]
  simp [notEscape]

omit [DecidableEq Symbol] in
theorem encodeSymbol_cases (scheme : Scheme Symbol) (symbol : Symbol) :
    (∃ letter, scheme.letter? symbol = some letter ∧
      scheme.encodeSymbol symbol = [scheme.escape, letter]) ∨
    (scheme.letter? symbol = none ∧ scheme.encodeSymbol symbol = [symbol] ∧
      symbol ≠ scheme.escape ∧ symbol ≠ scheme.delimiter) := by
  cases written : scheme.letter? symbol with
  | some letter => exact .inl ⟨letter, rfl, by simp [encodeSymbol, written]⟩
  | none =>
      refine .inr ⟨rfl, by simp [encodeSymbol, written], ?_, ?_⟩
      · rintro rfl
        simpa [written] using scheme.letter_escape
      · rintro rfl
        simpa [written] using scheme.letter_delimiter

/-- What is encoded is read back, up to the delimiter after it and no further. -/
theorem read_encode (scheme : Scheme Symbol) (text rest : List Symbol) :
    scheme.read (scheme.encode text ++ scheme.delimiter :: rest) = some (text, rest) := by
  induction text with
  | nil => exact scheme.read_delimiter rest
  | cons symbol text ih =>
      rcases scheme.encodeSymbol_cases symbol with
        ⟨letter, written, encoded⟩ | ⟨-, encoded, notEscape, notDelimiter⟩
      · have meant := scheme.meaning_letter symbol letter written
        simp [encoded, read_pair, ih, meant]
      · simp [encoded, read_other notEscape notDelimiter, ih]

theorem encode_injective (scheme : Scheme Symbol) : Function.Injective scheme.encode := by
  intro text other same
  have read := scheme.read_encode text []
  rw [same, scheme.read_encode other []] at read
  exact (congrArg Prod.fst (Option.some.inj read)).symm

/-- Outside pairs there are only symbols that stand for themselves. -/
theorem letter?_of_mem_unpaired {symbol : Symbol} {text : List Symbol}
    (stands : symbol ∈ scheme.unpaired (scheme.encode text)) : scheme.letter? symbol = none := by
  induction text with
  | nil => simp [unpaired] at stands
  | cons first text ih =>
      rcases scheme.encodeSymbol_cases first with
        ⟨letter, -, encoded⟩ | ⟨raw, encoded, notEscape, -⟩
      · exact ih (by simpa [encoded, unpaired_pair] using stands)
      · have either : symbol = first ∨ symbol ∈ scheme.unpaired (scheme.encode text) := by
          simpa [encoded, unpaired_other notEscape] using stands
        rcases either with rfl | later
        · exact raw
        · exact ih later

omit [DecidableEq Symbol] in
/-- An encoded text consists of escape symbols, letters and symbols that stand for themselves. -/
theorem mem_encode {symbol : Symbol} {text : List Symbol}
    (occurs : symbol ∈ scheme.encode text) :
    symbol = scheme.escape ∨ (∃ other, scheme.letter? other = some symbol) ∨
      scheme.letter? symbol = none := by
  obtain ⟨first, -, occurs⟩ := List.mem_flatMap.mp occurs
  rcases scheme.encodeSymbol_cases first with ⟨letter, written, encoded⟩ | ⟨raw, encoded, -, -⟩
  · rw [encoded] at occurs
    rcases List.mem_cons.mp occurs with rfl | isLetter
    · exact .inl rfl
    · rw [List.mem_singleton] at isLetter
      subst isLetter
      exact .inr (.inl ⟨first, written⟩)
  · rw [encoded, List.mem_singleton] at occurs
    subst occurs
    exact .inr (.inr raw)

end Scheme

end Escaping
