import HS2Client.DbApi.Binding
import HS2Client.Library.Escaping

/-!
# String literals

`_escape` replaces five characters one after the other, each in the text that the replacements
before it have produced. Together they map every character on its own, so that a reader of SQL
string literals finds the string again.
-/

namespace HS2Client.DbApi

open TextSearch Escaping

def escapeLetter? : Char → Option Char
  | '\\' => some '\\'
  | '\n' => some 'n'
  | '\r' => some 'r'
  | '\'' => some '\''
  | '"' => some '"'
  | _ => none

/-- What a pair of a backslash and a letter stands for. -/
def escapeMeaning : Char → Char
  | 'n' => '\n'
  | 'r' => '\r'
  | letter => letter

theorem escapeLetter?_cases {c letter : Char} (written : escapeLetter? c = some letter) :
    (c, letter) ∈ [('\\', '\\'), ('\n', 'n'), ('\r', 'r'), ('\'', '\''), ('"', '"')] := by
  unfold escapeLetter? at written
  split at written <;> cases written <;> simp

/-- String literals between single quotes. -/
def sqlLiteral : Scheme Char where
  escape := '\\'
  delimiter := '\''
  delimiter_ne_escape := by decide
  letter? := escapeLetter?
  meaning := escapeMeaning
  meaning_letter := by
    intro c letter written
    have listed := escapeLetter?_cases written
    simp only [List.mem_cons, Prod.mk.injEq, List.not_mem_nil, or_false] at listed
    rcases listed with ⟨rfl, rfl⟩ | ⟨rfl, rfl⟩ | ⟨rfl, rfl⟩ | ⟨rfl, rfl⟩ | ⟨rfl, rfl⟩ <;> rfl
  letter_escape := rfl
  letter_delimiter := rfl

/-- The reader of a literal: it starts after the opening quote. -/
def readLiteral : Text → Option (Text × Text)
  | '\'' :: text => sqlLiteral.read text
  | _ => none

/-- The five replacements, on a single character. -/
theorem escape_singleton (c : Char) : escape [c] = sqlLiteral.encodeSymbol c := by
  cases written : escapeLetter? c with
  | some letter =>
      have listed := escapeLetter?_cases written
      simp only [List.mem_cons, Prod.mk.injEq, List.not_mem_nil, or_false] at listed
      rcases listed with ⟨rfl, rfl⟩ | ⟨rfl, rfl⟩ | ⟨rfl, rfl⟩ | ⟨rfl, rfl⟩ | ⟨rfl, rfl⟩ <;> rfl
  | none =>
      have plain : ∀ special ∈ ['\\', '\n', '\r', '\'', '"'], c ≠ special := by
        rintro special listed rfl
        simp only [List.mem_cons, List.not_mem_nil, or_false] at listed
        rcases listed with rfl | rfl | rfl | rfl | rfl <;> cases written
      simp only [List.forall_mem_cons] at plain
      obtain ⟨backslash, newline, carriageReturn, quote, doubleQuote, -⟩ := plain
      have raw : sqlLiteral.letter? c = none := written
      simp [escape, replaceAll_singleton, Scheme.encodeSymbol, raw, backslash, newline,
        carriageReturn, quote, doubleQuote]

theorem escape_append (s t : Text) : escape (s ++ t) = escape s ++ escape t := by
  simp only [escape, replaceAll_singleton, List.flatMap_append]

/-- No replacement touches what an earlier one has written for another character. -/
theorem escape_eq_encode (s : Text) : escape s = sqlLiteral.encode s := by
  induction s with
  | nil => rfl
  | cons c s ih =>
      rw [← List.singleton_append, escape_append, escape_singleton, ih]
      rfl

/-- A character with a letter that is neither the backslash nor a letter itself does not occur. -/
theorem not_mem_escape {c : Char} (written : (escapeLetter? c).isSome) (notBackslash : c ≠ '\\')
    (notLetter : ∀ other, escapeLetter? other ≠ some c) (s : Text) : c ∉ escape s := by
  rw [escape_eq_encode]
  intro occurs
  rcases sqlLiteral.mem_encode occurs with isBackslash | ⟨other, isLetter⟩ | raw
  · exact notBackslash isBackslash
  · exact notLetter other isLetter
  · have none : escapeLetter? c = none := raw
    simp [none] at written

/-- Escaping is injective, and a quoted string is read back whatever follows it; inside it there
is no raw line break and no double quote outside a pair. -/
theorem readLiteral_escape (s rest : Text) :
    readLiteral ('\'' :: (escape s ++ '\'' :: rest)) = some (s, rest) ∧
      stringParameter (.str s) ++ rest = '\'' :: (escape s ++ '\'' :: rest) ∧
      Function.Injective escape ∧
      '\n' ∉ escape s ∧ '\r' ∉ escape s ∧ '"' ∉ sqlLiteral.unpaired (escape s) := by
  refine ⟨?_, by simp [stringParameter], ?_, ?_, ?_, ?_⟩
  · rw [escape_eq_encode]
    exact sqlLiteral.read_encode s rest
  · have same : escape = sqlLiteral.encode := funext escape_eq_encode
    rw [same]
    exact sqlLiteral.encode_injective
  · apply not_mem_escape rfl (by decide)
    intro other written
    have listed := escapeLetter?_cases written
    simp at listed
  · apply not_mem_escape rfl (by decide)
    intro other written
    have listed := escapeLetter?_cases written
    simp at listed
  · rw [escape_eq_encode]
    intro stands
    cases sqlLiteral.letter?_of_mem_unpaired stands

example : escape "a\\'".toList = "a\\\\\\'".toList := by decide

end HS2Client.DbApi
