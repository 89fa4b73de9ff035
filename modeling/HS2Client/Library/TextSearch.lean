import Mathlib.Data.List.Infix
import Mathlib.Data.List.Count

/-!
# Searching and replacing in texts

Texts are lists over an arbitrary alphabet. `replaceFirst` rewrites the leftmost
occurrence of a non-empty marker, `replaceAll` every non-overlapping occurrence
from left to right. Both are structural in the text, so they evaluate.
-/

namespace TextSearch

universe u

variable {Symbol : Type u} [DecidableEq Symbol]

/-- Rewrite the leftmost occurrence of a non-empty marker. -/
def replaceFirst (marker replacement : List Symbol) : List Symbol → List Symbol
  | [] => []
  | symbol :: rest =>
      if marker <+: symbol :: rest then
        replacement ++ (symbol :: rest).drop marker.length
      else
        symbol :: replaceFirst marker replacement rest

/-- Rewrite all occurrences; the counter skips the rest of a matched marker. -/
def replaceAllFrom (marker replacement : List Symbol) : Nat → List Symbol → List Symbol
  | _, [] => []
  | skip + 1, _ :: rest => replaceAllFrom marker replacement skip rest
  | 0, symbol :: rest =>
      if marker <+: symbol :: rest then
        replacement ++ replaceAllFrom marker replacement (marker.length - 1) rest
      else
        symbol :: replaceAllFrom marker replacement 0 rest

def replaceAll (marker replacement text : List Symbol) : List Symbol :=
  replaceAllFrom marker replacement 0 text

/-- A text without the marker is left alone by a global replacement. -/
theorem replaceAll_of_not_infix {marker replacement text : List Symbol}
    (absent : ¬ marker <:+: text) : replaceAll marker replacement text = text := by
  unfold replaceAll
  induction text with
  | nil => rfl
  | cons symbol rest ih =>
      have noPrefix : ¬ marker <+: symbol :: rest := fun found => absent found.isInfix
      have noInfix : ¬ marker <:+: rest := fun found => absent (List.infix_cons found)
      simp only [replaceAllFrom, if_neg noPrefix, ih noInfix]

/-- Replacing a single symbol everywhere is a map of symbols to texts. -/
theorem replaceAll_singleton (symbol : Symbol) (replacement text : List Symbol) :
    replaceAll [symbol] replacement text =
      text.flatMap fun other => if other = symbol then replacement else [other] := by
  unfold replaceAll
  induction text with
  | nil => rfl
  | cons other rest ih =>
      by_cases same : other = symbol
      · simp [replaceAllFrom, same, ih]
      · simp [replaceAllFrom, List.cons_prefix_cons, same, Ne.symm same, ih]

omit [DecidableEq Symbol] in
/-- A single symbol occurs in a text exactly when it is a member. -/
theorem singleton_infix_iff {symbol : Symbol} {text : List Symbol} :
    [symbol] <:+: text ↔ symbol ∈ text := by
  constructor
  · rintro ⟨before, after, rfl⟩
    simp
  · intro membership
    obtain ⟨before, after, rfl⟩ := List.append_of_mem membership
    exact ⟨before, after, by simp⟩

omit [DecidableEq Symbol] in
/-- A marker does not occur in a text without its first symbol. -/
theorem not_infix_of_head_not_mem {head : Symbol} {text : List Symbol} (absent : head ∉ text)
    (tail : List Symbol) : ¬ head :: tail <:+: text :=
  fun found => absent (found.mem List.mem_cons_self)

/-! ## Markers that are told by their first symbol -/

section Head

variable {head : Symbol} {tail before : List Symbol}

omit [DecidableEq Symbol] in
theorem not_prefix_of_ne {symbol : Symbol} (different : symbol ≠ head) (rest : List Symbol) :
    ¬ head :: tail <+: symbol :: rest := by
  simp [List.cons_prefix_cons, different.symm]

theorem replaceFirst_append_marker (absent : head ∉ before)
    (tail replacement after : List Symbol) :
    replaceFirst (head :: tail) replacement (before ++ (head :: tail ++ after)) =
      before ++ (replacement ++ after) := by
  induction before with
  | nil => simp [replaceFirst]
  | cons symbol rest ih =>
      have different : symbol ≠ head := fun same => absent (by simp [same])
      have absentRest : head ∉ rest := fun found => absent (by simp [found])
      simp only [List.cons_append, replaceFirst, if_neg (not_prefix_of_ne different _)]
      exact congrArg (symbol :: ·) (ih absentRest)

/-- The leftmost occurrence of a single symbol is the one with no symbol before it. -/
theorem replaceFirst_singleton {symbol : Symbol} (absent : symbol ∉ before)
    (replacement after : List Symbol) :
    replaceFirst [symbol] replacement (before ++ symbol :: after) =
      before ++ (replacement ++ after) :=
  replaceFirst_append_marker absent [] replacement after

theorem replaceAllFrom_skip (marker replacement skipped rest : List Symbol) :
    replaceAllFrom marker replacement skipped.length (skipped ++ rest) =
      replaceAll marker replacement rest := by
  induction skipped with
  | nil => rfl
  | cons symbol skipped ih => exact ih

theorem replaceAll_cons_of_mismatch {marker rest : List Symbol} {symbol : Symbol}
    (noPrefix : ¬ marker <+: symbol :: rest) (replacement : List Symbol) :
    replaceAll marker replacement (symbol :: rest) =
      symbol :: replaceAll marker replacement rest := by
  rw [replaceAll, replaceAllFrom, if_neg noPrefix]
  rfl

theorem replaceAll_append (absent : head ∉ before) (replacement rest : List Symbol) :
    replaceAll (head :: tail) replacement (before ++ rest) =
      before ++ replaceAll (head :: tail) replacement rest := by
  induction before with
  | nil => rfl
  | cons symbol before ih =>
      have different : symbol ≠ head := fun same => absent (by simp [same])
      have absentRest : head ∉ before := fun found => absent (by simp [found])
      rw [List.cons_append, replaceAll_cons_of_mismatch (not_prefix_of_ne different _),
        ih absentRest]
      rfl

theorem replaceAll_marker (replacement rest : List Symbol) :
    replaceAll (head :: tail) replacement (head :: (tail ++ rest)) =
      replacement ++ replaceAll (head :: tail) replacement rest := by
  have found : head :: tail <+: head :: (tail ++ rest) := List.prefix_append (head :: tail) rest
  rw [replaceAll, replaceAllFrom, if_pos found, List.length_cons, Nat.add_sub_cancel,
    replaceAllFrom_skip]

end Head

/-- Replacing one symbol by a text trades that occurrence for those of the text. -/
theorem count_replaceFirst_singleton {symbol : Symbol} {text : List Symbol}
    (present : symbol ∈ text) (replacement : List Symbol) :
    (replaceFirst [symbol] replacement text).count symbol + 1 =
      text.count symbol + replacement.count symbol := by
  obtain ⟨before, after, rfl, absent⟩ := List.eq_append_cons_of_mem present
  rw [replaceFirst_singleton absent]
  simp only [List.count_append, List.count_cons_self]
  omega

end TextSearch
