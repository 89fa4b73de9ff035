import HS2Client.Library.Escaping

/-!
# Literals inside a host language

A text is read from left to right. Around the literals it belongs to a host language, of which
only this is known: the mode it is in, how a symbol changes it, and in which modes a delimiter
opens a literal. A text made of raw pieces and quoted strings is read as these pieces say, as
long as every quoted string stands where a literal may begin.
-/

namespace Escaping

universe u v

/-- The language around the literals. -/
structure Host (Symbol : Type u) (Mode : Type v) where
  next : Mode → Symbol → Mode
  opens : Mode → Bool

inductive Token (Symbol : Type u) (Mode : Type v) where
  | plain (mode : Mode) (symbol : Symbol)
  | literal (text : List Symbol)
  deriving DecidableEq

inductive Reading (Symbol : Type u) (Mode : Type v) where
  | outside (mode : Mode)
  | inside (mode : Mode) (text : List Symbol)
  /-- After the escape symbol. -/
  | escaped (mode : Mode) (text : List Symbol)
  deriving DecidableEq

inductive Piece (Symbol : Type u) where
  | raw (text : List Symbol)
  | quoted (text : List Symbol)
  deriving DecidableEq

variable {Symbol : Type u} {Mode : Type v}

/-- A token without what a literal says. -/
def Token.shape : Token Symbol Mode → Token Symbol Mode
  | .plain mode symbol => .plain mode symbol
  | .literal _ => .literal []

def Reading.opens (host : Host Symbol Mode) : Reading Symbol Mode → Bool
  | .outside mode => host.opens mode
  | _ => false

/-- Pieces that differ in what is quoted only. -/
inductive Piece.Alike : Piece Symbol → Piece Symbol → Prop
  | raw (text : List Symbol) : Alike (.raw text) (.raw text)
  | quoted (text other : List Symbol) : Alike (.quoted text) (.quoted other)

namespace Scheme

variable (scheme : Scheme Symbol)

def written : Piece Symbol → List Symbol
  | .raw text => text
  | .quoted text => scheme.delimiter :: (scheme.encode text ++ [scheme.delimiter])

@[simp] theorem written_raw (text : List Symbol) : scheme.written (.raw text) = text := rfl

variable [DecidableEq Symbol] (host : Host Symbol Mode)

def lexSymbol : Reading Symbol Mode → Symbol → Reading Symbol Mode × List (Token Symbol Mode)
  | .outside mode, symbol =>
      if symbol = scheme.delimiter ∧ host.opens mode then (.inside mode [], [])
      else (.outside (host.next mode symbol), [.plain mode symbol])
  | .inside mode text, symbol =>
      if symbol = scheme.escape then (.escaped mode text, [])
      else if symbol = scheme.delimiter then (.outside mode, [.literal text])
      else (.inside mode (text ++ [symbol]), [])
  | .escaped mode text, letter => (.inside mode (text ++ [scheme.meaning letter]), [])

def lex : Reading Symbol Mode → List Symbol → Reading Symbol Mode × List (Token Symbol Mode)
  | reading, [] => (reading, [])
  | reading, symbol :: rest =>
      let (next, tokens) := scheme.lexSymbol host reading symbol
      let (last, more) := lex next rest
      (last, tokens ++ more)

/-- What the pieces mean: a quoted string is one literal and changes no mode. -/
def lexPieces :
    Reading Symbol Mode → List (Piece Symbol) → Reading Symbol Mode × List (Token Symbol Mode)
  | reading, [] => (reading, [])
  | reading, .raw text :: rest =>
      let (next, tokens) := scheme.lex host reading text
      let (last, more) := lexPieces next rest
      (last, tokens ++ more)
  | reading, .quoted text :: rest =>
      let (last, more) := lexPieces reading rest
      (last, .literal text :: more)

/-- Every quoted string stands where a literal may begin. -/
def opening : Reading Symbol Mode → List (Piece Symbol) → Bool
  | _, [] => true
  | reading, .raw text :: rest => opening (scheme.lex host reading text).1 rest
  | reading, .quoted _ :: rest => reading.opens host && opening reading rest

theorem lex_append (reading : Reading Symbol Mode) (text rest : List Symbol) :
    scheme.lex host reading (text ++ rest) =
      ((scheme.lex host (scheme.lex host reading text).1 rest).1,
        (scheme.lex host reading text).2 ++
          (scheme.lex host (scheme.lex host reading text).1 rest).2) := by
  induction text generalizing reading with
  | nil => rfl
  | cons symbol text ih =>
      simp only [List.cons_append, lex]
      rw [ih]
      simp

/-- Inside a literal an encoded text is taken as it was before. -/
theorem lex_encode (mode : Mode) (read text : List Symbol) :
    scheme.lex host (.inside mode read) (scheme.encode text ++ [scheme.delimiter]) =
      (.outside mode, [.literal (read ++ text)]) := by
  induction text generalizing read with
  | nil => simp [lex, lexSymbol, scheme.delimiter_ne_escape]
  | cons symbol text ih =>
      rcases scheme.encodeSymbol_cases symbol with
        ⟨letter, written, encoded⟩ | ⟨-, encoded, notEscape, notDelimiter⟩
      · have meant := scheme.meaning_letter symbol letter written
        simp [encoded, lex, lexSymbol, meant, ih]
      · simp [encoded, lex, lexSymbol, notEscape, notDelimiter, ih]

theorem lex_quoted {reading : Reading Symbol Mode} (opens : reading.opens host = true)
    (text : List Symbol) :
    scheme.lex host reading (scheme.written (.quoted text)) = (reading, [.literal text]) := by
  cases reading with
  | inside mode read => cases opens
  | escaped mode read => cases opens
  | outside mode =>
      have allowed : host.opens mode = true := opens
      have body := scheme.lex_encode host mode [] text
      simp [written, lex, lexSymbol, allowed, body]

/-- The written pieces are read as what they mean. -/
theorem lex_written {reading : Reading Symbol Mode} {pieces : List (Piece Symbol)}
    (opening : scheme.opening host reading pieces = true) :
    scheme.lex host reading (pieces.flatMap scheme.written) =
      scheme.lexPieces host reading pieces := by
  induction pieces generalizing reading with
  | nil => rfl
  | cons piece pieces ih =>
      rw [List.flatMap_cons, lex_append]
      cases piece with
      | raw text =>
          have later := ih opening
          simp only [written_raw, later]
          rfl
      | quoted text =>
          obtain ⟨opens, later⟩ := Bool.and_eq_true_iff.mp opening
          rw [scheme.lex_quoted host opens, ih later]
          rfl

theorem opening_alike {reading : Reading Symbol Mode} {pieces others : List (Piece Symbol)}
    (alike : List.Forall₂ Piece.Alike pieces others) :
    scheme.opening host reading others = scheme.opening host reading pieces := by
  induction alike generalizing reading with
  | nil => rfl
  | cons first _ ih =>
      cases first with
      | raw text => exact ih
      | quoted text other => exact congrArg (reading.opens host && ·) ih

theorem lexPieces_alike (reading : Reading Symbol Mode) {pieces others : List (Piece Symbol)}
    (alike : List.Forall₂ Piece.Alike pieces others) :
    (scheme.lexPieces host reading others).1 = (scheme.lexPieces host reading pieces).1 ∧
      (scheme.lexPieces host reading others).2.map Token.shape =
        (scheme.lexPieces host reading pieces).2.map Token.shape := by
  induction alike generalizing reading with
  | nil => exact ⟨rfl, rfl⟩
  | cons first _ ih =>
      cases first with
      | raw text =>
          obtain ⟨last, shapes⟩ := ih (scheme.lex host reading text).1
          simp only [lexPieces, List.map_append]
          exact ⟨last, congrArg _ shapes⟩
      | quoted text other =>
          obtain ⟨last, shapes⟩ := ih reading
          simp only [lexPieces, List.map_cons]
          exact ⟨last, congrArg _ shapes⟩

/-- What is quoted changes only what the literals say. -/
theorem lex_alike {reading : Reading Symbol Mode} {pieces others : List (Piece Symbol)}
    (opening : scheme.opening host reading pieces = true)
    (alike : List.Forall₂ Piece.Alike pieces others) :
    (scheme.lex host reading (others.flatMap scheme.written)).1 =
        (scheme.lex host reading (pieces.flatMap scheme.written)).1 ∧
      (scheme.lex host reading (others.flatMap scheme.written)).2.map Token.shape =
        (scheme.lex host reading (pieces.flatMap scheme.written)).2.map Token.shape := by
  have openingToo := (scheme.opening_alike host alike).trans opening
  rw [scheme.lex_written host opening, scheme.lex_written host openingToo]
  exact scheme.lexPieces_alike host reading alike

end Scheme

end Escaping
