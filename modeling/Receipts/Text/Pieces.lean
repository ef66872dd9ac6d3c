/-!
# Hits of a recogniser in a text

A recogniser reads one hit at the front of a text. A text falls apart into the
hits found from the left, which never overlap, and the characters between
them. Searching and rewriting are both read off these pieces, so they agree on
what a hit is.
-/

namespace Receipts.Text

/-- Reads a hit at the front of a text, with the number of characters it spans. -/
abbrev Recogniser (α : Type) := List Char → Option (α × Nat)

/-- A character on its own, or a hit. -/
inductive Piece (α : Type) where
  | plain (c : Char)
  | hit (a : α)
  deriving Repr, DecidableEq

/-- The hit, if the piece is one. -/
def Piece.hit? {α : Type} : Piece α → Option α
  | .plain _ => none
  | .hit a => some a

/-- A character stands for itself, a hit for its image. -/
def Piece.expand {α : Type} (image : α → List Char) : Piece α → List Char
  | .plain c => [c]
  | .hit a => image a

/-- Adds the pieces of a text whose first `skip` characters belong to the last hit to those found
before it, latest first. -/
def collect {α : Type} (recognise : Recogniser α) :
    List (Piece α) → Nat → List Char → List (Piece α)
  | found, _, [] => found.reverse
  | found, skip + 1, _ :: s => collect recognise found skip s
  | found, 0, c :: s =>
      match recognise (c :: s) with
      | some (a, width) => collect recognise (.hit a :: found) (width - 1) s
      | none => collect recognise (.plain c :: found) 0 s

/-- The pieces of a text. -/
def pieces {α : Type} (recognise : Recogniser α) (s : List Char) : List (Piece α) :=
  collect recognise [] 0 s

/-- The hits in a text, from left to right. -/
def hits {α : Type} (recognise : Recogniser α) (s : List Char) : List α :=
  (pieces recognise s).filterMap Piece.hit?

/-- The text with every hit replaced by its image. -/
def replaceHits {α : Type} (recognise : Recogniser α) (image : α → List Char) (s : List Char) :
    List Char :=
  (pieces recognise s).flatMap (Piece.expand image)

/-- What was found before stays in front. -/
theorem collect_eq_append {α : Type} (recognise : Recogniser α) (s : List Char) :
    ∀ (found : List (Piece α)) (skip : Nat),
      collect recognise found skip s = found.reverse ++ collect recognise [] skip s := by
  induction s with
  | nil => intro found skip; cases skip <;> simp [collect]
  | cons c s ih =>
      intro found skip
      cases skip with
      | succ skip => simpa [collect] using ih found skip
      | zero =>
          simp only [collect]
          split
          · rename_i a width _
            rw [ih (.hit a :: found), ih [.hit a]]
            simp
          · rw [ih (.plain c :: found), ih [.plain c]]
            simp

/-- Skipping characters is the same as dropping them first. -/
theorem collect_eq_drop {α : Type} (recognise : Recogniser α) (s : List Char) :
    ∀ skip : Nat, collect recognise [] skip s = pieces recognise (s.drop skip) := by
  induction s with
  | nil => intro skip; cases skip <;> simp [pieces, collect]
  | cons c s ih =>
      intro skip
      cases skip with
      | zero => rfl
      | succ skip => simpa [collect] using ih skip

theorem pieces_of_hit {α : Type} {recognise : Recogniser α} {c : Char} {s : List Char} {a : α}
    {width : Nat} (h : recognise (c :: s) = some (a, width)) :
    pieces recognise (c :: s) = .hit a :: pieces recognise (s.drop (width - 1)) := by
  simp only [pieces, collect, h]
  rw [collect_eq_append, collect_eq_drop]
  rfl

theorem pieces_of_plain {α : Type} {recognise : Recogniser α} {c : Char} {s : List Char}
    (h : recognise (c :: s) = none) :
    pieces recognise (c :: s) = .plain c :: pieces recognise s := by
  simp only [pieces, collect, h]
  rw [collect_eq_append]
  rfl

theorem replaceHits_nil {α : Type} (recognise : Recogniser α) (image : α → List Char) :
    replaceHits recognise image [] = [] := rfl

theorem replaceHits_of_hit {α : Type} {recognise : Recogniser α} (image : α → List Char) {c : Char}
    {s : List Char} {a : α} {width : Nat} (h : recognise (c :: s) = some (a, width)) :
    replaceHits recognise image (c :: s)
      = image a ++ replaceHits recognise image (s.drop (width - 1)) := by
  simp [replaceHits, pieces_of_hit h, Piece.expand]

theorem replaceHits_of_plain {α : Type} {recognise : Recogniser α} (image : α → List Char)
    {c : Char} {s : List Char} (h : recognise (c :: s) = none) :
    replaceHits recognise image (c :: s) = c :: replaceHits recognise image s := by
  simp [replaceHits, pieces_of_plain h, Piece.expand]

end Receipts.Text
