import Receipts.Photo.CodeFence
import Receipts.Proofs.Text.Scan
import Receipts.Proofs.Text.Trim

/-!
# Documents in a code fence

A document between two fences comes out as it is, but for the blanks at its ends, whatever fences it
has itself: the first line end is the one behind the info string, and of the fences at the end only
the last one has no line end behind the document before it.
-/

namespace Receipts.Photo

open Text (isBlank trim trimEnd)

/-- Three backticks. -/
def fence : List Char := ['\x60', '\x60', '\x60']

/-- A document between two fences on lines of their own, the first one with an info string. -/
def fenced (info document : List Char) : List Char :=
  fence ++ (info ++ '\n' :: (document ++ '\n' :: fence))

/-- What a text holds: the document in its fence, with blanks around the fence or none, or the text
itself if no fence opens it. -/
inductive Holds : List Char → List Char → Prop
  | fenced {before info after : List Char} (document : List Char)
      (hbefore : before.all isBlank = true) (hinfo : '\n' ∉ info)
      (hafter : after.all isBlank = true) :
      Holds (before ++ fenced info document ++ after) document
  | plain {content : List Char} (h : ¬ fence <+: trim content) : Holds content content

/-! ## The parts of a fenced document -/

theorem trim_fenced {before after : List Char} (hbefore : before.all isBlank = true)
    (hafter : after.all isBlank = true) (info document : List Char) :
    trim (before ++ fenced info document ++ after) = fenced info document := by
  have hends : fenced info document =
      '\x60' :: ('\x60' :: '\x60' :: (info ++ '\n' :: (document ++ ['\n', '\x60', '\x60']))
        ++ ['\x60']) := by
    simp [fenced, fence]
  rw [hends]
  exact Text.trim_between hbefore hafter rfl rfl _

theorem trimEnd_append_fence (s : List Char) : trimEnd (s ++ fence) = s ++ fence := by
  have hlast := Text.trimEnd_append_of_visible (c := '\x60') rfl (s ++ ['\x60', '\x60'])
  rwa [List.append_assoc] at hlast

theorem afterFirstLine_append {info : List Char} (h : '\n' ∉ info) (rest : List Char) :
    afterFirstLine (info ++ '\n' :: rest) = rest := by
  rw [afterFirstLine, Text.dropWhile_stop h]

/-- The line end before the last fence keeps what stands before it. -/
theorem dropFences_reverse_append (document : List Char) :
    dropFences (document ++ ['\n'] ++ fence).reverse = (document ++ ['\n']).reverse := by
  simp [fence, dropFences]

/-! ## Texts with and without an opening fence -/

theorem unfenced_of_opening {content rest : List Char} (h : trim content = fence ++ rest) :
    unfenced content = trim (dropFences (trimEnd (afterFirstLine rest)).reverse).reverse := by
  rw [unfenced, h]
  rfl

theorem unfenced_of_not_opening {content : List Char} (h : ¬ fence <+: trim content) :
    unfenced content = trim content := by
  unfold unfenced
  split
  · rename_i rest hopening
    exact absurd ⟨rest, hopening.symm⟩ h
  · rfl

/-- Unwrapping gives what a text holds, without the blanks at its ends. -/
theorem unfenced_eq_trim {content document : List Char} (h : Holds content document) :
    unfenced content = trim document := by
  cases h with
  | plain h => exact unfenced_of_not_opening h
  | @fenced before info after _ hbefore hinfo hafter =>
      have hlines : document ++ '\n' :: fence = document ++ ['\n'] ++ fence := by simp
      calc unfenced (before ++ fenced info document ++ after)
          = trim (dropFences (trimEnd (document ++ ['\n'] ++ fence)).reverse).reverse := by
            rw [unfenced_of_opening (trim_fenced hbefore hafter info document),
              afterFirstLine_append hinfo, hlines]
        _ = trim (document ++ ['\n']) := by
            rw [trimEnd_append_fence, dropFences_reverse_append, List.reverse_reverse]
        _ = trim document := Text.trim_append_of_blank rfl document

/-- A document with a fence within it and a fence at its end. -/
def nestedDocument : String := "<pre>\n\x60\x60\x60js\nx\n\x60\x60\x60\n</pre>\n\x60\x60\x60"

/-- The document in a fence, with blanks around it. -/
def nestedReply : String := "\n \x60\x60\x60html\n" ++ nestedDocument ++ "\n\x60\x60\x60\t\n"

theorem unfenced_nestedReply :
    Holds nestedReply.toList nestedDocument.toList ∧
    unfenced nestedReply.toList = nestedDocument.toList := by
  have hreply : nestedReply.toList
      = "\n ".toList ++ fenced "html".toList nestedDocument.toList ++ "\t\n".toList := by
    decide
  have hholds : Holds nestedReply.toList nestedDocument.toList := by
    rw [hreply]
    exact .fenced _ (by decide) (by decide) (by decide)
  refine ⟨hholds, ?_⟩
  rw [unfenced_eq_trim hholds]
  decide

end Receipts.Photo
