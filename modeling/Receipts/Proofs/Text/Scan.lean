import Mathlib.Data.List.Infix
import Mathlib.Data.List.TakeWhile
import Receipts.Text.Replace

/-!
# Scanning a text from the left

What a scan does to a text is told stretch by stretch: at a hit it goes on behind the hit, and over
a stretch where nothing is recognised it changes nothing. Literal replacement is stated through the
prefix and infix orders of lists, so that later arguments do not open the scanner.
-/

namespace Receipts.Text

section Scan

variable {α : Type} {recognise : Recogniser α}

/-- Induction along the pieces of a text. -/
theorem scan_induction (recognise : Recogniser α) {motive : List Char → Prop} (nil : motive [])
    (plain : ∀ c s, recognise (c :: s) = none → motive s → motive (c :: s))
    (hit : ∀ c s a width, recognise (c :: s) = some (a, width) → motive (s.drop (width - 1)) →
      motive (c :: s)) (s : List Char) : motive s := by
  induction hn : s.length using Nat.strong_induction_on generalizing s with
  | h n ih =>
      cases s with
      | nil => exact nil
      | cons c s =>
          rw [List.length_cons] at hn
          cases hr : recognise (c :: s) with
          | none => exact plain c s hr (ih s.length (by omega) s rfl)
          | some found =>
              obtain ⟨a, width⟩ := found
              have hdrop : (s.drop (width - 1)).length ≤ s.length := by simp
              exact hit c s a width hr (ih _ (by omega) _ rfl)

/-- A stretch in which no hit begins stays as it is. -/
theorem replaceHits_append (image : α → List Char) (s rest : List Char)
    (h : ∀ b, b <:+ s → b ≠ [] → recognise (b ++ rest) = none) :
    replaceHits recognise image (s ++ rest) = s ++ replaceHits recognise image rest := by
  induction s with
  | nil => rfl
  | cons c s ih =>
      have hc : recognise (c :: (s ++ rest)) = none := h (c :: s) List.suffix_rfl (by simp)
      rw [List.cons_append, replaceHits_of_plain image hc,
        ih fun b hb hne => h b (hb.trans (List.suffix_cons c s)) hne, List.cons_append]

/-- A stretch in which no hit begins adds none. -/
theorem hits_append (s rest : List Char)
    (h : ∀ b, b <:+ s → b ≠ [] → recognise (b ++ rest) = none) :
    hits recognise (s ++ rest) = hits recognise rest := by
  induction s with
  | nil => rfl
  | cons c s ih =>
      have hc : recognise (c :: (s ++ rest)) = none := h (c :: s) List.suffix_rfl (by simp)
      rw [← ih fun b hb hne => h b (hb.trans (List.suffix_cons c s)) hne, List.cons_append, hits,
        pieces_of_plain hc]
      rfl

/-- A text in which no hit begins has none. -/
theorem hits_eq_nil (s : List Char) (h : ∀ b, b <:+ s → b ≠ [] → recognise b = none) :
    hits recognise s = [] := by
  have hs := hits_append s [] fun b hb hne => by simpa using h b hb hne
  rwa [List.append_nil] at hs

end Scan

theorem occurs_iff {p s : List Char} : occurs p s = true ↔ p <:+: s := by
  induction s with
  | nil => simp [occurs]
  | cons c s ih =>
      rw [occurs, Bool.or_eq_true, ih, List.isPrefixOf_iff_prefix, List.infix_cons_iff]

theorem occurs_eq_false_iff {p s : List Char} : occurs p s = false ↔ ¬ p <:+: s := by
  rw [← occurs_iff, Bool.not_eq_true]

/-- What begins with a character that the text in front does not have stands behind that text. -/
theorem infix_of_infix_append {c : Char} {w a b : List Char} (hc : c ∉ a)
    (h : c :: w <:+: a ++ b) : c :: w <:+: b := by
  induction a with
  | nil => exact h
  | cons d a ih =>
      rw [List.cons_append, List.infix_cons_iff] at h
      rcases h with h | h
      · rw [List.cons_prefix_cons] at h
        exact absurd (by simp [h.1]) hc
      · exact ih (fun hm => hc (List.mem_cons_of_mem _ hm)) h

theorem prefix_of_prefix_append_stop {stop : Char} {w s rest : List Char} (hw : stop ∉ w)
    (h : w <+: s ++ stop :: rest) : w <+: s := by
  rcases List.prefix_or_prefix_of_prefix h (List.prefix_append s (stop :: rest)) with hp | ⟨v, rfl⟩
  · exact hp
  · rw [List.prefix_append_right_inj, List.prefix_cons_iff] at h
    obtain rfl | ⟨v, rfl, -⟩ := h
    · rw [List.append_nil]
    · simp at hw

theorem infix_of_infix_append_stop {stop : Char} {w s rest : List Char} (hw : stop ∉ w)
    (h : w <:+: s ++ stop :: rest) : w <:+: s ∨ w <:+: rest := by
  rcases List.infix_append_iff.mp h with h | h | ⟨u, v, rfl, hu, hv⟩
  · exact .inl h
  · rcases List.infix_cons_iff.mp h with h | h
    · have hnil : w <+: [] := prefix_of_prefix_append_stop hw h
      exact .inl (hnil.isInfix.trans List.nil_infix)
    · exact .inr h
  · have hnil : v <+: [] := prefix_of_prefix_append_stop (fun hm => hw (by simp [hm])) hv
    rw [List.prefix_nil.mp hnil, List.append_nil]
    exact .inl hu.isInfix

section Images

variable {α : Type} {recognise : Recogniser α}

/-- A character that neither a text nor an image has does not come in. -/
theorem not_mem_replaceHits {image : α → List Char} {c : Char} {s : List Char}
    (himage : ∀ a, c ∉ image a) (h : c ∉ s) : c ∉ replaceHits recognise image s := by
  induction s using scan_induction recognise with
  | nil => exact h
  | plain d s hplain ih =>
      rw [List.mem_cons, not_or] at h
      rw [replaceHits_of_plain image hplain, List.mem_cons, not_or]
      exact ⟨h.1, ih h.2⟩
  | hit d s a width hhit ih =>
      have hrest : c ∉ s.drop (width - 1) :=
        fun hm => h (List.mem_cons_of_mem d (List.mem_of_mem_drop hm))
      rw [replaceHits_of_hit image hhit, List.mem_append, not_or]
      exact ⟨himage a, ih hrest⟩

variable {image : α → List Char} {w s : List Char} (hne : ∀ a, image a ≠ [])
  (hw : ∀ a, ∀ c ∈ image a, c ∉ w)

include hne hw

theorem prefix_of_prefix_replaceHits (h : w <+: replaceHits recognise image s) : w <+: s := by
  induction s using scan_induction recognise generalizing w with
  | nil => exact h
  | plain c s hplain ih =>
      rw [replaceHits_of_plain image hplain, List.prefix_cons_iff] at h
      obtain rfl | ⟨v, rfl, h⟩ := h
      · exact List.nil_prefix
      · have hv : ∀ a, ∀ d ∈ image a, d ∉ v :=
          fun a d hd hm => hw a d hd (List.mem_cons_of_mem c hm)
        exact List.cons_prefix_cons.mpr ⟨rfl, ih hv h⟩
  | hit c s a width hhit ih =>
      obtain ⟨d, rest, himage⟩ := List.exists_cons_of_ne_nil (hne a)
      rw [replaceHits_of_hit image hhit, himage, List.cons_append, List.prefix_cons_iff] at h
      obtain rfl | ⟨v, rfl, -⟩ := h
      · exact List.nil_prefix
      · exact absurd List.mem_cons_self (hw a d (by rw [himage]; exact List.mem_cons_self))

/-- A stretch without a character of the images, none of which is empty, stands in a text after a
scan only if it stood in it before. -/
theorem infix_of_infix_replaceHits (h : w <:+: replaceHits recognise image s) : w <:+: s := by
  by_cases hnil : w = []
  · rw [hnil]
    exact List.nil_infix
  obtain ⟨d, v, rfl⟩ := List.exists_cons_of_ne_nil hnil
  induction s using scan_induction recognise with
  | nil => exact h
  | plain c s hplain ih =>
      rw [replaceHits_of_plain image hplain] at h
      rcases List.infix_cons_iff.mp h with h | h
      · rw [← replaceHits_of_plain image hplain] at h
        exact (prefix_of_prefix_replaceHits hne hw h).isInfix
      · exact (ih h).trans (List.suffix_cons c s).isInfix
  | hit c s a width hhit ih =>
      rw [replaceHits_of_hit image hhit] at h
      have hnot : d ∉ image a := fun hd => hw a d hd List.mem_cons_self
      have hrest := ih (infix_of_infix_append hnot h)
      exact hrest.trans ((List.drop_suffix _ s).trans (List.suffix_cons c s)).isInfix

end Images

/-- A stretch without the character that ends it is read up to that character. -/
theorem takeWhile_stop {stop : Char} {s : List Char} (h : stop ∉ s) (rest : List Char) :
    (s ++ stop :: rest).takeWhile (· != stop) = s := by
  rw [List.takeWhile_append_of_pos fun c hc => by simpa using ne_of_mem_of_not_mem hc h]
  simp

theorem dropWhile_stop {stop : Char} {s : List Char} (h : stop ∉ s) (rest : List Char) :
    (s ++ stop :: rest).dropWhile (· != stop) = stop :: rest := by
  rw [List.dropWhile_append_of_pos fun c hc => by simpa using ne_of_mem_of_not_mem hc h]
  simp

theorem eq_of_append_stop {stop : Char} {s t rest rest' : List Char} (hs : stop ∉ s) (ht : stop ∉ t)
    (h : s ++ stop :: rest = t ++ stop :: rest') : s = t := by
  rw [← takeWhile_stop hs rest, h, takeWhile_stop ht]

theorem literal_eq_none_iff {p s : List Char} : literal p s = none ↔ ¬ p <+: s := by
  simp [literal]

theorem literal_of_prefix {p s : List Char} (h : p <+: s) :
    literal p s = some ((), p.length) := by
  simp [literal, h]

variable {old : List Char} (new : List Char)

theorem replaceAll_eq_replaceHits (hne : old ≠ []) (s : List Char) :
    replaceAll old new s = replaceHits (literal old) (fun _ => new) s := by
  simp [replaceAll, hne]

/-- An occurrence at the front gives way, and the text behind it is searched on. -/
theorem replaceAll_append_left (hne : old ≠ []) (s : List Char) :
    replaceAll old new (old ++ s) = new ++ replaceAll old new s := by
  obtain ⟨c, p, rfl⟩ := List.exists_cons_of_ne_nil hne
  have hr : literal (c :: p) (c :: (p ++ s)) = some ((), (c :: p).length) :=
    literal_of_prefix (List.prefix_append _ _)
  rw [replaceAll_eq_replaceHits new hne, replaceAll_eq_replaceHits new hne, List.cons_append,
    replaceHits_of_hit _ hr]
  simp

theorem replaceAll_cons (hne : old ≠ []) {c : Char} {s : List Char} (h : ¬ old <+: c :: s) :
    replaceAll old new (c :: s) = c :: replaceAll old new s := by
  rw [replaceAll_eq_replaceHits new hne, replaceAll_eq_replaceHits new hne,
    replaceHits_of_plain _ (literal_eq_none_iff.mpr h)]

/-- A stretch in which no occurrence begins stays as it is. -/
theorem replaceAll_append (hne : old ≠ []) (s rest : List Char)
    (h : ∀ b, b <:+ s → b ≠ [] → ¬ old <+: b ++ rest) :
    replaceAll old new (s ++ rest) = s ++ replaceAll old new rest := by
  rw [replaceAll_eq_replaceHits new hne, replaceAll_eq_replaceHits new hne]
  exact replaceHits_append _ s rest fun b hb hb' => literal_eq_none_iff.mpr (h b hb hb')

theorem replaceAll_nil (hne : old ≠ []) : replaceAll old new [] = [] := by
  rw [replaceAll_eq_replaceHits new hne, replaceHits_nil]

/-- Where nothing occurs, nothing is replaced. -/
theorem replaceAll_of_not_infix (hne : old ≠ []) {s : List Char} (h : ¬ old <:+: s) :
    replaceAll old new s = s := by
  have hs := replaceAll_append new hne s [] fun b hb _ hp =>
    h ((by simpa using hp : old <+: b).isInfix.trans hb.isInfix)
  simpa [replaceAll_nil new hne] using hs

/-- Induction along the occurrences that a replacement takes. -/
theorem replaceAll_induction (hne : old ≠ []) {motive : List Char → Prop} (nil : motive [])
    (plain : ∀ c s, ¬ old <+: c :: s → motive s → motive (c :: s))
    (hit : ∀ s, motive s → motive (old ++ s)) (s : List Char) : motive s := by
  refine scan_induction (literal old) nil
    (fun c s h => plain c s (literal_eq_none_iff.mp h)) (fun c s a width h ih => ?_) s
  by_cases hp : old <+: c :: s
  · obtain ⟨rest, hrest⟩ := hp
    have hw : width = old.length := by
      rw [← hrest, literal_of_prefix (List.prefix_append _ _)] at h
      simpa using h.symm
    obtain ⟨d, p, rfl⟩ := List.exists_cons_of_ne_nil hne
    obtain ⟨rfl, rfl⟩ : d = c ∧ p ++ rest = s := by simpa using hrest
    rw [← hrest]
    exact hit rest (by simpa [hw] using ih)
  · rw [literal_eq_none_iff.mpr hp] at h
    cases h

end Receipts.Text
