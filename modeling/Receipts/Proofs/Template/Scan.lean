import Mathlib.Data.List.TakeWhile
import Receipts.Proofs.Text.Scan
import Receipts.Template.Placeholder

/-!
# What the scan for placeholders sees

A placeholder is recognised exactly where its token stands at the front of a text and its name is
one that placeholders can have. The rest of the theory works with tokens as prefixes and infixes.
-/

namespace Receipts.Template

/-- A name that a placeholder can have: it is not empty and has no closing brace. -/
def IsName (name : List Char) : Prop :=
  name ≠ [] ∧ '}' ∉ name

instance (name : List Char) : Decidable (IsName name) :=
  inferInstanceAs (Decidable (name ≠ [] ∧ '}' ∉ name))

/-- The text of several placeholders one after the other. -/
def tokens (names : List (List Char)) : List Char :=
  names.flatMap token

theorem token_append (name s : List Char) :
    token name ++ s = '{' :: '{' :: (name ++ '}' :: '}' :: s) := by
  simp [token]

theorem placeholder_token {name : List Char} (h : IsName name) (s : List Char) :
    placeholder (token name ++ s) = some (name, name.length + 4) := by
  rw [token_append]
  simp only [placeholder, Text.takeWhile_stop h.2, Text.dropWhile_stop h.2]
  simp [h.1]

/-- What is recognised is a token of a proper name. -/
theorem placeholder_eq_some {s name : List Char} {width : Nat}
    (h : placeholder s = some (name, width)) :
    IsName name ∧ width = name.length + 4 ∧ token name <+: s := by
  unfold placeholder at h
  split at h
  · rename_i t
    simp only at h
    split at h
    · rename_i rest hrest
      split at h
      · cases h
      · rename_i hne
        obtain ⟨rfl, rfl⟩ : t.takeWhile (· != '}') = name ∧ _ = width := by simpa using h
        refine ⟨⟨by simpa using hne, fun hc => ?_⟩, rfl, ?_⟩
        · simpa using List.mem_takeWhile_imp hc
        · refine ⟨rest, ?_⟩
          rw [token_append, ← hrest, List.takeWhile_append_dropWhile]
    · cases h
  · cases h

theorem placeholder_eq_none_iff {s : List Char} :
    placeholder s = none ↔ ∀ name, IsName name → ¬ token name <+: s := by
  constructor
  · rintro h name hname ⟨rest, rfl⟩
    rw [placeholder_token hname] at h
    cases h
  · intro h
    cases hr : placeholder s with
    | none => rfl
    | some found =>
        obtain ⟨name, width⟩ := found
        obtain ⟨hname, _, hp⟩ := placeholder_eq_some hr
        exact absurd hp (h name hname)

variable (image : List Char → List Char)

theorem fill_nil : fill image [] = [] := rfl

theorem fill_token {name : List Char} (h : IsName name) (s : List Char) :
    fill image (token name ++ s) = image name ++ fill image s := by
  have hr := placeholder_token h s
  rw [token_append] at hr ⊢
  rw [fill, Text.replaceHits_of_hit image hr]
  simp [fill]

theorem fill_cons {c : Char} {s : List Char} (h : ∀ name, IsName name → ¬ token name <+: c :: s) :
    fill image (c :: s) = c :: fill image s :=
  Text.replaceHits_of_plain image (placeholder_eq_none_iff.mpr h)

theorem hits_token {name : List Char} (h : IsName name) (s : List Char) :
    Text.hits placeholder (token name ++ s) = name :: Text.hits placeholder s := by
  have hr := placeholder_token h s
  rw [token_append] at hr ⊢
  rw [Text.hits, Text.pieces_of_hit hr]
  simp [Text.hits, Text.Piece.hit?]

theorem hits_cons {c : Char} {s : List Char} (h : ∀ name, IsName name → ¬ token name <+: c :: s) :
    Text.hits placeholder (c :: s) = Text.hits placeholder s :=
  Text.hits_append [c] s fun b hb hne => by
    obtain rfl : b = [c] := by
      rcases List.suffix_cons_iff.mp hb with hb | hb
      · exact hb
      · exact absurd (List.suffix_nil.mp hb) hne
    exact placeholder_eq_none_iff.mpr h

/-- A stretch in which no placeholder begins stays as it is. -/
theorem fill_append (s rest : List Char)
    (h : ∀ b, b <:+ s → b ≠ [] → ∀ name, IsName name → ¬ token name <+: b ++ rest) :
    fill image (s ++ rest) = s ++ fill image rest :=
  Text.replaceHits_append image s rest fun b hb hne => placeholder_eq_none_iff.mpr (h b hb hne)

/-- A text without placeholders stays as it is. -/
theorem fill_of_no_token {s : List Char} (h : ∀ name, IsName name → ¬ token name <:+: s) :
    fill image s = s := by
  have hs := fill_append image s [] fun b hb _ name hname hp =>
    h name hname ((by simpa using hp : token name <+: b).isInfix.trans hb.isInfix)
  simpa [fill_nil] using hs

theorem hits_of_no_token {s : List Char} (h : ∀ name, IsName name → ¬ token name <:+: s) :
    Text.hits placeholder s = [] :=
  Text.hits_eq_nil s fun _ hb _ => placeholder_eq_none_iff.mpr fun name hname hp =>
    h name hname (hp.isInfix.trans hb.isInfix)

theorem names_of_no_token {html : String}
    (h : ∀ name, IsName name → ¬ token name <:+: html.toList) : names html = [] := by
  rw [names, hits_of_no_token h]
  rfl

/-- Induction along the placeholders of a text. -/
theorem fill_induction {motive : List Char → Prop} (nil : motive [])
    (plain : ∀ c s, (∀ name, IsName name → ¬ token name <+: c :: s) → motive s → motive (c :: s))
    (hit : ∀ name s, IsName name → motive s → motive (token name ++ s)) (s : List Char) :
    motive s := by
  refine Text.scan_induction placeholder nil
    (fun c s h => plain c s (placeholder_eq_none_iff.mp h)) (fun c s name width h ih => ?_) s
  obtain ⟨hname, rfl, rest, hrest⟩ := placeholder_eq_some h
  rw [← hrest]
  rw [token_append] at hrest
  obtain ⟨rfl, rfl⟩ : '{' = c ∧ '{' :: (name ++ '}' :: '}' :: rest) = s := by simpa using hrest
  exact hit name rest hname (by simpa using ih)

/-- Only the images of the placeholders in a text matter. -/
theorem fill_congr {image image' : List Char → List Char} {s : List Char}
    (h : ∀ name ∈ Text.hits placeholder s, image name = image' name) :
    fill image s = fill image' s := by
  induction s using fill_induction with
  | nil => rfl
  | plain c s hs ih =>
      rw [hits_cons hs] at h
      rw [fill_cons _ hs, fill_cons _ hs, ih h]
  | hit name s hname ih =>
      rw [hits_token hname] at h
      rw [fill_token _ hname, fill_token _ hname, h name List.mem_cons_self,
        ih fun other hm => h other (List.mem_cons_of_mem name hm)]

end Receipts.Template
