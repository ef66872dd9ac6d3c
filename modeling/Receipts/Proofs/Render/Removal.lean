import Mathlib.Logic.Function.Iterate
import Receipts.Proofs.Render.Phases

/-!
# The removal of tokens

Removal goes in passes. Each pass takes out, wherever it stands, the first of the supplied tokens
that are still present, and what stood on both sides of it may join into a token that was taken out
before. Only the length of the text bounds the passes: a token has four characters or more. The
passes lead to one text, whatever the keys are, and no supplied token is left in it.
-/

namespace Receipts

open Template (token)
open Text (replaceAll)

/-! ## Passes -/

/-- The first of the supplied tokens that stand in a text. -/
def IsFirstPresent (supplies : List Supply) (text found : List Char) : Prop :=
  ∃ before supply after, supplies = before ++ supply :: after ∧ found = token supply.1 ∧
    found <:+: text ∧ ∀ other ∈ before, ¬ token other.1 <:+: text

/-- Passes over a text that take out one token each. They need not go on to the end. -/
inductive Removes (supplies : List Supply) : List Char → List (List Char) → List Char → Prop
  | stop (text : List Char) : Removes supplies text [] text
  | pass {text found rest : List Char} {taken : List (List Char)}
      (first : IsFirstPresent supplies text found)
      (more : Removes supplies (replaceAll found [] text) taken rest) :
      Removes supplies text (found :: taken) rest

variable {supplies : List Supply} {text found rest : List Char} {taken : List (List Char)}

theorem presentToken?_eq_some_iff :
    presentToken? supplies text = some found ↔ IsFirstPresent supplies text found := by
  rw [presentToken?, List.find?_map, Option.map_eq_some_iff]
  constructor
  · rintro ⟨supply, hfound, rfl⟩
    obtain ⟨hpresent, before, after, rfl, hbefore⟩ := List.find?_eq_some_iff_append.mp hfound
    refine ⟨before, supply, after, rfl, rfl, Text.occurs_iff.mp hpresent, fun other hother => ?_⟩
    exact Text.occurs_eq_false_iff.mp (by simpa using hbefore other hother)
  · rintro ⟨before, supply, after, rfl, rfl, hpresent, hbefore⟩
    refine ⟨supply, List.find?_eq_some_iff_append.mpr
      ⟨Text.occurs_iff.mpr hpresent, before, after, rfl, fun other hother => ?_⟩, rfl⟩
    simpa using Text.occurs_eq_false_iff.mpr (hbefore other hother)

/-! ## What passes do to the length -/

theorem IsFirstPresent.length_add_four_le (h : IsFirstPresent supplies text found) :
    (replaceAll found [] text).length + 4 ≤ text.length := by
  obtain ⟨-, supply, -, -, rfl, hpresent, -⟩ := h
  have hshorter := Text.length_replaceAll_nil_add_le (Template.token_ne_nil supply.1)
    (Text.occurs_iff.mpr hpresent)
  rw [Template.length_token] at hshorter
  omega

theorem Removes.length_add_le (h : Removes supplies text taken rest) :
    rest.length + 4 * taken.length ≤ text.length := by
  induction h with
  | stop text => exact Nat.le_refl _
  | pass first _ ih =>
      have hpass := first.length_add_four_le
      rw [List.length_cons]
      omega

/-! ## Where passes lead -/

theorem IsFirstPresent.removeTokens_eq (h : IsFirstPresent supplies text found) :
    removeTokens supplies (replaceAll found [] text) = removeTokens supplies text :=
  (removeTokens_of_some (presentToken?_eq_some_iff.mpr h)).symm

/-- What is still to be removed after some passes leads where the whole text does. -/
theorem Removes.removeTokens_eq (h : Removes supplies text taken rest) :
    removeTokens supplies rest = removeTokens supplies text := by
  induction h with
  | stop text => rfl
  | pass first _ ih => exact ih.trans first.removeTokens_eq

/-- Passes that leave no supplied token have come to the end. -/
theorem Removes.eq_removeTokens (h : Removes supplies text taken rest)
    (hnone : ∀ supply ∈ supplies, ¬ token supply.1 <:+: rest) :
    rest = removeTokens supplies text := by
  rw [← h.removeTokens_eq, removeTokens_of_none (presentToken?_eq_none_iff.mpr hnone)]

theorem exists_removes_removeTokens (supplies : List Supply) (text : List Char) :
    ∃ taken, Removes supplies text taken (removeTokens supplies text) := by
  fun_induction removeTokens supplies text with
  | case1 text hnone => exact ⟨[], .stop text⟩
  | case2 text found hfound ih =>
      obtain ⟨taken, hmore⟩ := ih
      exact ⟨found :: taken, .pass (presentToken?_eq_some_iff.mp hfound) hmore⟩

/-! ## Tokens that form anew -/

/-- Empty tokens, one put into the other. -/
def nestedTokens (n : Nat) : List Char :=
  token^[n] []

theorem nestedTokens_zero : nestedTokens 0 = [] := rfl

theorem nestedTokens_succ (n : Nat) : nestedTokens (n + 1) = token (nestedTokens n) :=
  Function.iterate_succ_apply' token n []

theorem nestedTokens_append (n : Nat) (closing : List Char) :
    nestedTokens (n + 1) ++ closing = '{' :: '{' :: (nestedTokens n ++ '}' :: '}' :: closing) := by
  simp [nestedTokens_succ, token]

theorem length_nestedTokens (n : Nat) : (nestedTokens n).length = 4 * n := by
  induction n with
  | zero => rfl
  | succ n ih =>
      rw [nestedTokens_succ, Template.length_token, ih]
      omega

theorem token_infix_nestedTokens (n : Nat) : token [] <:+: nestedTokens (n + 1) := by
  induction n with
  | zero => exact List.infix_rfl
  | succ n ih =>
      rw [nestedTokens_succ]
      exact ih.trans ⟨['{', '{'], ['}', '}'], rfl⟩

/-- Of nested tokens the innermost one goes, and closing braces behind them stay. -/
theorem replaceAll_nestedTokens (n : Nat) {closing : List Char} (h : '{' ∉ closing) :
    replaceAll (token []) [] (nestedTokens (n + 1) ++ closing) = nestedTokens n ++ closing := by
  have hne := Template.token_ne_nil []
  induction n generalizing closing with
  | zero =>
      have hnone : ¬ token [] <:+: closing := fun hin => h (hin.subset List.mem_cons_self)
      rw [nestedTokens_succ, nestedTokens_zero, Text.replaceAll_append_left [] hne,
        Text.replaceAll_of_not_infix [] hne hnone]
  | succ n ih =>
      -- Two more opening braces follow, so no empty token begins at the first two.
      have hfirst :
          ¬ token [] <+: '{' :: '{' :: (nestedTokens (n + 1) ++ '}' :: '}' :: closing) := by
        simp [nestedTokens_append, token]
      have hsecond : ¬ token [] <+: '{' :: (nestedTokens (n + 1) ++ '}' :: '}' :: closing) := by
        simp [nestedTokens_append, token]
      rw [nestedTokens_append, Text.replaceAll_cons [] hne hfirst,
        Text.replaceAll_cons [] hne hsecond, ih (by simpa using h), nestedTokens_append]

/-- Every pass over nested tokens puts the token together anew that it takes out, so the passes are
as many as there are tokens. -/
theorem removes_nestedTokens (value : List Char) (n : Nat) :
    Removes [([], value)] (nestedTokens n) (List.replicate n (token [])) [] := by
  induction n with
  | zero => exact .stop []
  | succ n ih =>
      have hfirst : IsFirstPresent [([], value)] (nestedTokens (n + 1)) (token []) :=
        ⟨[], ([], value), [], rfl, rfl, token_infix_nestedTokens n, by simp⟩
      have hpass : replaceAll (token []) [] (nestedTokens (n + 1)) = nestedTokens n := by
        simpa using replaceAll_nestedTokens n (List.not_mem_nil (a := '{'))
      exact .pass hfirst (hpass ▸ ih)

/-- Removal ends, for every text and all supplies. Passes over a text are at most a quarter as many
as its characters. They lead to the text that `removeTokens` gives, which has no supplied token, and
passes that leave none lead nowhere else. Rendering blanks what they make of the text that the
rounds leave. Nested tokens attain the bound, by passes that take out one token over and over. -/
theorem removal_ends (supplies : List Supply) (text : List Char) :
    (∀ taken rest, Removes supplies text taken rest →
      taken.length ≤ text.length / 4 ∧
      ((∀ supply ∈ supplies, ¬ token supply.1 <:+: rest) → rest = removeTokens supplies text)) ∧
    (∀ supply ∈ supplies, ¬ token supply.1 <:+: removeTokens supplies text) ∧
    (∃ taken, Removes supplies text taken (removeTokens supplies text)) ∧
    (∀ template,
      renderChars template supplies = blankPlaceholders (unblanked template supplies) ∧
      ∃ taken, Removes supplies (substituteRounds supplies (max 1 supplies.length) template) taken
        (unblanked template supplies)) ∧
    ∀ value n, (nestedTokens n).length = 4 * n ∧
      Removes [([], value)] (nestedTokens n) (List.replicate n (token [])) [] := by
  refine ⟨fun taken rest h => ⟨?_, h.eq_removeTokens⟩, ?_, ?_, fun template => ⟨?_, ?_⟩,
    fun value n => ⟨length_nestedTokens n, removes_nestedTokens value n⟩⟩
  · have hlength := h.length_add_le
    omega
  · exact presentToken?_eq_none_iff.mp (presentToken?_removeTokens supplies text)
  · exact exists_removes_removeTokens supplies text
  · exact renderChars_eq template supplies
  · exact exists_removes_removeTokens supplies _

end Receipts
