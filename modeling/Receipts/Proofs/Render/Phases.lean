import Receipts.Proofs.FormValues.Lookup
import Receipts.Proofs.Text.Scan
import Receipts.Render

/-!
# The phases of rendering

What one replacement preserves, the rounds of substitution and the removal of tokens preserve. The
text that removal leaves has no supplied token, whatever the keys and values are. Nothing is said
here of how many rounds it takes until no token is left.
-/

namespace Receipts

open Text (occurs_iff replaceAll)

theorem FormValues.mem_supplies_iff {values : FormValues} {key value : List Char} :
    (key, value) ∈ values.supplies
      ↔ values.get? (String.ofList key) = some (String.ofList value) := by
  rw [FormValues.get?_eq_some_iff, FormValues.supplies, List.mem_map]
  constructor
  · rintro ⟨⟨k, v⟩, hm, heq⟩
    obtain ⟨rfl, rfl⟩ : k.toList = key ∧ v.toList = value := by simpa using heq
    simpa using hm
  · intro hm
    exact ⟨_, hm, by simp⟩

theorem FormValues.length_supplies (values : FormValues) :
    values.supplies.length = values.size := by
  simp [FormValues.supplies, FormValues.size]

variable {supplies : List Supply} {P : List Char → Prop} {text : List Char}

theorem presentToken?_eq_none_iff : presentToken? supplies text = none
    ↔ ∀ supply ∈ supplies, ¬ Template.token supply.1 <:+: text := by
  simp only [presentToken?, List.find?_eq_none, List.forall_mem_map, occurs_iff]

/-- What every replacement preserves, a pass over the keys preserves. -/
theorem substitute_invariant
    (h : ∀ supply ∈ supplies, ∀ t, P t → P (replaceAll (Template.token supply.1) supply.2 t))
    (ht : P text) : P (substitute supplies text) := by
  induction supplies generalizing text with
  | nil => exact ht
  | cons supply supplies ih =>
      exact ih (fun s hs => h s (List.mem_cons_of_mem _ hs)) (h supply List.mem_cons_self text ht)

theorem substituteRounds_invariant
    (h : ∀ supply ∈ supplies, ∀ t, P t → P (replaceAll (Template.token supply.1) supply.2 t))
    (n : Nat) (ht : P text) : P (substituteRounds supplies n text) := by
  induction n generalizing text with
  | zero => exact ht
  | succ n ih =>
      have hnext := substitute_invariant h ht
      rw [substituteRounds]
      split
      · exact ih hnext
      · exact hnext

/-- What every removal preserves, removing all tokens preserves. -/
theorem removeTokens_invariant
    (h : ∀ supply ∈ supplies, ∀ t, P t → P (replaceAll (Template.token supply.1) [] t))
    (ht : P text) : P (removeTokens supplies text) := by
  fun_induction removeTokens supplies text with
  | case1 text hnone => exact ht
  | case2 text token htoken ih =>
      obtain ⟨supply, hsupply, rfl⟩ := List.mem_map.mp (List.mem_of_find?_eq_some htoken)
      exact ih (h supply hsupply text ht)

theorem removeTokens_of_none (h : presentToken? supplies text = none) :
    removeTokens supplies text = text := by
  rw [removeTokens]
  split
  · rfl
  · rename_i token htoken
    rw [h] at htoken
    cases htoken

theorem removeTokens_of_some {found : List Char} (h : presentToken? supplies text = some found) :
    removeTokens supplies text = removeTokens supplies (replaceAll found [] text) := by
  rw [removeTokens]
  split
  · rename_i hnone
    rw [h] at hnone
    cases hnone
  · rename_i found' hsome
    obtain rfl : found' = found := Option.some.inj (hsome.symm.trans h)
    rfl

theorem presentToken?_removeTokens (supplies : List Supply) (text : List Char) :
    presentToken? supplies (removeTokens supplies text) = none := by
  fun_induction removeTokens supplies text with
  | case1 text hnone => exact hnone
  | case2 text token htoken ih => exact ih

/-- A text without supplied tokens goes through substitution unchanged. -/
theorem substitute_of_none (h : presentToken? supplies text = none) :
    substitute supplies text = text := by
  rw [presentToken?_eq_none_iff] at h
  induction supplies with
  | nil => rfl
  | cons supply supplies ih =>
      have hsupply := h supply List.mem_cons_self
      have hrest := ih fun s hs => h s (List.mem_cons_of_mem _ hs)
      rw [substitute, List.foldl_cons,
        Text.replaceAll_of_not_infix _ (Template.token_ne_nil _) hsupply]
      exact hrest

theorem substituteRounds_of_none (h : presentToken? supplies text = none) (n : Nat) :
    substituteRounds supplies n text = text := by
  cases n with
  | zero => rfl
  | succ n => simp [substituteRounds, substitute_of_none h, h]

/-- Stopping early is no different from going on, so rounds are passes one after the other. -/
theorem substituteRounds_eq_iterate (supplies : List Supply) (n : Nat) (text : List Char) :
    substituteRounds supplies n text = (substitute supplies)^[n] text := by
  induction n generalizing text with
  | zero => rfl
  | succ n ih =>
      rw [substituteRounds, Function.iterate_succ_apply, ← ih]
      split
      · rfl
      · rename_i hnone
        exact (substituteRounds_of_none (by simpa using hnone) n).symm

/-- Once no supplied token is left, further rounds change nothing. -/
theorem substituteRounds_of_none_at {n m : Nat}
    (h : presentToken? supplies (substituteRounds supplies n text) = none) (hnm : n ≤ m) :
    substituteRounds supplies m text = substituteRounds supplies n text := by
  induction m, hnm using Nat.le_induction with
  | base => rfl
  | succ m _ ih =>
      rw [substituteRounds_eq_iterate, Function.iterate_succ_apply', ← substituteRounds_eq_iterate,
        ih, substitute_of_none h]

/-- The text that rendering hands to blanking. -/
def unblanked (template : List Char) (supplies : List Supply) : List Char :=
  removeTokens supplies (substituteRounds supplies (max 1 supplies.length) template)

theorem renderChars_eq (template : List Char) (supplies : List Supply) :
    renderChars template supplies = blankPlaceholders (unblanked template supplies) := rfl

theorem toList_render (template : String) (values : FormValues) :
    (render template values).toList
      = blankPlaceholders (unblanked template.toList values.supplies) := by
  rw [render, String.toList_ofList, renderChars_eq]

/-- Where some of the rounds leave no supplied token, blanking what they leave renders. -/
theorem toList_render_of_none {template : String} {values : FormValues} {n : Nat}
    (hn : n ≤ max 1 values.supplies.length)
    (hnone : presentToken? values.supplies
      (substituteRounds values.supplies n template.toList) = none) :
    (render template values).toList
      = blankPlaceholders (substituteRounds values.supplies n template.toList) := by
  rw [toList_render, unblanked, substituteRounds_of_none_at hnone hn, removeTokens_of_none hnone]

/-- No supplied token reaches blanking. -/
theorem not_token_infix_unblanked (template : List Char) {supply : Supply}
    (h : supply ∈ supplies) : ¬ Template.token supply.1 <:+: unblanked template supplies :=
  presentToken?_eq_none_iff.mp (presentToken?_removeTokens supplies _) supply h

/-- What replacing a token by its value and removing it both preserve holds of the text that
rendering hands to blanking. -/
theorem unblanked_invariant {template : List Char}
    (hput : ∀ supply ∈ supplies, ∀ t, P t →
      P (replaceAll (Template.token supply.1) supply.2 t))
    (hremove : ∀ supply ∈ supplies, ∀ t, P t → P (replaceAll (Template.token supply.1) [] t))
    (ht : P template) : P (unblanked template supplies) :=
  removeTokens_invariant hremove (substituteRounds_invariant hput _ ht)

end Receipts
