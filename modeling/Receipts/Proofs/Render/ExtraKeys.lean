import Receipts.Proofs.Render.Expansion
import Receipts.Proofs.Render.Filling

/-!
# Keys that nothing asks for

A key whose token never comes up is not looked at, but it counts: rendering has a round for each
key, so an extra key grants one more round to the others. That changes nothing where the rounds
leave no supplied token, as they do for values without cycles. In a cycle it is one more turn. Nor
is it enough that the token stands neither in the template nor in a value, since replacing other
tokens can put it together.
-/

namespace Receipts

open Template (IsKey WellFormed token)
open Text (replaceAll)

/-- One supplied token gives way to its value, or to nothing, wherever it stands. -/
inductive Rewrites (supplies : List Supply) : List Char → List Char → Prop
  | put {supply : Supply} (text : List Char) : supply ∈ supplies →
      Rewrites supplies text (replaceAll (token supply.1) supply.2 text)
  | remove {supply : Supply} (text : List Char) : supply ∈ supplies →
      Rewrites supplies text (replaceAll (token supply.1) [] text)

/-- Whether the token of a key is in no text that replacements and removals lead to. -/
def NeverStands (supplies : List Supply) (key text : List Char) : Prop :=
  ∀ reached, Relation.ReflTransGen (Rewrites supplies) text reached → ¬ token key <:+: reached

variable {supplies left right : List Supply} {extra : Supply} {key text : List Char}

theorem NeverStands.absent (h : NeverStands supplies key text) : ¬ token key <:+: text :=
  h text .refl

theorem NeverStands.put (h : NeverStands supplies key text) {supply : Supply}
    (hm : supply ∈ supplies) :
    NeverStands supplies key (replaceAll (token supply.1) supply.2 text) :=
  fun reached hreached => h reached (.head (.put text hm) hreached)

theorem NeverStands.remove (h : NeverStands supplies key text) {supply : Supply}
    (hm : supply ∈ supplies) : NeverStands supplies key (replaceAll (token supply.1) [] text) :=
  fun reached hreached => h reached (.head (.remove text hm) hreached)

/-- A token never stands where a property that excludes it holds and is kept. -/
theorem neverStands_of_invariant {P : List Char → Prop}
    (hput : ∀ supply ∈ supplies, ∀ t, P t → P (replaceAll (token supply.1) supply.2 t))
    (hremove : ∀ supply ∈ supplies, ∀ t, P t → P (replaceAll (token supply.1) [] t))
    (hnot : ∀ t, P t → ¬ token key <:+: t) (ht : P text) : NeverStands supplies key text := by
  intro reached hreached
  refine hnot reached ?_
  induction hreached with
  | refl => exact ht
  | tail _ hstep ih =>
      cases hstep with
      | put _ hm => exact hput _ hm _ ih
      | remove _ hm => exact hremove _ hm _ ih

/-! ## The phases pass over the extra key -/

theorem presentToken?_extra (h : ¬ token extra.1 <:+: text) :
    presentToken? (left ++ extra :: right) text = presentToken? (left ++ right) text := by
  have hocc := Text.occurs_eq_false_iff.mpr h
  simp [presentToken?, List.find?_append, hocc]

theorem substitute_extra (h : NeverStands (left ++ right) extra.1 text) :
    substitute (left ++ extra :: right) text = substitute (left ++ right) text := by
  -- The keys on the left have had their turn when the extra key is looked for.
  have hleft : NeverStands (left ++ right) extra.1 (substitute left text) :=
    substitute_invariant (fun supply hm t ht => ht.put (List.mem_append_left right hm)) h
  simp only [substitute, List.foldl_append, List.foldl_cons]
  rw [Text.replaceAll_of_not_infix _ (Template.token_ne_nil _)]
  exact hleft.absent

theorem substituteRounds_extra (rounds : Nat) (h : NeverStands (left ++ right) extra.1 text) :
    substituteRounds (left ++ extra :: right) rounds text
      = substituteRounds (left ++ right) rounds text := by
  induction rounds generalizing text with
  | zero => rfl
  | succ rounds ih =>
      have hnext : NeverStands (left ++ right) extra.1 (substitute (left ++ right) text) :=
        substitute_invariant (fun supply hm t ht => ht.put hm) h
      rw [substituteRounds, substituteRounds, substitute_extra h,
        presentToken?_extra hnext.absent, ih hnext]

theorem removeTokens_extra (h : NeverStands (left ++ right) extra.1 text) :
    removeTokens (left ++ extra :: right) text = removeTokens (left ++ right) text := by
  fun_induction removeTokens (left ++ right) text with
  | case1 text hnone =>
      exact removeTokens_of_none ((presentToken?_extra h.absent).trans hnone)
  | case2 text found hfound ih =>
      obtain ⟨supply, hm, rfl⟩ := List.mem_map.mp (List.mem_of_find?_eq_some hfound)
      rw [removeTokens_of_some ((presentToken?_extra h.absent).trans hfound)]
      exact ih (h.remove hm)

/-! ## Rendering with an extra key -/

variable {values : FormValues}

theorem FormValues.supplies_insert {key : String} (value : String)
    (h : values.contains key = false) :
    ∃ left right, values.supplies = left ++ right ∧
      (values.insert key value).supplies = left ++ (key.toList, value.toList) :: right := by
  obtain ⟨before, after, hentries, hinsert⟩ := FormValues.entries_insert_of_new value h
  exact ⟨_, _, by rw [FormValues.supplies, hentries, List.map_append],
    by rw [FormValues.supplies, hinsert, List.map_append, List.map_cons]⟩

/-- The characters of a template rendered with a number of rounds. -/
def renderedIn (rounds : Nat) (template : String) (values : FormValues) : List Char :=
  blankPlaceholders
    (removeTokens values.supplies (substituteRounds values.supplies rounds template.toList))

theorem toList_render_eq_renderedIn (template : String) (values : FormValues) :
    (render template values).toList = renderedIn (max 1 values.size) template values := by
  rw [toList_render, unblanked, FormValues.length_supplies, renderedIn]

theorem toList_render_insert (template : String) {key : String} (value : String)
    (hnew : values.contains key = false)
    (hnever : NeverStands values.supplies key.toList template.toList) :
    (render template (values.insert key value)).toList
      = renderedIn (values.size + 1) template values := by
  obtain ⟨left, right, hold, hinsert⟩ := FormValues.supplies_insert value hnew
  have hsize : max 1 (left ++ (key.toList, value.toList) :: right).length = values.size + 1 := by
    rw [← FormValues.length_supplies, hold]
    simp
    omega
  rw [hold] at hnever
  have hrounds : NeverStands (left ++ right) key.toList
      (substituteRounds (left ++ right) (values.size + 1) template.toList) :=
    substituteRounds_invariant (fun supply hm t ht => ht.put hm) _ hnever
  rw [toList_render, unblanked, hinsert, hsize, renderedIn, hold,
    substituteRounds_extra _ hnever, removeTokens_extra hrounds]

theorem render_insert_of_none (template : String) {key : String} (value : String)
    (hnew : values.contains key = false)
    (hnever : NeverStands values.supplies key.toList template.toList)
    (hnone : presentToken? values.supplies
      (substituteRounds values.supplies (max 1 values.size) template.toList) = none) :
    render template (values.insert key value) = render template values := by
  refine String.toList_injective ?_
  rw [toList_render_insert template value hnew hnever, toList_render_eq_renderedIn, renderedIn,
    renderedIn, substituteRounds_of_none_at hnone (by omega)]

/-! ## Keys without braces in well-formed texts -/

theorem neverStands_of_wellFormed (hvalues : values.IsWellFormed) (hkey : IsKey key)
    (hnot : ∀ k value, values.get? k = some value → ¬ token key <:+: value.toList)
    (htext : WellFormed text) (h : ¬ token key <:+: text) :
    NeverStands values.supplies key text := by
  have hsupply : ∀ supply ∈ values.supplies,
      IsKey supply.1 ∧ WellFormed supply.2 ∧ ¬ token key <:+: supply.2 := by
    intro supply hm
    have hget := FormValues.mem_supplies_iff.mp hm
    exact ⟨by simpa using hvalues.keys _ (FormValues.contains_iff_exists.mpr ⟨_, hget⟩),
      by simpa using hvalues.values _ _ hget, by simpa using hnot _ _ hget⟩
  have hreplace : ∀ supply ∈ values.supplies, ∀ inserted, WellFormed inserted →
      ¬ token key <:+: inserted → ∀ t, WellFormed t ∧ ¬ token key <:+: t →
      WellFormed (replaceAll (token supply.1) inserted t) ∧
        ¬ token key <:+: replaceAll (token supply.1) inserted t := by
    rintro supply hm inserted hinserted hfree t ⟨ht, hin⟩
    have hother := (hsupply supply hm).1
    refine ⟨ht.replaceAll hother hinserted, fun hnew => ?_⟩
    rcases Template.token_infix_replaceAll hother hkey ht hinserted hnew with ⟨h, -⟩ | ⟨-, h⟩
    · exact hin h
    · exact hfree h
  refine neverStands_of_invariant (P := fun t => WellFormed t ∧ ¬ token key <:+: t)
    (fun supply hm => hreplace supply hm _ (hsupply supply hm).2.1 (hsupply supply hm).2.2)
    (fun supply hm => hreplace supply hm [] (Template.wellFormed_of_chunk (.plain []) ?_) ?_)
    (fun _ ht => ht.2) ⟨htext, h⟩
  · exact Template.isPlain_nil
  · exact fun hin => Template.token_ne_nil key (List.infix_nil.mp hin)

theorem presentToken?_rounds_of_acyclic {template : String}
    (htemplate : WellFormed template.toList) (hvalues : values.IsWellFormed)
    (hacyclic : values.Acyclic) :
    presentToken? values.supplies
      (substituteRounds values.supplies (max 1 values.size) template.toList) = none :=
  (expands_rounds hvalues hacyclic htemplate (fun _ _ => FormValues.mem_supplies_iff)
    (le_max_right 1 values.size)).1

/-! ## One more round -/

/-- An extra key whose token never stands grants one more round and does nothing else. If the
rounds of the other keys leave no supplied token, it changes nothing. In well-formed texts the
token never stands if it is neither in the template nor in a value, and without cycles the rounds
leave nothing. -/
theorem render_insert (template : String) (values : FormValues) (key value : String)
    (hnew : values.contains key = false) :
    (NeverStands values.supplies key.toList template.toList →
      (render template (values.insert key value)).toList
        = renderedIn (values.size + 1) template values ∧
      (presentToken? values.supplies
          (substituteRounds values.supplies (max 1 values.size) template.toList) = none →
        render template (values.insert key value) = render template values)) ∧
    (WellFormed template.toList → values.IsWellFormed → IsKey key.toList →
      ¬ token key.toList <:+: template.toList →
      (∀ k v, values.get? k = some v → ¬ token key.toList <:+: v.toList) →
      (render template (values.insert key value)).toList
        = renderedIn (values.size + 1) template values ∧
      (values.Acyclic → render template (values.insert key value) = render template values)) := by
  refine ⟨fun hnever => ⟨toList_render_insert template value hnew hnever,
    render_insert_of_none template value hnew hnever⟩, ?_⟩
  intro htemplate hvalues hkey hnot hnots
  have hnever := neverStands_of_wellFormed hvalues hkey hnots htemplate hnot
  refine ⟨toList_render_insert template value hnew hnever, fun hacyclic => ?_⟩
  exact render_insert_of_none template value hnew hnever
    (presentToken?_rounds_of_acyclic htemplate hvalues hacyclic)

/-- A value that asks for itself. -/
def selfValues : FormValues where
  entries := [("A", "x\x7b\x7bA\x7d\x7d")]
  ascending := by decide

/-- A template that asks for it. -/
def selfTemplate : String :=
  "\x7b\x7bA\x7d\x7d"

theorem neverStands_selfTemplate :
    NeverStands selfValues.supplies "B".toList selfTemplate.toList := by
  refine neverStands_of_wellFormed ⟨fun key h => ?_, fun key value h => ?_⟩ (by decide +kernel)
    (FormValues.forall_get?_iff.mpr (by decide +kernel))
    ⟨[.slot ['A']], by decide, by decide +kernel⟩ (by decide +kernel)
  · have hkeys : ∀ k ∈ selfValues.keys, IsKey k.toList := by decide +kernel
    exact hkeys key (FormValues.contains_iff_mem_keys.mp h)
  · obtain ⟨rfl, rfl⟩ : key = "A" ∧ value = "x\x7b\x7bA\x7d\x7d" := by
      simpa [selfValues] using FormValues.get?_eq_some_iff.mp h
    exact ⟨[.plain ['x'], .slot ['A']], by decide +kernel, by decide +kernel⟩

/-- If the rounds leave tokens of one key only, these are removed. -/
theorem renderedIn_of_left {rounds : Nat} {template : String} (reached found out : List Char)
    (hrounds : substituteRounds values.supplies rounds template.toList = reached)
    (hleft : presentToken? values.supplies reached = some found)
    (hout : replaceAll found [] reached = out) (hnone : presentToken? values.supplies out = none) :
    renderedIn rounds template values = blankPlaceholders out := by
  rw [renderedIn, hrounds, removeTokens_of_some hleft, hout, removeTokens_of_none hnone]

theorem renderedIn_two_selfTemplate : renderedIn 2 selfTemplate selfValues = ['x', 'x'] := by
  rw [renderedIn_of_left "xx\x7b\x7bA\x7d\x7d".toList (token ['A']) ['x', 'x']
    (by decide +kernel) (by decide +kernel) (by decide +kernel) (by decide +kernel)]
  decide +kernel

theorem render_insert_selfTemplate :
    selfValues.contains "B" = false ∧
    NeverStands selfValues.supplies "B".toList selfTemplate.toList ∧
    (render selfTemplate (selfValues.insert "B" "")).toList = ['x', 'x'] := by
  have hnew : selfValues.contains "B" = false := by decide +kernel
  refine ⟨hnew, neverStands_selfTemplate, ?_⟩
  have hrender := (render_insert selfTemplate selfValues "B" "" hnew).1 neverStands_selfTemplate
  rw [hrender.1]
  exact renderedIn_two_selfTemplate

/-- Whether an extra key whose token stands neither in the template nor in a value changes nothing
wherever a condition holds. -/
def IgnoresWhere (condition : String → FormValues → String → Prop) : Prop :=
  ∀ (template : String) (values : FormValues) (key value : String),
    values.contains key = false → ¬ token key.toList <:+: template.toList →
    (∀ k v, values.get? k = some v → ¬ token key.toList <:+: v.toList) →
    condition template values key →
    render template (values.insert key value) = render template values

/-- An extra key is not always ignored: with it a cycle turns once more, and where no token is left
its own can be put together. -/
theorem not_ignoresWhere :
    ¬ IgnoresWhere (fun _ _ _ => True) ∧
    ¬ IgnoresWhere (fun template values key =>
      NeverStands values.supplies key.toList template.toList) ∧
    ¬ IgnoresWhere (fun template values _ => presentToken? values.supplies
      (substituteRounds values.supplies (max 1 values.size) template.toList) = none) := by
  have hcycle : ∀ condition, condition selfTemplate selfValues "B" → ¬ IgnoresWhere condition := by
    intro condition hcondition h
    have hsame := h selfTemplate selfValues "B" "" (by decide +kernel) (by decide +kernel)
      (FormValues.forall_get?_iff.mpr (by decide +kernel)) hcondition
    have hchars := congrArg String.toList hsame
    rw [toList_render_insert _ _ (by decide +kernel) neverStands_selfTemplate,
      toList_render_eq_renderedIn, show selfValues.size + 1 = 2 from rfl,
      renderedIn_two_selfTemplate, show max 1 selfValues.size = 1 from rfl,
      renderedIn_of_left "x\x7b\x7bA\x7d\x7d".toList (token ['A']) ['x'] (by decide +kernel)
        (by decide +kernel) (by decide +kernel) (by decide +kernel)] at hchars
    exact absurd hchars (by decide +kernel)
  have hsplice : ∀ condition, condition tornTemplate emptyValue "A" →
      ¬ IgnoresWhere condition := by
    intro condition hcondition h
    have hsame := h tornTemplate emptyValue "A" "x" (by decide +kernel) (by decide +kernel)
      (FormValues.forall_get?_iff.mpr (by decide +kernel)) hcondition
    have hchars := congrArg String.toList hsame
    rw [toList_render_of_none (show 2 ≤ _ by decide +kernel) (by decide +kernel),
      toList_render_of_pass "\x7b\x7bA\x7d\x7d".toList (by decide +kernel)
        (by decide +kernel)] at hchars
    exact absurd hchars (by decide +kernel)
  exact ⟨hcycle _ trivial, hcycle _ neverStands_selfTemplate, hsplice _ (by decide +kernel)⟩

end Receipts
