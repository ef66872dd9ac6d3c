import Receipts.Proofs.Template.Scan

/-!
# Successive leftmost placeholders

`Scans` says what it is to take placeholders from the left, one after the other and without
overlap. Every text has exactly one such list, and it is what the scan finds. Of the tokens that
overlap only the outermost is found, but wherever a token of a proper name ends, a found one ends.
-/

namespace Receipts.Template

open Text (hits)

/-- The names of the placeholders of a text, each the leftmost behind the one before. -/
inductive Scans : List Char → List (List Char) → Prop
  | done {s : List Char} : (∀ name, IsName name → ¬ token name <:+: s) → Scans s []
  | next {before name after : List Char} {names : List (List Char)} : IsName name →
      (∀ b, b <:+ before → b ≠ [] → ∀ other, IsName other →
        ¬ token other <+: b ++ (token name ++ after)) →
      Scans after names → Scans (before ++ (token name ++ after)) (name :: names)

theorem Scans.eq_hits {s : List Char} {names : List (List Char)} (h : Scans s names) :
    names = hits placeholder s := by
  induction h with
  | done h => exact (hits_of_no_token h).symm
  | next hname hleftmost _ ih =>
      rw [Text.hits_append _ _ fun b hb hne =>
        placeholder_eq_none_iff.mpr (hleftmost b hb hne), hits_token hname, ← ih]

/-- What does not begin with a token can stand in front of a text that is scanned. -/
theorem Scans.cons {c : Char} {s : List Char} {names : List (List Char)} (h : Scans s names)
    (hc : ∀ name, IsName name → ¬ token name <+: c :: s) : Scans (c :: s) names := by
  cases h with
  | done h =>
      refine .done fun name hname hin => ?_
      rcases List.infix_cons_iff.mp hin with hin | hin
      · exact hc name hname hin
      · exact h name hname hin
  | next hname hleftmost hrest =>
      rw [← List.cons_append]
      refine .next hname (fun b hb hne => ?_) hrest
      rcases List.suffix_cons_iff.mp hb with rfl | hb
      · exact hc
      · exact hleftmost b hb hne

theorem scans_hits (s : List Char) : Scans s (hits placeholder s) := by
  induction s using fill_induction with
  | nil => exact .done fun name _ h => token_ne_nil name (List.infix_nil.mp h)
  | plain c s hc ih =>
      rw [hits_cons hc]
      exact ih.cons hc
  | hit name s hname ih =>
      rw [hits_token hname]
      have hfront : Scans ([] ++ (token name ++ s)) (name :: hits placeholder s) :=
        .next hname (fun b hb hne => absurd (List.suffix_nil.mp hb) hne) ih
      exact hfront

theorem scans_iff {s : List Char} {names : List (List Char)} :
    Scans s names ↔ names = hits placeholder s :=
  ⟨Scans.eq_hits, fun h => h ▸ scans_hits s⟩

/-! ## Tokens that overlap -/

/-- A token that begins inside another, at the front or behind, ends where that one ends. -/
theorem eq_token_of_prefix_append {name key b rest : List Char} (hname : '}' ∉ name)
    (hkey : '}' ∉ key) (hb : b <:+ token name) (hne : b ≠ []) (h : token key <+: b ++ rest) :
    b = token key := by
  obtain ⟨a, ha⟩ := hb
  rw [show token name = ('{' :: '{' :: name) ++ ['}', '}'] by simp [token]] at ha
  rcases List.append_eq_append_iff.mp ha with ⟨u, hu, rfl⟩ | ⟨u, -, hu⟩
  · -- Both texts up to their first closing brace.
    have hfree : '}' ∉ u := fun hm => by
      have hm : '}' ∈ '{' :: '{' :: name := hu ▸ List.mem_append_right a hm
      simp [hname] at hm
    have hopen : '}' ∉ '{' :: '{' :: key := by simp [hkey]
    obtain ⟨r, hr⟩ := h
    have htake := congrArg (List.takeWhile (· != '}')) hr
    rw [token_append, List.append_assoc] at htake
    have hu : '{' :: '{' :: key = u := by
      rw [← Text.takeWhile_stop hopen ('}' :: r), ← Text.takeWhile_stop hfree ('}' :: rest)]
      exact htake
    rw [← hu]
    simp [token]
  · obtain ⟨c, b, rfl⟩ := List.exists_cons_of_ne_nil hne
    obtain ⟨rfl, -⟩ : '{' = c ∧ _ := by simpa [token, List.cons_prefix_cons] using h
    have hm : '{' ∈ ['}', '}'] := hu ▸ List.mem_append_right u List.mem_cons_self
    simp at hm

/-- A token that ends another has a name that ends the name of the other. -/
theorem suffix_of_token_suffix {key name : List Char} (h : token key <:+ token name) :
    key <:+ name := by
  have hkey : key ++ ['}', '}'] <:+ token name :=
    List.IsSuffix.trans ⟨['{', '{'], by simp [token]⟩ h
  have hname : name ++ ['}', '}'] <:+ token name := ⟨['{', '{'], by simp [token]⟩
  have hlen : key.length ≤ name.length := by
    have := h.length_le
    rw [length_token, length_token] at this
    omega
  have hends := List.suffix_of_suffix_length_le hkey hname (by simpa using hlen)
  exact List.suffix_append_self_iff.mp hends

/-- Wherever a token of a proper name ends, the scan finds one that ends there. -/
theorem exists_hit_of_token {s before key after : List Char} (hkey : IsName key)
    (h : s = before ++ (token key ++ after)) :
    ∃ name ∈ hits placeholder s, key <:+ name ∧ token name <:+ before ++ token key := by
  induction s using fill_induction generalizing before with
  | nil => simp [token] at h
  | plain c s hc ih =>
      cases before with
      | nil => exact absurd ⟨after, h.symm⟩ (hc key hkey)
      | cons d before =>
          obtain ⟨rfl, hs⟩ : c = d ∧ s = before ++ (token key ++ after) := by simpa using h
          obtain ⟨name, hmem, hends, hstands⟩ := ih hs
          rw [hits_cons hc]
          exact ⟨name, hmem, hends, hstands.trans (List.suffix_cons c _)⟩
  | hit name s hname ih =>
      rw [hits_token hname]
      rcases List.append_eq_append_iff.mp h with ⟨u, rfl, hs⟩ | ⟨u, hu, hs⟩
      · obtain ⟨found, hmem, hends, hstands⟩ := ih hs
        refine ⟨found, List.mem_cons_of_mem name hmem, hends, ?_⟩
        rw [List.append_assoc]
        exact hstands.trans (List.suffix_append (token name) _)
      · -- The token begins in the one that the scan takes, or right behind it.
        by_cases hnil : u = []
        · subst hnil
          have hbegins : s = [] ++ (token key ++ after) := by simpa using hs.symm
          obtain ⟨found, hmem, hends, hstands⟩ := ih hbegins
          exact ⟨found, List.mem_cons_of_mem name hmem, hends,
            hstands.trans (List.suffix_append before _)⟩
        · have hcut : u = token key :=
            eq_token_of_prefix_append hname.2 hkey.2 ⟨before, hu.symm⟩ hnil ⟨after, hs⟩
          refine ⟨name, List.mem_cons_self, ?_, ?_⟩
          · exact suffix_of_token_suffix ⟨before, by rw [hu, hcut]⟩
          · rw [hu, hcut]

theorem isName_of_mem_hits {s name : List Char} (h : name ∈ hits placeholder s) :
    IsName name ∧ token name <:+: s := by
  induction s using fill_induction with
  | nil => cases h
  | plain c s hc ih =>
      rw [hits_cons hc] at h
      exact ⟨(ih h).1, (ih h).2.trans (List.suffix_cons c s).isInfix⟩
  | hit first s hfirst ih =>
      rw [hits_token hfirst] at h
      rcases List.mem_cons.mp h with rfl | h
      · exact ⟨hfirst, (List.prefix_append _ s).isInfix⟩
      · exact ⟨(ih h).1, (ih h).2.trans (List.suffix_append _ s).isInfix⟩

end Receipts.Template
