import Receipts.Extract
import Receipts.Proofs.FormValues.Lookup
import Receipts.Proofs.Text.Trim

/-!
# What rules contribute

The value of a key is the one that the first rule for the key finds. What a rule finds depends on
the document alone, so the order of rules matters only among those for one key.
-/

namespace Receipts

/-- A rule gives a value to its key only, and only if it has none. -/
theorem Rule.get?_apply (html : String) (values : FormValues) (rule : Rule) (key : String) :
    (rule.apply html values).get? key
      = (values.get? key).or (if rule.key = key then rule.value? html else none) := by
  rw [Rule.apply]
  cases hvalue : rule.value? html with
  | none => simp
  | some value => exact FormValues.get?_takeOver values rule.key value key

theorem get?_foldl_apply (html : String) (rules : List Rule) (values : FormValues) (key : String) :
    (rules.foldl (Rule.apply html) values).get? key
      = (values.get? key).or
          (rules.findSome? fun rule => if rule.key = key then rule.value? html else none) := by
  induction rules generalizing values with
  | nil => simp
  | cons rule rules ih =>
      rw [List.foldl_cons, ih, Rule.get?_apply, Option.or_assoc, List.findSome?_cons]
      cases if rule.key = key then rule.value? html else none <;> rfl

/-- The first rule for a key that finds a value decides it. -/
theorem Dialect.get?_extract (dialect : Dialect) (html : String) (key : String) :
    (dialect.extract html).get? key
      = dialect.rules.findSome? fun rule => if rule.key = key then rule.value? html else none := by
  rw [Dialect.extract, get?_foldl_apply, FormValues.get?_empty, Option.none_or]

theorem findSome?_key {rules : List Rule} (hkeys : (rules.map Rule.key).Nodup) {rule : Rule}
    (hrule : rule ∈ rules) (find : Rule → Option String) :
    (rules.findSome? fun other => if other.key = rule.key then find other else none)
      = find rule := by
  induction rules with
  | nil => cases hrule
  | cons first rules ih =>
      obtain ⟨hfirst, hrest⟩ := List.nodup_cons.mp hkeys
      rw [List.findSome?_cons]
      rcases List.mem_cons.mp hrule with rfl | hrule
      · have hnone : (rules.findSome? fun other =>
            if other.key = rule.key then find other else none) = none := by
          rw [List.findSome?_eq_none_iff]
          intro other hother
          have hne : other.key ≠ rule.key := fun hsame =>
            hfirst (hsame ▸ List.mem_map_of_mem hother)
          rw [if_neg hne]
        rw [if_pos rfl, hnone]
        cases find rule <;> rfl
      · have hne : first.key ≠ rule.key := fun hsame =>
          hfirst (hsame ▸ List.mem_map_of_mem hrule)
        rw [if_neg hne]
        exact ih hrest hrule

/-- If there is only one rule for a key, it decides the value. -/
theorem Dialect.get?_extract_of_nodup {dialect : Dialect} (hkeys : dialect.keys.Nodup)
    (html : String) {rule : Rule} (hrule : rule ∈ dialect.rules) :
    (dialect.extract html).get? rule.key = rule.value? html := by
  rw [Dialect.get?_extract, findSome?_key hkeys hrule]

/-- A rule finds the text of its group if the text is neither empty nor has blanks at its ends. -/
theorem Rule.value?_eq_some {rule : Rule} {html : String} {pattern : Pattern} {value : List Char}
    (hpattern : Pattern.ofSource? rule.pattern = some pattern)
    (hcapture : pattern.capture? 1 html.toList = some value) (hne : value ≠ [])
    (htrim : Text.trim value = value) : rule.value? html = some (String.ofList value) := by
  simp [Rule.value?, hpattern, hcapture, htrim, hne]

/-- A rule finds nothing if its group is not found or blank. -/
theorem Rule.value?_eq_none {rule : Rule} {html : String} {pattern : Pattern}
    (hpattern : Pattern.ofSource? rule.pattern = some pattern)
    (hblank : ∀ found, pattern.capture? 1 html.toList = some found →
      found.all Text.isBlank = true) : rule.value? html = none := by
  cases hcapture : pattern.capture? 1 html.toList with
  | none => simp [Rule.value?, hpattern, hcapture]
  | some found =>
      have htrim := Text.trim_eq_nil (hblank found hcapture)
      simp [Rule.value?, hpattern, hcapture, htrim]

/-! ## Rules as characters

To evaluate a check on a rule is to read its pattern. The characters of a pattern stand here as a
list, since it takes long to get them out of a written text by evaluation. -/

/-- The pattern that characters write. -/
def Pattern.ofChars? (s : List Char) : Option Pattern :=
  match partsAt (s.length + 1) ⟨s, {}, 0, [], greatestDepth⟩ {} with
  | some (.item pattern depth, source) =>
      if source.rest.isEmpty && depth ≤ greatestDepth && pattern.hasRoom then some pattern
      else none
  | _ => none

theorem Pattern.ofSource?_ofList (s : List Char) : ofSource? (String.ofList s) = ofChars? s := by
  rw [ofSource?, String.toList_ofList]
  rfl

/-- A key, and the characters of the written pattern for it. -/
structure WrittenRule where
  key : String
  chars : List Char

namespace WrittenRule

/-- The rule with the characters as its pattern. -/
def rule (written : WrittenRule) : Rule :=
  ⟨written.key, String.ofList written.chars⟩

theorem rule_mk (key : String) (s : List Char) : rule ⟨key, s⟩ = ⟨key, String.ofList s⟩ := rfl

theorem map_rule_nil : [].map rule = [] := rfl

theorem map_rule_cons (key : String) (s : List Char) {written : List WrittenRule}
    {rules : List Rule} (h : written.map rule = rules) :
    (⟨key, s⟩ :: written).map rule = ⟨key, String.ofList s⟩ :: rules := by
  rw [List.map_cons, h, rule_mk]

/-- Whether the pattern of a rule passes a check. -/
def passes (written : WrittenRule) (check : Pattern → Bool) : Bool :=
  (Pattern.ofChars? written.chars).any fun pattern => pattern.isDirect && check pattern

theorem exists_of_passes {written : WrittenRule} {check : Pattern → Bool}
    (h : written.passes check = true) :
    ∃ pattern, Pattern.ofSource? written.rule.pattern = some pattern ∧
      pattern.isDirect = true ∧ check pattern = true := by
  obtain ⟨pattern, hpattern, hcheck⟩ := (Option.any_eq_true _ _).mp h
  rw [Bool.and_eq_true] at hcheck
  exact ⟨pattern, (Pattern.ofSource?_ofList _).trans hpattern, hcheck⟩

end WrittenRule

end Receipts
