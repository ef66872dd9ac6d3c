import Receipts.Proofs.Extract.Rules
import Receipts.Proofs.FormValues.Merging

/-!
# Tables of rules

A table of rules may be put together from parts: what it recovers is what its first part recovers,
filled up with what the second one does. The value of a key is decided by the first rule for the key
that finds anything. So a rule whose pattern cannot be read might as well be left out, and whatever
is recovered stands in the document.
-/

namespace Receipts

/-- The text of a group is a stretch of the text that was searched. -/
theorem Pattern.infix_of_capture? {pattern : Pattern} {index : Nat} {s found : List Char}
    (h : pattern.capture? index s = some found) : found <:+: s := by
  obtain ⟨⟨first, last⟩, -, rfl⟩ := Option.map_eq_some_iff.mp h
  have hstarts : (s.drop first).take (last - first) <+: s.drop first := List.take_prefix _ _
  exact hstarts.isInfix.trans (List.drop_suffix first s).isInfix

/-- What may be said of a value that was recovered from a document: it stands there, it is not
empty, and it has no blanks at its ends. -/
structure IsQuotedFrom (html value : String) : Prop where
  stands : value.toList <:+: html.toList
  nonempty : value ≠ ""
  trimmed : Text.trimmed value = value

/-! ## What a rule finds -/

namespace Rule

variable {rule : Rule} {html value : String}

/-- Whether the pattern of a rule can be read. -/
def isReadable (rule : Rule) : Bool :=
  (Pattern.ofSource? rule.pattern).isSome

/-- Whether a rule finds a value in a document: its pattern can be read and has a match, its first
group takes part in the leftmost one, and the value is the text of the group without the blanks at
its ends, if that leaves anything. -/
def Finds (rule : Rule) (html value : String) : Prop :=
  ∃ pattern found, Pattern.ofSource? rule.pattern = some pattern ∧
    pattern.capture? 1 html.toList = some found ∧ Text.trim found = value.toList ∧ value ≠ ""

theorem value?_eq_some_iff : rule.value? html = some value ↔ rule.Finds html value := by
  constructor
  · intro h
    simp only [value?, Option.bind_eq_bind, Option.bind_eq_some_iff] at h
    obtain ⟨pattern, hpattern, found, hfound, hvalue⟩ := h
    split at hvalue
    · cases hvalue
    · rename_i hne
      obtain rfl : String.ofList (Text.trim found) = value := Option.some.inj hvalue
      refine ⟨pattern, found, hpattern, hfound, String.toList_ofList.symm, ?_⟩
      simpa using hne
  · rintro ⟨pattern, found, hpattern, hfound, htrim, hne⟩
    have hnil : value.toList ≠ [] := by simpa using hne
    simp [value?, hpattern, hfound, htrim, hnil]

theorem value?_eq_none_iff : rule.value? html = none ↔ ∀ value, ¬ rule.Finds html value := by
  simp only [← value?_eq_some_iff, Option.eq_none_iff_forall_ne_some, ne_eq]

theorem Finds.isQuotedFrom (h : rule.Finds html value) : IsQuotedFrom html value := by
  obtain ⟨pattern, found, -, hfound, htrim, hne⟩ := h
  refine ⟨?_, hne, ?_⟩
  · rw [← htrim]
    exact (Text.trim_infix_self found).trans (Pattern.infix_of_capture? hfound)
  · rw [Text.trimmed, ← htrim, Text.trim_trim, htrim, String.ofList_toList]

theorem value?_of_not_isReadable (h : rule.isReadable = false) : rule.value? html = none := by
  have hpattern : Pattern.ofSource? rule.pattern = none := by simpa [isReadable] using h
  rw [value?, hpattern]
  rfl

end Rule

/-! ## Tables -/

namespace Dialect

variable {dialect : Dialect} {html key value : String}

/-- The rules of one dialect, and after them those of another. -/
def followedBy (first second : Dialect) : Dialect :=
  { first with rules := first.rules ++ second.rules }

/-- A dialect without the rules whose pattern cannot be read. -/
def readable (dialect : Dialect) : Dialect :=
  { dialect with rules := dialect.rules.filter Rule.isReadable }

/-- Whether a value is the one that decides a key: a rule for the key finds it, and no earlier rule
for the key finds anything. -/
def Decides (dialect : Dialect) (html key value : String) : Prop :=
  ∃ before rule after, dialect.rules = before ++ rule :: after ∧
    rule.key = key ∧ rule.Finds html value ∧
    ∀ earlier ∈ before, earlier.key = key → ∀ other, ¬ earlier.Finds html other

theorem get?_extract_eq_some_iff :
    (dialect.extract html).get? key = some value ↔ dialect.Decides html key value := by
  rw [get?_extract, List.findSome?_eq_some_iff, Decides]
  refine exists_congr fun before => exists_congr fun rule => exists_congr fun after =>
    and_congr_right fun _ => ?_
  rw [← and_assoc]
  refine and_congr ?_ (forall₂_congr fun earlier _ => ?_)
  · rw [Option.ite_none_right_eq_some, Rule.value?_eq_some_iff]
  · rw [← Rule.value?_eq_none_iff, ite_eq_right_iff]

theorem extract_append (first second : Dialect) (html : String) :
    (first.followedBy second).extract html
      = (first.extract html).mergeMissing (second.extract html) := by
  refine FormValues.ext_get? fun key => ?_
  rw [FormValues.get?_mergeMissing, get?_extract, get?_extract, get?_extract, followedBy,
    List.findSome?_append]

theorem extract_readable (dialect : Dialect) (html : String) :
    dialect.readable.extract html = dialect.extract html := by
  -- Over a rule that cannot be read the values go as they are.
  have hstep : (fun values rule => if rule.isReadable = true then Rule.apply html values rule
      else values) = Rule.apply html := by
    funext values rule
    split
    · rfl
    · rename_i hnot
      rw [Rule.apply, Rule.value?_of_not_isReadable (by simpa using hnot)]
  rw [extract, readable, List.foldl_filter, hstep, extract]

/-- Extraction with the rules of two dialects fills up what the first recovers with what the second
does. Rules whose pattern cannot be read change nothing. The value of a key is the one that decides
it, and stands in the document. -/
theorem extract_followedBy (first second : Dialect) (html : String) :
    (first.followedBy second).extract html
        = (first.extract html).mergeMissing (second.extract html) ∧
      first.readable.extract html = first.extract html ∧
      (∀ key value, (first.extract html).get? key = some value ↔ first.Decides html key value) ∧
      ∀ key value, (first.extract html).get? key = some value → IsQuotedFrom html value := by
  refine ⟨extract_append first second html, extract_readable first html,
    fun _ _ => get?_extract_eq_some_iff, fun key value h => ?_⟩
  obtain ⟨-, rule, -, -, -, hfinds, -⟩ := get?_extract_eq_some_iff.mp h
  exact hfinds.isQuotedFrom

/-- Rules for one key. The first cannot be read, and the second has no group. -/
def invoiceDialect : Dialect where
  name := "invoice"
  rules :=
    [⟨"INVOICE", "Invoice ([A-Z0-9]+"⟩, ⟨"INVOICE", "Invoice [A-Z0-9]+"⟩,
     ⟨"INVOICE", "Invoice ([A-Z0-9]+)"⟩]

/-- Rules for the same key and for another. -/
def totalDialect : Dialect where
  name := "total"
  rules := [⟨"INVOICE", "No. ([A-Z0-9]+)"⟩, ⟨"TOTAL", "Total([ 0-9]+)"⟩]

/-- A document in which all patterns that can be read have a match. -/
def invoiceHtml : String := "<p>No. 3</p> <p>Invoice INV7</p> <p>Total 5 </p>"

theorem extract_followedBy_invoiceDialect :
    (invoiceDialect.extract invoiceHtml).get? "INVOICE" = some "INV7" ∧
    IsQuotedFrom invoiceHtml "INV7" ∧
    ((invoiceDialect.followedBy totalDialect).extract invoiceHtml).entries
      = [("INVOICE", "INV7"), ("TOTAL", "5")] := by
  obtain ⟨hjoined, -, -, hquoted⟩ := extract_followedBy invoiceDialect totalDialect invoiceHtml
  have hget : (invoiceDialect.extract invoiceHtml).get? "INVOICE" = some "INV7" := by
    decide +kernel
  refine ⟨hget, hquoted "INVOICE" "INV7" hget, ?_⟩
  rw [hjoined]
  decide +kernel

end Dialect

end Receipts
