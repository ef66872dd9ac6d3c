import Receipts.Proofs.Extract.Recovery

/-!
# Receipts with values left out

A value that is left out leaves its place in a receipt empty, and a rule that looks for it there may
go on to later text. A view says how the values of some keys read, and leaves open whether the other
keys have values at all. A closed check on the outline of a view then says what a rule finds in all
receipts that show it.
-/

namespace Receipts

open Outline (spell FilledBy)
open Template (Chunk)

/-- How the values of some keys read. -/
abbrev View := List (String × Outline)

/-- Whether values read as a view says. -/
def View.Shows (view : View) (values : FormValues) : Prop :=
  ∀ entry ∈ view, ReadsAs entry.2 entry.1 (values.image entry.1.toList)

/-- The outline of a slot in a view: the one that the view gives, or else a hole for a value that
may be left out. -/
def viewForm (id : String) (shape : String → ValueShape) (view : View) (name : List Char) :
    Outline :=
  (view.lookup (String.ofList name)).getD
    [.hole ((shape (String.ofList name)).hole id (String.ofList name)).orNone]

/-- The outline of the receipts that show a view, in blocks. -/
def shown (id : String) (shape : String → ValueShape) (chunks : List Chunk) (view : View) :
    List Outline :=
  spread (viewForm id shape view) chunks

/-- Whether a pattern finds the value of a key, in whatever way it is read. -/
def keeps (id : String) (shape : String → ValueShape) (chunks : List Chunk) (others : View)
    (key : String) (pattern : Pattern) : Bool :=
  ((shape key).readings id key).all fun reading =>
    Outline.recovers pattern (shown id shape chunks ((key, reading) :: others)) reading

/-- Whether a rule finds the value of its key, and nothing if it is left out. -/
def WrittenRule.isFaithful (written : WrittenRule) (id : String) (shape : String → ValueShape)
    (chunks : List Chunk) : Bool :=
  written.passes fun pattern =>
    keeps id shape chunks [] written.key pattern &&
      Outline.misses pattern (shown id shape chunks [(written.key, [])])

/-- What has to hold for receipts with values left out. Nothing is said of the rules for some
keys. -/
structure IsPartlyRecoverable (template : PlatformTemplate) (shape : String → ValueShape)
    (chunks : List Chunk) (rules : List WrittenRule) (except : List String) : Prop
    extends IsLaidOut template chunks where
  leavable : ∀ key ∈ template.placeholders, ((shape key).hole template.id key).IsLeavable
  unique : (Dialect.ofPlatform template.id).keys.Nodup
  written : rules.map WrittenRule.rule = (Dialect.ofPlatform template.id).rules
  faithful : ∀ written ∈ rules, written.key ∉ except →
    written.isFaithful template.id shape chunks = true

variable {template : PlatformTemplate} {shape : String → ValueShape} {chunks : List Chunk}
  {rules : List WrittenRule} {except : List String} {values : FormValues} {view : View}
  {rule : Rule} {written : WrittenRule}

theorem View.shows_nil (values : FormValues) : View.Shows [] values := by
  simp [View.Shows]

theorem View.Shows.cons {key : String} {outline : Outline} (h : View.Shows view values)
    (hreads : ReadsAs outline key (values.image key.toList)) :
    View.Shows ((key, outline) :: view) values := by
  intro entry hm
  rcases List.mem_cons.mp hm with rfl | hm
  · exact hreads
  · exact h entry hm

theorem readsAs_nil_of_none {key : String} (h : values.get? key = none) :
    ReadsAs [] key (values.image key.toList) := by
  rw [FormValues.image_of_none h]
  exact readsAs_nil key

namespace IsPartlyRecoverable

theorem fits_orNone (h : IsPartlyRecoverable template shape chunks rules except)
    (hvalues : values.IsPartialFor template shape) {key : String}
    (hkey : key ∈ template.placeholders) :
    ((shape key).hole template.id key).orNone.Fits (values.image key.toList) := by
  cases hget : values.get? key with
  | none =>
      rw [FormValues.image_of_none hget]
      exact (h.leavable key hkey).fits_nil
  | some value =>
      rw [FormValues.image_eq hget]
      exact ((hvalues.values key value hget).fits_hole key).orNone

theorem readsAs_viewForm (h : IsPartlyRecoverable template shape chunks rules except)
    (hvalues : values.IsPartialFor template shape) (hview : view.Shows values) {name : List Char}
    (hname : String.ofList name ∈ template.placeholders) :
    ReadsAs (viewForm template.id shape view name) (String.ofList name) (values.image name) := by
  rw [viewForm]
  cases hlookup : view.lookup (String.ofList name) with
  | none =>
      have hfits := h.fits_orNone hvalues hname
      rw [String.toList_ofList] at hfits
      exact readsAs_hole hfits (ValueShape.key_hole _ _ _)
  | some outline =>
      have hread := hview (String.ofList name, outline) (mem_of_lookup hlookup)
      rwa [String.toList_ofList] at hread

/-- What a check on the outline of a view says holds of every receipt that shows the view. -/
theorem exists_words_shown (h : IsPartlyRecoverable template shape chunks rules except)
    (hvalues : values.IsPartialFor template shape) (hview : view.Shows values) :
    ∃ words, FilledBy (shown template.id shape chunks view).flatten words ∧
      (render template.html values).toList
        = spell words (shown template.id shape chunks view).flatten ∧
      ∀ key ∈ template.placeholders,
        spell words (viewForm template.id shape view key.toList) = values.image key.toList :=
  h.exists_words (hvalues.isBraceFree h.names) fun _ hname =>
    h.readsAs_viewForm hvalues hview hname

variable {pattern : Pattern} (hpattern : Pattern.ofSource? rule.pattern = some pattern)
  (hdirect : pattern.isDirect = true)

include hpattern hdirect

theorem value?_of_recovers (h : IsPartlyRecoverable template shape chunks rules except)
    (hvalues : values.IsPartialFor template shape) (hview : view.Shows values)
    {target : Outline} {found : List Char}
    (hcheck : Outline.recovers pattern (shown template.id shape chunks view) target = true)
    (htarget : ∀ words, (∀ key ∈ template.placeholders,
      spell words (viewForm template.id shape view key.toList) = values.image key.toList) →
      spell words target = found)
    (hne : found ≠ []) (htrim : Text.trim found = found) :
    rule.value? (render template.html values) = some (String.ofList found) := by
  obtain ⟨words, hfilled, hdocument, hspell⟩ := h.exists_words_shown hvalues hview
  refine Rule.value?_eq_some hpattern ?_ hne htrim
  rw [hdocument, Outline.capture?_of_recovers hdirect hfilled hcheck, htarget words hspell]

theorem value?_of_misses (h : IsPartlyRecoverable template shape chunks rules except)
    (hvalues : values.IsPartialFor template shape) (hview : view.Shows values)
    (hcheck : Outline.misses pattern (shown template.id shape chunks view) = true) :
    rule.value? (render template.html values) = none := by
  obtain ⟨words, hfilled, hdocument, -⟩ := h.exists_words_shown hvalues hview
  refine Rule.value?_eq_none hpattern fun found hfound => ?_
  rw [hdocument] at hfound
  exact Outline.all_isBlank_of_misses hdirect hfilled hcheck hfound

theorem value?_of_keeps (h : IsPartlyRecoverable template shape chunks rules except)
    (hvalues : values.IsPartialFor template shape) {others : View} (hothers : others.Shows values)
    {key value : String} (hget : values.get? key = some value)
    (hcheck : keeps template.id shape chunks others key pattern = true) :
    rule.value? (render template.html values) = some value := by
  have hbenign := hvalues.values key value hget
  have himage := FormValues.image_eq hget
  obtain ⟨reading, hreading, hreads⟩ := hbenign.exists_reading key
  have hslot : viewForm template.id shape ((key, reading) :: others) key.toList = reading := by
    rw [viewForm, String.ofList_toList, lookup_cons_eq_ite, if_pos rfl, Option.getD_some]
  rw [keeps, List.all_eq_true] at hcheck
  have hfound := h.value?_of_recovers hpattern hdirect hvalues
    (hothers.cons (himage ▸ hreads)) (hcheck reading hreading) (fun words hspell => by
      have hkey := hspell key (hvalues.keys key (FormValues.contains_iff_exists.mpr ⟨_, hget⟩))
      rwa [hslot, himage] at hkey) hbenign.nonempty hbenign.trimmed
  rwa [String.ofList_toList] at hfound

omit hpattern hdirect

/-- A faithful rule finds the value of its key, and nothing if it is left out. -/
theorem value?_eq_get? (h : IsPartlyRecoverable template shape chunks rules except)
    (hvalues : values.IsPartialFor template shape)
    (hrule : written.isFaithful template.id shape chunks = true) :
    written.rule.value? (render template.html values) = values.get? written.key := by
  obtain ⟨pattern, hpattern, hdirect, hcheck⟩ := WrittenRule.exists_of_passes hrule
  rw [Bool.and_eq_true] at hcheck
  cases hget : values.get? written.key with
  | some value =>
      exact h.value?_of_keeps hpattern hdirect hvalues (View.shows_nil values) hget hcheck.1
  | none =>
      exact h.value?_of_misses hpattern hdirect hvalues
        ((View.shows_nil values).cons (readsAs_nil_of_none hget)) hcheck.2

/-- Extraction gives every key the value that its rule finds. -/
theorem get?_extract (h : IsPartlyRecoverable template shape chunks rules except)
    {found : String → Option String}
    (hfound : ∀ written ∈ rules,
      written.rule.value? (render template.html values) = found written.key)
    (hother : ∀ key, key ∉ template.placeholders → found key = none) (key : String) :
    ((Dialect.ofPlatform template.id).extract (render template.html values)).get? key
      = found key := by
  by_cases hkey : key ∈ (Dialect.ofPlatform template.id).keys
  · obtain ⟨rule, hrule, rfl⟩ := List.mem_map.mp hkey
    rw [Dialect.get?_extract_of_nodup h.unique _ hrule]
    rw [← h.written] at hrule
    obtain ⟨written, hwritten, rfl⟩ := List.mem_map.mp hrule
    exact hfound written hwritten
  · have hnot : key ∉ template.placeholders := fun hm => hkey (h.keys key hm)
    rw [hother key hnot, Dialect.get?_extract, List.findSome?_eq_none_iff]
    intro rule hrule
    have hne : rule.key ≠ key := fun hsame =>
      hkey (hsame ▸ List.mem_map_of_mem (f := Rule.key) hrule)
    rw [if_neg hne]

end IsPartlyRecoverable

end Receipts
