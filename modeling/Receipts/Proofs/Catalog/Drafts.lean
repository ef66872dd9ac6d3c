import Receipts.Proofs.Catalog.Listing
import Receipts.Proofs.Mail.HandOff
import Receipts.Proofs.Render.StaticText

/-!
# Drafts of catalog templates

What stands before the first opening brace of a document comes through rendering, and each template
of the catalog has visible text there. So values can damage the rest of a receipt, but no values
make a draft of the catalog blank, and none give text to a draft without a template.
-/

namespace Receipts

/-- The text of a document before its first opening brace. -/
def leadingText (document : List Char) : List Char :=
  document.takeWhile (· != '{')

theorem not_mem_leadingText (document : List Char) : '{' ∉ leadingText document := by
  intro h
  simpa using List.mem_takeWhile_imp h

theorem leadingText_prefix_renderChars (document : List Char) (supplies : List Supply) :
    leadingText document <+: renderChars document supplies := by
  have hsplit : document
      = leadingText document ++ document.dropWhile (· != '{') ++ [] := by
    rw [leadingText, List.takeWhile_append_dropWhile, List.append_nil]
  have hrender := renderChars_around (document.dropWhile (· != '{')) supplies
    (not_mem_leadingText document) List.not_mem_nil
  rw [← hsplit] at hrender
  rw [hrender, List.append_assoc]
  exact List.prefix_append _ _

theorem prefix_leadingText {opening document : List Char} (h : opening <+: document)
    (hopening : '{' ∉ opening) : opening <+: leadingText document := by
  obtain ⟨rest, rfl⟩ := h
  rw [leadingText, List.takeWhile_append_of_pos fun c hc => by
    simpa using ne_of_mem_of_not_mem hc hopening]
  exact List.prefix_append _ _

namespace Catalog

/-- A template of the catalog begins with a tag that holds no placeholder. -/
theorem exists_opening {template : PlatformTemplate} (h : template ∈ all) :
    ∃ opening segments, template.segments = .text opening :: segments ∧
      '<' ∈ opening.toList ∧ '{' ∉ opening.toList := by
  have hopening : '<' ∈ "<!DOCTYPE html>\n".toList ∧ '{' ∉ "<!DOCTYPE html>\n".toList := by decide
  rcases mem_all_iff.mp h with rfl | rfl | rfl
  all_goals exact ⟨_, _, rfl, hopening⟩

theorem mem_leadingText_html {template : PlatformTemplate} (h : template ∈ all) :
    '<' ∈ leadingText template.html.toList := by
  obtain ⟨opening, segments, hsegments, hvisible, hfree⟩ := exists_opening h
  have hstart : opening.toList <+: template.html.toList := by
    rw [PlatformTemplate.html, hsegments, List.map_cons, String.join_cons, String.toList_append]
    exact List.prefix_append _ _
  exact (prefix_leadingText hstart hfree).subset hvisible

end Catalog

/-- A text without characters renders as itself. -/
theorem renderChars_nil (supplies : List Supply) : renderChars [] supplies = [] := by
  have hnone : presentToken? supplies [] = none := presentToken?_eq_none_iff.mpr fun _ _ h =>
    Template.token_ne_nil _ (List.infix_nil.mp h)
  rw [renderChars_eq, unblanked, substituteRounds_of_none hnone, removeTokens_of_none hnone]
  rfl

namespace Draft

theorem toList_html_ofPlatform {template : PlatformTemplate} (h : template ∈ Catalog.all)
    (values : FormValues) : (ofPlatform template.id values).html.toList
      = renderChars template.html.toList values.supplies := by
  rw [ofPlatform, html_eq_of_mem h, render, String.toList_ofList]

theorem html_ofPlatform_of_unknown {platform : String} (h : platform ∉ Catalog.ids)
    (values : FormValues) : (ofPlatform platform values).html = "" := by
  rw [ofPlatform, Catalog.html_of_unlisted h, render]
  exact congrArg String.ofList (renderChars_nil values.supplies)

/-- A draft of a platform can be sent exactly if the platform is in the catalog, whatever the values
are. Then its HTML begins with the template up to its first opening brace and its subject is that of
the template. Otherwise it has neither HTML nor a subject. -/
theorem validate_ofPlatform (platform : String) (values : FormValues) :
    ((ofPlatform platform values).validate = .ok () ↔ platform ∈ Catalog.ids) ∧
    (platform ∉ Catalog.ids →
      (ofPlatform platform values).html = "" ∧ (ofPlatform platform values).subject = none) ∧
    ∀ template ∈ Catalog.all, template.id = platform →
      leadingText template.html.toList <+: (ofPlatform platform values).html.toList ∧
      (ofPlatform platform values).subject = some template.subject := by
  have hleading : ∀ template ∈ Catalog.all,
      leadingText template.html.toList <+: (ofPlatform template.id values).html.toList := by
    intro template htemplate
    rw [toList_html_ofPlatform htemplate]
    exact leadingText_prefix_renderChars _ _
  refine ⟨?_, ?_, ?_⟩
  · rw [validate_eq_ok_iff]
    constructor
    · intro hvisible
      by_contra hunknown
      rw [html_ofPlatform_of_unknown hunknown] at hvisible
      cases hvisible
    · intro hknown
      obtain ⟨template, htemplate, rfl⟩ := Catalog.mem_ids_iff.mp hknown
      have hmem := (hleading template htemplate).subset (Catalog.mem_leadingText_html htemplate)
      rw [Text.blank, List.all_eq_false]
      exact ⟨'<', hmem, by decide⟩
  · intro hunknown
    refine ⟨html_ofPlatform_of_unknown hunknown values, ?_⟩
    rw [ofPlatform, Catalog.find?_eq_none hunknown, Option.map_none]
  · rintro template htemplate rfl
    refine ⟨hleading template htemplate, ?_⟩
    rw [ofPlatform, Catalog.find?_id htemplate, Option.map_some]

end Draft

end Receipts
