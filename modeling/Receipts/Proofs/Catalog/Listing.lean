import Receipts.Catalog

/-!
# Looking templates up

The catalog lists three templates, each of which is found under its own id. An id that is not listed
has no template and no HTML.
-/

namespace Receipts

namespace Catalog

variable {template : PlatformTemplate} {id : String}

theorem mem_all_iff :
    template ∈ all ↔ template = beacons ∨ template = stanStore ∨ template = fanbasis := by
  simp [all]

theorem find?_id (h : template ∈ all) : find? template.id = some template := by
  rcases mem_all_iff.mp h with rfl | rfl | rfl
  all_goals rfl

theorem mem_ids_iff : id ∈ ids ↔ ∃ template ∈ all, template.id = id := by
  rw [ids, List.mem_map]

theorem find?_eq_none (h : id ∉ ids) : find? id = none := by
  rw [find?, List.find?_eq_none]
  intro template htemplate hid
  exact h (mem_ids_iff.mpr ⟨template, htemplate, beq_iff_eq.mp hid⟩)

theorem html_of_unlisted (h : id ∉ ids) : html id = "" := by
  rw [html, find?_eq_none h]

end Catalog

theorem html_eq_of_mem {template : PlatformTemplate} (h : template ∈ Catalog.all) :
    Catalog.html template.id = template.html := by
  rw [Catalog.html, Catalog.find?_id h]

end Receipts
