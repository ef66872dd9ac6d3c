import Receipts.Proofs.Web.FormEntries

/-!
# Written forms

A form is written as its entries between delimiters. Of a written form, the first entry named
`image` is found, with its exact bytes, whatever the other entries are and wherever they stand: a
content may hold line ends, dashes and the boundary, only not all of them together as a delimiter.
-/

namespace Receipts.Web.Multipart

open Text (utf8)

/-- What stands before and between the entries of a form. -/
def delimiterOf (boundary : String) : List UInt8 := dashes ++ utf8 boundary

/-- What stands behind the first delimiter of a form. -/
def writtenAfter (delimiter : List UInt8) : List Entry → List UInt8
  | [] => dashes ++ lineEnd
  | entry :: entries =>
      lineEnd ++ (writtenFields entry.fields ++ (lineEnd ++ (entry.content ++
        (lineEnd ++ delimiter ++ writtenAfter delimiter entries))))

/-- Entries as they are written in a form. -/
def written (boundary : String) (entries : List Entry) : List UInt8 :=
  delimiterOf boundary ++ writtenAfter (delimiterOf boundary) entries

/-- An entry that can be written between the delimiters of a boundary. -/
structure Entry.Fits (boundary : String) (entry : Entry) : Prop extends entry.HasPlainHead where
  content : ¬ lineEnd ++ delimiterOf boundary <:+: entry.content

theorem length_le_writtenAfter (delimiter : List UInt8) (entries : List Entry) :
    entries.length ≤ (writtenAfter delimiter entries).length := by
  induction entries with
  | nil => exact Nat.zero_le _
  | cons entry entries ih =>
      simp only [writtenAfter, List.length_cons, List.length_append, lineEnd]
      omega

/-! ## Contents -/

/-- A pattern that has its first byte once is found behind bytes that do not hold it. -/
theorem splitAt?_append_of_not_infix {c : UInt8} {w s : List UInt8} (hc : c ∉ w)
    (hs : ¬ c :: w <:+: s) (before rest : List UInt8) :
    splitAt? (c :: w) before (s ++ (c :: w ++ rest)) = some (before.reverse ++ s, rest) := by
  refine splitAt?_append (List.cons_ne_nil c w) before fun b hb hne hstarts => ?_
  rcases List.prefix_or_prefix_of_prefix hstarts (List.prefix_append b _) with hwhole | hpart
  · exact hs (hwhole.isInfix.trans hb.isInfix)
  · -- a pattern that begins in `b` and goes on behind it has its first byte again
    obtain ⟨t, ht⟩ := hpart
    rw [← ht, List.prefix_append_right_inj, ht] at hstarts
    obtain ⟨d, b, rfl⟩ := List.exists_cons_of_ne_nil hne
    rw [List.cons_append, List.cons.injEq] at ht
    cases t with
    | nil =>
        rw [List.append_nil] at ht
        rw [ht.1, ht.2] at hb
        exact hs hb.isInfix
    | cons e t =>
        rw [List.cons_append, List.cons_prefix_cons] at hstarts
        refine hc ?_
        rw [← ht.2, hstarts.1]
        simp

/-! ## Forms -/

variable {boundary : String}

/-- What is found of the entries behind a delimiter. -/
theorem uploadFrom_writtenAfter (hboundary : (13 : UInt8) ∉ utf8 boundary) {entries : List Entry}
    (h : ∀ entry ∈ entries, entry.Fits boundary) {fuel : Nat} (hfuel : entries.length < fuel) :
    uploadFrom (delimiterOf boundary) "image" fuel (writtenAfter (delimiterOf boundary) entries) =
      match entries.find? (·.name == "image") with
      | some entry => .found entry.part
      | none => .absent := by
  induction entries generalizing fuel with
  | nil =>
      obtain ⟨fuel, rfl⟩ := Nat.exists_eq_succ_of_ne_zero (Nat.ne_of_gt hfuel)
      rfl
  | cons entry entries ih =>
      obtain ⟨fuel, rfl⟩ := Nat.exists_eq_succ_of_ne_zero (Nat.ne_zero_of_lt hfuel)
      have hentry := h entry List.mem_cons_self
      have hlater := ih (fun e he => h e (List.mem_cons_of_mem _ he))
        (Nat.lt_of_succ_lt_succ hfuel)
      have hcontent : splitAt? (lineEnd ++ delimiterOf boundary) [] (entry.content ++
          (lineEnd ++ delimiterOf boundary ++ writtenAfter (delimiterOf boundary) entries)) =
            some (entry.content, writtenAfter (delimiterOf boundary) entries) := by
        refine splitAt?_append_of_not_infix ?_ hentry.content [] _
        simpa [delimiterOf, dashes] using hboundary
      rw [writtenAfter, uploadFrom, hentry.opening?_written]
      simp only [hentry.attribute?_name, hcontent]
      by_cases hname : entry.name = "image"
      · rw [List.find?_cons_of_pos (by simp [hname])]
        simp [hname, hentry.attribute?_fileName hname, hentry.mediaType?_headersOf, Entry.part]
      · have hother : (some entry.name == some "image") = false := by simp [hname]
        rw [List.find?_cons_of_neg (by simp [hname]), ← hlater]
        simp [hother]

/-- The first entry of the name is found in a written form. -/
theorem upload_written (hboundary : (13 : UInt8) ∉ utf8 boundary) {entries : List Entry}
    (h : ∀ entry ∈ entries, entry.Fits boundary) :
    upload boundary "image" (written boundary entries) =
      match entries.find? (·.name == "image") with
      | some entry => .found entry.part
      | none => .absent := by
  have hopening : splitAt? (delimiterOf boundary) [] (written boundary entries) =
      some ([], writtenAfter (delimiterOf boundary) entries) :=
    splitAt?_append (s := []) (by simp [delimiterOf, dashes]) [] (by simp)
  have hfuel := length_le_writtenAfter (delimiterOf boundary) entries
  rw [upload, ← delimiterOf, hopening]
  exact uploadFrom_writtenAfter hboundary h (Nat.lt_succ_of_le hfuel)

end Receipts.Web.Multipart
