import Receipts.Catalog.Basic
import Receipts.Proofs.Render.Expansion

/-!
# Templates as chunks

The segments of a template are static texts and slots, and so are the chunks of a well-formed text.
With values that have no braces, the rendered template is the static texts with the values between
them.
-/

namespace Receipts

open Template (Chunk IsKey IsPlain WellFormed written)

/-- Whether chunks are the segments of a template, as characters. -/
inductive Spelled : List Segment → List Chunk → Prop
  | nil : Spelled [] []
  | text (s : List Char) {segments : List Segment} {chunks : List Chunk} :
      Spelled segments chunks →
      Spelled (.text (String.ofList s) :: segments) (.plain s :: chunks)
  | slot (name : List Char) {segments : List Segment} {chunks : List Chunk} :
      Spelled segments chunks →
      Spelled (.slot (String.ofList name) :: segments) (.slot name :: chunks)

theorem Spelled.toList_html {segments : List Segment} {chunks : List Chunk}
    (h : Spelled segments chunks) :
    (String.join (segments.map Segment.html)).toList = written chunks := by
  induction h with
  | nil => rfl
  | text s _ ih =>
      rw [List.map_cons, String.join_cons, String.toList_append, ih, Segment.html,
        String.toList_ofList, Template.written_cons]
      rfl
  | slot name _ ih =>
      rw [List.map_cons, String.join_cons, String.toList_append, ih, Segment.html,
        Template.written_cons]
      simp [Chunk.text, Template.token]

namespace FormValues

/-- Keys are names without braces, and values have no braces. -/
structure IsBraceFree (values : FormValues) : Prop where
  keys : ∀ key, values.contains key = true → IsKey key.toList
  values : ∀ key value, values.get? key = some value → '{' ∉ value.toList ∧ '}' ∉ value.toList

variable {values : FormValues}

theorem IsBraceFree.isPlain (h : values.IsBraceFree) {key value : String}
    (hget : values.get? key = some value) : IsPlain value.toList :=
  Template.isPlain_of_no_brace (h.values key value hget).1 (h.values key value hget).2

theorem IsBraceFree.isWellFormed (h : values.IsBraceFree) : values.IsWellFormed where
  keys := h.keys
  values _ _ hget := Template.wellFormed_of_chunk (.plain _) (h.isPlain hget)

theorem IsBraceFree.acyclic (h : values.IsBraceFree) : values.Acyclic := by
  have hnone : ∀ key other, ¬ values.Refers key other := by
    rintro key other ⟨value, hget, -, hin⟩
    exact (h.values key value hget).1 (hin.subset (by simp [Template.token]))
  intro key hpath
  cases hpath with
  | single hrefers => exact hnone _ _ hrefers
  | tail _ hrefers => exact hnone _ _ hrefers

theorem IsBraceFree.expands_written (h : values.IsBraceFree) {chunks : List Chunk}
    (hproper : ∀ chunk ∈ chunks, chunk.Proper) :
    Expands values (written chunks) (chunks.flatMap (Chunk.fill values.image)) := by
  induction chunks with
  | nil => exact .plain Template.isPlain_nil
  | cons chunk chunks ih =>
      have hchunk := hproper chunk List.mem_cons_self
      rw [Template.written_cons, List.flatMap_cons]
      refine .append ?_ (ih fun c hc => hproper c (List.mem_cons_of_mem _ hc))
      cases chunk with
      | plain s => exact .plain hchunk
      | slot name =>
          have hkey : IsKey (String.ofList name).toList := by
            rw [String.toList_ofList]
            exact hchunk
          have htoken : Template.token (String.ofList name).toList = (Chunk.slot name).text := by
            rw [String.toList_ofList, Chunk.text]
          rw [← htoken, Chunk.fill, image]
          cases hget : values.get? (String.ofList name) with
          | none => exact .unsupplied hkey hget
          | some value => exact .supplied hkey hget (.plain (h.isPlain hget))

end FormValues

/-- A template rendered with values that have no braces. -/
theorem Spelled.toList_render {segments : List Segment} {chunks : List Chunk}
    (h : Spelled segments chunks) (hproper : ∀ chunk ∈ chunks, chunk.Proper) {values : FormValues}
    (hvalues : values.IsBraceFree) :
    (render (String.join (segments.map Segment.html)) values).toList
      = chunks.flatMap (Chunk.fill values.image) := by
  have hhtml := h.toList_html
  have htemplate : WellFormed (String.join (segments.map Segment.html)).toList :=
    ⟨chunks, hproper, hhtml⟩
  have hrender := expands_render htemplate hvalues.isWellFormed hvalues.acyclic
  have hwritten := hvalues.expands_written hproper
  rw [hhtml] at hrender
  exact hrender.unique hwritten

end Receipts
