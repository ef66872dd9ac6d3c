import Receipts.Proofs.Template.Scan

/-!
# Well-formed texts

A text is well formed when it falls apart into plain stretches and tokens of brace-free names. Two
opening braces stand in such a text only where a token begins, so scanning and literal replacement
act on it chunk by chunk, and the result of replacing a token by a well-formed text is well formed.
-/

namespace Receipts.Template

/-- A name without braces. -/
def IsKey (name : List Char) : Prop :=
  name ≠ [] ∧ '{' ∉ name ∧ '}' ∉ name

theorem IsKey.isName {name : List Char} (h : IsKey name) : IsName name :=
  ⟨h.1, h.2.2⟩

/-- A text without doubled braces that neither begins nor ends with a brace. -/
structure IsPlain (s : List Char) : Prop where
  no_opening : ¬ ['{', '{'] <:+: s
  no_closing : ¬ ['}', '}'] <:+: s
  head_ne : ∀ c ∈ s.head?, c ≠ '{' ∧ c ≠ '}'
  last_ne : ∀ c ∈ s.getLast?, c ≠ '{' ∧ c ≠ '}'

/-- A text without braces is plain. -/
theorem isPlain_of_no_brace {s : List Char} (ho : '{' ∉ s) (hc : '}' ∉ s) : IsPlain s where
  no_opening h := ho (h.subset (by simp))
  no_closing h := hc (h.subset (by simp))
  head_ne c h := by
    have hm := List.mem_of_mem_head? h
    exact ⟨ne_of_mem_of_not_mem hm ho, ne_of_mem_of_not_mem hm hc⟩
  last_ne c h := by
    have hm := List.mem_of_mem_getLast? h
    exact ⟨ne_of_mem_of_not_mem hm ho, ne_of_mem_of_not_mem hm hc⟩

theorem isPlain_nil : IsPlain [] :=
  isPlain_of_no_brace List.not_mem_nil List.not_mem_nil

instance (name : List Char) : Decidable (IsKey name) :=
  inferInstanceAs (Decidable (_ ∧ _ ∧ _))

instance (s : List Char) : Decidable (IsPlain s) :=
  decidable_of_iff (¬ ['{', '{'] <:+: s ∧ ¬ ['}', '}'] <:+: s ∧
      (s.head?.all fun c => c != '{' && c != '}') = true ∧
      (s.getLast?.all fun c => c != '{' && c != '}') = true)
    ⟨fun ⟨ho, hc, hh, hl⟩ =>
        ⟨ho, hc, by simpa [Option.all_eq_true] using hh, by simpa [Option.all_eq_true] using hl⟩,
      fun h =>
        ⟨h.no_opening, h.no_closing, by simpa [Option.all_eq_true] using h.head_ne,
          by simpa [Option.all_eq_true] using h.last_ne⟩⟩

/-- A plain stretch, or a slot for a value. -/
inductive Chunk where
  | plain (s : List Char)
  | slot (name : List Char)
  deriving DecidableEq

namespace Chunk

/-- A chunk as it stands in the text. -/
def text : Chunk → List Char
  | .plain s => s
  | .slot name => token name

/-- A plain stretch is plain and a slot has a brace-free name. -/
def Proper : Chunk → Prop
  | .plain s => IsPlain s
  | .slot name => IsKey name

instance : (chunk : Chunk) → Decidable chunk.Proper
  | .plain s => inferInstanceAs (Decidable (IsPlain s))
  | .slot name => inferInstanceAs (Decidable (IsKey name))

/-- The chunk with its slot filled. -/
def fill (image : List Char → List Char) : Chunk → List Char
  | .plain s => s
  | .slot name => image name

end Chunk

/-- The text that chunks make up. -/
def written (chunks : List Chunk) : List Char :=
  chunks.flatMap Chunk.text

/-- A text that proper chunks make up. -/
def WellFormed (text : List Char) : Prop :=
  ∃ chunks : List Chunk, (∀ chunk ∈ chunks, chunk.Proper) ∧ text = written chunks

theorem written_cons (chunk : Chunk) (chunks : List Chunk) :
    written (chunk :: chunks) = chunk.text ++ written chunks := rfl

theorem written_append (a b : List Chunk) : written (a ++ b) = written a ++ written b := by
  simp [written]

theorem WellFormed.append {a b : List Char} (ha : WellFormed a) (hb : WellFormed b) :
    WellFormed (a ++ b) := by
  obtain ⟨as, has, rfl⟩ := ha
  obtain ⟨bs, hbs, rfl⟩ := hb
  refine ⟨as ++ bs, fun chunk h => ?_, (written_append as bs).symm⟩
  exact (List.mem_append.mp h).elim (has chunk) (hbs chunk)

theorem wellFormed_of_chunk (chunk : Chunk) (h : chunk.Proper) : WellFormed chunk.text :=
  ⟨[chunk], by simpa using h, by simp [written]⟩

/-! ## Where tokens begin -/

theorem opening_of_token {key s : List Char} (h : token key <+: s) :
    ['{', '{'] <+: s :=
  (List.prefix_append ['{', '{'] (key ++ ['}', '}'])).trans h

/-- No two opening braces begin inside a plain stretch, whatever follows it. -/
theorem IsPlain.not_opening {s b rest : List Char} (h : IsPlain s) (hb : b <:+ s) (hne : b ≠ []) :
    ¬ ['{', '{'] <+: b ++ rest := by
  intro hp
  obtain ⟨c, b, rfl⟩ := List.exists_cons_of_ne_nil hne
  cases b with
  | nil =>
      obtain ⟨a, rfl⟩ := hb
      have hc : '{' = c := (List.cons_prefix_cons.mp hp).1
      exact (h.last_ne c (by simp)).1 hc.symm
  | cons d b =>
      have hq : ['{', '{'] <+: c :: d :: b := by
        simp only [List.cons_append, List.cons_prefix_cons, List.nil_prefix, and_true] at hp ⊢
        exact hp
      exact h.no_opening (hq.isInfix.trans hb.isInfix)

/-- No two opening braces begin inside a token behind its front, whatever follows it. -/
theorem IsKey.not_opening {name b rest : List Char} (h : IsKey name) (hb : b <:+ token name)
    (hne : b ≠ []) (hfront : b ≠ token name) : ¬ ['{', '{'] <+: b ++ rest := by
  intro hp
  rw [token, List.suffix_cons_iff] at hb
  rcases hb with hb | hb
  · exact hfront hb
  rw [List.suffix_cons_iff] at hb
  rcases hb with rfl | hb
  · obtain ⟨c, name, rfl⟩ := List.exists_cons_of_ne_nil h.1
    obtain rfl : '{' = c := by simpa using hp
    exact h.2.1 List.mem_cons_self
  · obtain ⟨c, b, rfl⟩ := List.exists_cons_of_ne_nil hne
    obtain rfl : '{' = c := (List.cons_prefix_cons.mp hp).1
    have hm : '{' ∈ name ++ ['}', '}'] := hb.subset List.mem_cons_self
    simp [h.2.1] at hm

/-- The token at the front of a text tells its name. -/
theorem token_prefix_token_iff {key name s : List Char} (hkey : '}' ∉ key) (hname : '}' ∉ name) :
    token key <+: token name ++ s ↔ key = name := by
  constructor
  · rintro ⟨rest, hrest⟩
    have htail : key ++ '}' :: '}' :: rest = name ++ '}' :: '}' :: s := by
      simpa [token_append] using hrest
    exact Text.eq_of_append_stop hkey hname htail
  · rintro rfl
    exact List.prefix_append _ _

/-! ## Scanning and replacing by chunks -/

theorem fill_written (image : List Char → List Char) {chunks : List Chunk}
    (h : ∀ chunk ∈ chunks, chunk.Proper) :
    fill image (written chunks) = chunks.flatMap (Chunk.fill image) := by
  induction chunks with
  | nil => rfl
  | cons chunk chunks ih =>
      have hrest := ih fun c hc => h c (List.mem_cons_of_mem _ hc)
      have hchunk := h chunk List.mem_cons_self
      rw [written_cons, List.flatMap_cons]
      cases chunk with
      | plain s =>
          have hs : IsPlain s := hchunk
          rw [Chunk.text, fill_append image s _ fun b hb hne name _ hp =>
            hs.not_opening hb hne (opening_of_token hp), hrest]
          rfl
      | slot name =>
          rw [Chunk.text, fill_token image (IsKey.isName hchunk), hrest]
          rfl

/-- The chunks with every slot of a key replaced by other chunks. -/
def put (key : List Char) (inserted chunks : List Chunk) : List Chunk :=
  chunks.flatMap fun chunk => if chunk = .slot key then inserted else [chunk]

theorem proper_put {key : List Char} {inserted chunks : List Chunk}
    (hi : ∀ chunk ∈ inserted, chunk.Proper) (h : ∀ chunk ∈ chunks, chunk.Proper) :
    ∀ chunk ∈ put key inserted chunks, chunk.Proper := by
  intro chunk hc
  obtain ⟨source, hsource, hmem⟩ := List.mem_flatMap.mp hc
  split at hmem
  · exact hi chunk hmem
  · rw [List.mem_singleton.mp hmem]
    exact h source hsource

/-- Replacing a token literally fills its slots and changes nothing else. -/
theorem replaceAll_written {key : List Char} (hkey : IsKey key) (inserted : List Chunk)
    {chunks : List Chunk} (h : ∀ chunk ∈ chunks, chunk.Proper) :
    Text.replaceAll (token key) (written inserted) (written chunks)
      = written (put key inserted chunks) := by
  have hne := token_ne_nil key
  induction chunks with
  | nil => exact Text.replaceAll_nil _ hne
  | cons chunk chunks ih =>
      have hrest := ih fun c hc => h c (List.mem_cons_of_mem _ hc)
      have hchunk := h chunk List.mem_cons_self
      rw [written_cons, put, List.flatMap_cons, written_append, ← put, ← hrest]
      by_cases heq : chunk = .slot key
      · rw [if_pos heq, heq, Chunk.text, Text.replaceAll_append_left _ hne]
      · rw [if_neg heq, written_cons, show written [] = [] from rfl, List.append_nil]
        refine Text.replaceAll_append _ hne _ _ fun b hb hb' hp => ?_
        cases chunk with
        | plain s =>
            exact IsPlain.not_opening hchunk hb hb' (opening_of_token hp)
        | slot name =>
            by_cases hfront : b = token name
            · rw [hfront, token_prefix_token_iff hkey.2.2 hchunk.2.2] at hp
              exact heq (hp ▸ rfl)
            · exact IsKey.not_opening hchunk hb hb' hfront (opening_of_token hp)

/-- A token stands in a well-formed text exactly as one of its slots. -/
theorem token_infix_written_iff {key : List Char} (hkey : IsKey key) {chunks : List Chunk}
    (h : ∀ chunk ∈ chunks, chunk.Proper) :
    token key <:+: written chunks ↔ .slot key ∈ chunks := by
  constructor
  · intro hin
    by_contra hmem
    -- Removing the token would leave the chunks alone, yet it makes the text shorter.
    have hput : put key [] chunks = chunks := by
      have hkeep : ∀ chunk ∈ chunks,
          (if chunk = .slot key then [] else [chunk]) = [chunk] := by
        intro chunk hc
        rw [if_neg]
        rintro rfl
        exact hmem hc
      rw [put, List.flatMap_congr hkeep, List.flatMap_singleton']
    have hlt := Text.replaceAll_nil_length_lt (token_ne_nil key) (Text.occurs_iff.mpr hin)
    have hsame := replaceAll_written hkey [] h
    rw [hput] at hsame
    rw [show ([] : List Char) = written [] from rfl, hsame] at hlt
    exact lt_irrefl _ hlt
  · intro hmem
    obtain ⟨before, after, rfl⟩ := List.append_of_mem hmem
    exact ⟨written before, written after, by simp [written, Chunk.text]⟩

theorem WellFormed.replaceAll {key text value : List Char} (hkey : IsKey key)
    (ht : WellFormed text) (hv : WellFormed value) :
    WellFormed (Text.replaceAll (token key) value text) := by
  obtain ⟨chunks, hchunks, rfl⟩ := ht
  obtain ⟨inserted, hinserted, rfl⟩ := hv
  exact ⟨_, proper_put hinserted hchunks, replaceAll_written hkey inserted hchunks⟩

/-- After a replacement a token is an old one of another key, or comes with the value. -/
theorem token_infix_replaceAll {key name text value : List Char} (hkey : IsKey key)
    (hname : IsKey name) (ht : WellFormed text) (hv : WellFormed value)
    (h : token name <:+: Text.replaceAll (token key) value text) :
    (token name <:+: text ∧ name ≠ key) ∨ (token key <:+: text ∧ token name <:+: value) := by
  obtain ⟨chunks, hchunks, rfl⟩ := ht
  obtain ⟨inserted, hinserted, rfl⟩ := hv
  rw [replaceAll_written hkey inserted hchunks,
    token_infix_written_iff hname (proper_put hinserted hchunks)] at h
  rw [token_infix_written_iff hname hchunks, token_infix_written_iff hkey hchunks,
    token_infix_written_iff hname hinserted]
  obtain ⟨source, hsource, hmem⟩ := List.mem_flatMap.mp h
  split at hmem
  · rename_i heq
    exact .inr ⟨heq ▸ hsource, hmem⟩
  · rename_i hne
    rw [← List.mem_singleton.mp hmem] at hsource hne
    exact .inl ⟨hsource, fun heq => hne (heq ▸ rfl)⟩

end Receipts.Template
