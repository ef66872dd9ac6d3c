import Receipts.Proofs.Text.Scan

/-!
# Scanning stretch by stretch

A text may be put together from stretches each of which a scan either takes as one hit or passes
over, whatever comes behind it. Then the scan acts on each stretch by itself, and no hit is found
across the joints.
-/

namespace Receipts.Text

section Scan

variable {α : Type}

/-- Whether no hit begins in a stretch, whatever comes behind it. -/
def IsPassed (recognise : Recogniser α) (s : List Char) : Prop :=
  ∀ b, b <:+ s → b ≠ [] → ∀ rest, recognise (b ++ rest) = none

/-- Whether a stretch is one hit, whatever comes behind it. -/
def IsTaken (recognise : Recogniser α) (s : List Char) (a : α) : Prop :=
  s ≠ [] ∧ ∀ rest, recognise (s ++ rest) = some (a, s.length)

/-- Whether all hits of a recogniser begin with one character. -/
def BeginsWith (recognise : Recogniser α) (first : Char) : Prop :=
  ∀ c s, c ≠ first → recognise (c :: s) = none

variable {recognise : Recogniser α} {first : Char} {s : List Char}

theorem BeginsWith.isPassed (hfirst : BeginsWith recognise first) (hs : first ∉ s) :
    IsPassed recognise s := by
  intro b hb hne rest
  obtain ⟨c, b, rfl⟩ := List.exists_cons_of_ne_nil hne
  exact hfirst c _ (ne_of_mem_of_not_mem (hb.subset List.mem_cons_self) hs)

theorem BeginsWith.isPassed_cons (hfirst : BeginsWith recognise first) (hs : first ∉ s) {c : Char}
    (hwhole : ∀ rest, recognise (c :: s ++ rest) = none) : IsPassed recognise (c :: s) := by
  intro b hb hne rest
  rcases List.suffix_cons_iff.mp hb with rfl | hb
  · exact hwhole rest
  · exact hfirst.isPassed hs b hb hne rest

theorem IsPassed.replaceHits_append (h : IsPassed recognise s) (image : α → List Char)
    (rest : List Char) :
    replaceHits recognise image (s ++ rest) = s ++ replaceHits recognise image rest :=
  Text.replaceHits_append image s rest fun b hb hne => h b hb hne rest

theorem IsTaken.replaceHits_append {a : α} (h : IsTaken recognise s a) (image : α → List Char)
    (rest : List Char) :
    replaceHits recognise image (s ++ rest) = image a ++ replaceHits recognise image rest := by
  obtain ⟨hne, hhit⟩ := h
  obtain ⟨c, s, rfl⟩ := List.exists_cons_of_ne_nil hne
  have hhere := hhit rest
  rw [List.cons_append] at hhere ⊢
  rw [replaceHits_of_hit image hhere, List.length_cons, Nat.add_sub_cancel, List.drop_left]

theorem IsPassed.hits_append (h : IsPassed recognise s) (rest : List Char) :
    hits recognise (s ++ rest) = hits recognise rest :=
  Text.hits_append s rest fun b hb hne => h b hb hne rest

theorem IsTaken.hits_append {a : α} (h : IsTaken recognise s a) (rest : List Char) :
    hits recognise (s ++ rest) = a :: hits recognise rest := by
  obtain ⟨hne, hhit⟩ := h
  obtain ⟨c, s, rfl⟩ := List.exists_cons_of_ne_nil hne
  have hhere := hhit rest
  rw [List.cons_append] at hhere ⊢
  rw [hits, pieces_of_hit hhere, List.length_cons, Nat.add_sub_cancel, List.drop_left]
  rfl

/-- A text of stretches that are taken or passed over. -/
theorem replaceHits_flatMap {β : Type} {image : α → List Char} {write become : β → List Char}
    {units : List β} (h : ∀ unit ∈ units,
      (∃ a, IsTaken recognise (write unit) a ∧ image a = become unit) ∨
        (IsPassed recognise (write unit) ∧ write unit = become unit)) :
    replaceHits recognise image (units.flatMap write) = units.flatMap become := by
  induction units with
  | nil => rfl
  | cons unit units ih =>
      obtain ⟨hunit, hunits⟩ := List.forall_mem_cons.mp h
      rw [List.flatMap_cons, List.flatMap_cons]
      rcases hunit with ⟨a, htaken, himage⟩ | ⟨hpassed, hsame⟩
      · rw [htaken.replaceHits_append, ih hunits, himage]
      · rw [hpassed.replaceHits_append, ih hunits, hsame]

/-- A text behind that changes nothing of what is found before it and holds no hit itself comes
through a scan as it is. -/
theorem replaceHits_append_after {image : α → List Char} {after : List Char}
    (hsame : ∀ s, s ≠ [] → recognise (s ++ after) = recognise s)
    (hwithin : ∀ s a width, recognise s = some (a, width) → width ≤ s.length)
    (hafter : ∀ b, b <:+ after → b ≠ [] → recognise b = none) (text : List Char) :
    replaceHits recognise image (text ++ after) = replaceHits recognise image text ++ after := by
  induction text using scan_induction recognise with
  | nil =>
      have hnone : ∀ b, b <:+ after → b ≠ [] → recognise (b ++ []) = none := fun b hb hne => by
        rw [List.append_nil]
        exact hafter b hb hne
      have hsame := Text.replaceHits_append image after [] hnone
      rwa [List.append_nil, replaceHits_nil, List.append_nil] at hsame
  | plain c s hplain ih =>
      have hplain' := (hsame (c :: s) (List.cons_ne_nil c s)).trans hplain
      rw [List.cons_append] at hplain' ⊢
      rw [replaceHits_of_plain image hplain', ih, replaceHits_of_plain image hplain,
        List.cons_append]
  | hit c s a width hhit ih =>
      have hhit' := (hsame (c :: s) (List.cons_ne_nil c s)).trans hhit
      have hle : width - 1 ≤ s.length := Nat.sub_le_of_le_add (hwithin _ a width hhit)
      rw [List.cons_append] at hhit' ⊢
      rw [replaceHits_of_hit image hhit', List.drop_append_of_le_length hle, ih,
        replaceHits_of_hit image hhit, List.append_assoc]

end Scan

theorem beginsWith_literal (c : Char) (p : List Char) : BeginsWith (literal (c :: p)) c := by
  intro d s hd
  rw [literal_eq_none_iff, List.cons_prefix_cons]
  exact fun h => hd h.1.symm

theorem isTaken_literal {p : List Char} (hne : p ≠ []) : IsTaken (literal p) p () :=
  ⟨hne, fun rest => literal_of_prefix (List.prefix_append p rest)⟩

end Receipts.Text
