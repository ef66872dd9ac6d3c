import Receipts.Proofs.Json.Passing

/-!
# From one part of a container to the next

A reader of a container comes to the next item or member behind a comma, unless it is the first, or
else to the closing. Blanks may stand before either and behind the comma.
-/

namespace Receipts.Json

open Scan (skipSpace)

namespace Read

/-! ## Items -/

theorem endList_append {blanks : Input} (h : AreBlanks blanks) (rest : Input) :
    endList (blanks ++ some ']' :: rest) = .ok rest := by
  rw [endList, h.skipSpace_append, skipSpace_of_visible (by decide)]
  rfl

theorem exists_of_endList {s rest : Input} (h : endList s = .ok rest) :
    ∃ blanks, AreBlanks blanks ∧ s = blanks ++ some ']' :: rest := by
  obtain ⟨blanks, hblanks, hs⟩ := exists_blanks s
  unfold endList at h
  split at h
  · cases h
  · rename_i hend
    rw [hend, Except.ok.inj h] at hs
    exact ⟨blanks, hblanks, hs⟩
  · split at h <;> cases h
  · cases h

theorem nextItem_append {blanks before v : Input} (hblanks : AreBlanks blanks)
    (hbefore : AreBlanks before) (hv : IsPart .value v) (first : Bool) (rest : Input) :
    nextItem first (blanks ++ (Input.ofChars (comma first) ++ (before ++ (v ++ rest))))
      = .ok (some (skipSpace (v ++ rest))) := by
  obtain ⟨x, s, hs, hx⟩ := hv.exists_head rfl rest
  rw [nextItem, hblanks.skipSpace_append]
  cases first with
  | true =>
      rw [comma, if_pos rfl, Input.ofChars_nil, List.nil_append, hbefore.skipSpace_append, hs]
      split <;> simp_all
  | false =>
      rw [comma, if_neg (by decide), Input.ofChars_cons, List.cons_append,
        skipSpace_of_visible (by decide)]
      split
      · rename_i heq
        cases heq
      · rename_i heq
        cases heq
      · rename_i heq
        cases heq
        rw [if_neg Bool.false_ne_true, if_pos (beq_self_eq_true _), Input.ofChars_nil,
          List.nil_append, hbefore.skipSpace_append, hs]
        split <;> simp_all

theorem exists_of_nextItem {first : Bool} {s rest : Input}
    (h : nextItem first s = .ok (some rest)) : ∃ blanks before, AreBlanks blanks ∧
      AreBlanks before ∧ s = blanks ++ (Input.ofChars (comma first) ++ (before ++ rest)) := by
  obtain ⟨blanks, hblanks, hs⟩ := exists_blanks s
  unfold nextItem at h
  split at h
  · cases h
  · cases h
  · rename_i x after _ hx
    rw [hx] at hs
    split at h
    · rename_i hfirst
      cases h
      exact ⟨blanks, [], hblanks, .nil, by rw [hs, hfirst]; rfl⟩
    · rename_i hfirst
      obtain rfl : first = false := by simpa using hfirst
      split at h
      · rename_i hcomma
        obtain ⟨before, hbefore, hafter⟩ := exists_blanks after
        rw [eq_of_beq hcomma, hafter] at hs
        split at h
        · cases h
        · cases h
        · cases h
          exact ⟨blanks, before, hblanks, hbefore, hs⟩
      · cases h

/-! ## Members -/

theorem nextKey_append {blanks before inside : Input} {key : String} (hblanks : AreBlanks blanks)
    (hbefore : AreBlanks before) (hinside : Says inside key) (first : Bool) (rest : Input) :
    nextKey first (blanks ++ (Input.ofChars (comma first) ++
        (before ++ some '"' :: (inside ++ some '"' :: rest)))) = .ok (some (key, rest)) := by
  have hread : Scan.text (inside ++ some '"' :: rest) = .ok (key, rest) :=
    Scan.text_eq_ok_iff.mpr ⟨inside, hinside, rfl⟩
  rw [nextKey, hblanks.skipSpace_append]
  cases first with
  | true =>
      rw [comma, if_pos rfl, Input.ofChars_nil, List.nil_append, hbefore.skipSpace_append,
        skipSpace_of_visible (by decide)]
      simp [hread, Except.map]
  | false =>
      rw [comma, if_neg (by decide), Input.ofChars_cons, List.cons_append,
        skipSpace_of_visible (by decide)]
      simp [hbefore.skipSpace_append, skipSpace_of_visible (c := '"') (by decide), hread,
        Except.map]

theorem nextKey_blanks {blanks : Input} (hblanks : AreBlanks blanks) (first : Bool)
    (rest : Input) : nextKey first (blanks ++ some '}' :: rest) = .ok none := by
  rw [nextKey, hblanks.skipSpace_append, skipSpace_of_visible (by decide)]
  rfl

/-- What the next key of an object is found at: nothing at a closing brace, else the key with what
follows it. -/
def KeyAt (first : Bool) (s : Input) : Option (String × Input) → Prop
  | none => s = some '}' :: s.drop 1
  | some (key, rest) => ∃ before inside, AreBlanks before ∧ Says inside key ∧
      s = Input.ofChars (comma first) ++ (before ++ some '"' :: (inside ++ some '"' :: rest))

theorem keyAt_of_text (first : Bool) {before s : Input} {found : Option (String × Input)}
    (hbefore : AreBlanks before) (h : (Scan.text s).map some = .ok found) :
    KeyAt first (Input.ofChars (comma first) ++ (before ++ some '"' :: s)) found := by
  obtain ⟨⟨key, rest⟩, hread, rfl⟩ := map_eq_ok_iff.mp h
  obtain ⟨inside, hinside, rfl⟩ := Scan.text_eq_ok_iff.mp hread
  exact ⟨before, inside, hbefore, hinside, rfl⟩

theorem keyAt_of_nextKey {first : Bool} {s : Input} {found : Option (String × Input)}
    (h : nextKey first s = .ok found) : KeyAt first (skipSpace s) found := by
  unfold nextKey at h
  split at h
  · cases h
  · rename_i hend
    cases h
    rw [hend]
    rfl
  · rename_i x after _ hx
    rw [hx]
    split at h
    · rename_i hfirst
      split at h
      · rename_i hquote
        rw [hfirst, eq_of_beq hquote]
        exact keyAt_of_text true .nil h
      · cases h
    · rename_i hfirst
      obtain rfl : first = false := by simpa using hfirst
      split at h
      · rename_i hcomma
        obtain ⟨before, hbefore, hafter⟩ := exists_blanks after
        rw [eq_of_beq hcomma, hafter]
        split at h
        · cases h
        · rename_i hquote
          rw [hquote]
          exact keyAt_of_text false hbefore h
        · cases h
        · cases h
      · cases h

section
variable {σ : Type} {member : σ → String → Except Cause (Input → Outcome σ)}

theorem membersFrom_blanks {blanks : Input} (hblanks : AreBlanks blanks) (fuel : Nat)
    (first : Bool) (read : σ) (rest : Input) :
    membersFrom member (fuel + 1) first read (blanks ++ some '}' :: rest) = .ok (read, rest) := by
  rw [membersFrom, nextKey_blanks hblanks, hblanks.skipSpace_append,
    skipSpace_of_visible (by decide)]
  rfl

/-- A member is read as what its reader makes of the value behind the colon. -/
theorem membersFrom_member {blanks before inside after s rest : Input} {key : String}
    (hblanks : AreBlanks blanks) (hbefore : AreBlanks before) (hinside : Says inside key)
    (hafter : AreBlanks after) {read next : σ} {reader : Input → Outcome σ}
    (hmember : member read key = .ok reader) (hvalue : reader s = .ok (next, rest)) (fuel : Nat)
    (first : Bool) :
    membersFrom member (fuel + 1) first read (blanks ++ (Input.ofChars (comma first) ++
        (before ++ some '"' :: (inside ++ some '"' :: (after ++ some ':' :: s)))))
      = membersFrom member fuel false next rest := by
  rw [membersFrom, nextKey_append hblanks hbefore hinside]
  simp only [here, within, hmember, colon_append hafter, hvalue]

end

end Read

end Receipts.Json
