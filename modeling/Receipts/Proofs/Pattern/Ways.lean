import Mathlib.Data.List.Infix
import Receipts.Pattern.Ways

/-!
# Single steps of matching

A fixed text is passed exactly where it stands. The places where a run may stop are told from the
nearest one on, and greed only decides in which direction they are tried.
-/

namespace Receipts.Pattern

theorem afterText?_append {t s : List Char} {spot : Spot} (h : spot.rest = t ++ s) :
    ∃ left, afterText? t spot = some ⟨left, s, spot.position + t.length, spot.captures⟩ := by
  induction t generalizing spot with
  | nil => exact ⟨spot.left, by simp [afterText?, ← show spot.rest = s by simpa using h]⟩
  | cons c t ih =>
      obtain ⟨left, hleft⟩ := @ih ⟨some c, t ++ s, spot.position + 1, spot.captures⟩ rfl
      refine ⟨left, ?_⟩
      rw [afterText?, h]
      simp only [List.cons_append, ↓reduceIte, hleft, List.length_cons]
      congr 2
      omega

theorem afterText?_eq_none {t : List Char} {spot : Spot} (h : ¬ t <+: spot.rest) :
    afterText? t spot = none := by
  induction t generalizing spot with
  | nil => exact absurd List.nil_prefix h
  | cons c t ih =>
      rw [afterText?]
      cases hrest : spot.rest with
      | nil => rfl
      | cons d rest =>
          by_cases hc : c = d
          · subst hc
            simp only [↓reduceIte]
            exact ih fun hp => h (hrest ▸ List.cons_prefix_cons.mpr ⟨rfl, hp⟩)
          · simp [hc]

/-! ## Choices -/

theorem matchAt_alt (first second : Pattern) (go : Continuation) (spot : Spot) :
    (alt first second).matchAt go spot
      = (first.matchAt go spot).or (second.matchAt go spot) := by
  rw [matchAt]
  cases first.matchAt go spot <;> rfl

theorem matchAt_optional (body : Pattern) (go : Continuation) (spot : Spot) :
    (repeated 0 (some 1) true body).matchAt go spot
      = (body.matchAt go spot).or (go spot) := by
  simp only [matchAt, turns, someTurns, Option.map_some, Option.getD_some]
  cases body.matchAt go spot <;> rfl

theorem matchAt_optional_lazy (body : Pattern) (go : Continuation) (spot : Spot) :
    (repeated 0 (some 1) false body).matchAt go spot
      = (go spot).or (body.matchAt go spot) := by
  simp only [matchAt, turns, someTurns, Option.map_some, Option.getD_some]
  cases go spot <;> rfl

/-! ## Runs -/

/-- The places after 0, 1, 2, … characters of a set, nearest first. -/
def nearSpots (set : CharSet) (captures : List Capture) :
    Option Char → List Char → Nat → Option Nat → List Spot
  | left, [], position, _ => [⟨left, [], position, captures⟩]
  | left, c :: rest, position, most =>
      ⟨left, c :: rest, position, captures⟩ ::
        if most == some 0 || !set.holds c then []
        else nearSpots set captures (some c) rest (position + 1) (most.map (· - 1))

theorem spotsFrom_eq (set : CharSet) (captures : List Capture) (found : List Spot)
    (left : Option Char) (s : List Char) (position : Nat) (most : Option Nat) :
    spotsFrom set captures found left s position most
      = (nearSpots set captures left s position most).reverse ++ found := by
  induction s generalizing found left position most with
  | nil => rfl
  | cons c s ih =>
      rw [spotsFrom, nearSpots]
      split
      · simp
      · rw [ih]
        simp

theorem runEnds_eq (set : CharSet) (least : Nat) (most : Option Nat) (greedy : Bool) (spot : Spot) :
    runEnds set least most greedy spot
      = if greedy then
          ((nearSpots set spot.captures spot.left spot.rest spot.position most).drop least).reverse
        else (nearSpots set spot.captures spot.left spot.rest spot.position most).drop least := by
  simp only [runEnds, spotsFrom_eq, List.append_nil, List.reverse_reverse]
  split
  · rw [List.reverse_drop]
    simp
  · rfl

theorem nearSpots_of_stop {set : CharSet} {c : Char} {most : Option Nat}
    (h : most = some 0 ∨ set.holds c = false) (captures : List Capture) (left : Option Char)
    (s : List Char) (position : Nat) :
    nearSpots set captures left (c :: s) position most
      = [⟨left, c :: s, position, captures⟩] := by
  rw [nearSpots]
  rcases h with rfl | h
  · rfl
  · simp [h]

theorem nearSpots_of_holds {set : CharSet} {c : Char} {most : Option Nat} (hmost : most ≠ some 0)
    (hc : set.holds c = true) (captures : List Capture) (left : Option Char) (s : List Char)
    (position : Nat) :
    nearSpots set captures left (c :: s) position most
      = ⟨left, c :: s, position, captures⟩ ::
        nearSpots set captures (some c) s (position + 1) (most.map (· - 1)) := by
  simp [nearSpots, hmost, hc]

/-- A run without bound passes a stretch of its characters, and may stop at each of them. -/
theorem nearSpots_append {set : CharSet} {w : List Char} (hw : ∀ c ∈ w, set.holds c = true)
    (captures : List Capture) (left : Option Char) (s : List Char) (position : Nat) :
    ∃ inside left',
      nearSpots set captures left (w ++ s) position none
        = inside ++ nearSpots set captures left' s (position + w.length) none ∧
      inside.length = w.length ∧
      ∀ spot ∈ inside, ∃ v, v <:+ w ∧ v ≠ [] ∧ spot.rest = v ++ s ∧
        spot.position + v.length = position + w.length ∧ spot.captures = captures := by
  induction w generalizing left position with
  | nil => exact ⟨[], left, by simp, rfl, by simp⟩
  | cons c w ih =>
      obtain ⟨inside, left', hspots, hlen, hinside⟩ :=
        ih (fun d hd => hw d (List.mem_cons_of_mem _ hd)) (some c) (position + 1)
      refine ⟨⟨left, c :: (w ++ s), position, captures⟩ :: inside, left', ?_, by simp [hlen], ?_⟩
      · rw [List.cons_append, nearSpots_of_holds (by simp) (hw c List.mem_cons_self)]
        simp only [Option.map_none, hspots, List.length_cons, List.cons_append]
        congr 3
        omega
      · intro spot hm
        rcases List.mem_cons.mp hm with rfl | hm
        · exact ⟨c :: w, List.suffix_rfl, by simp, rfl, rfl, rfl⟩
        · obtain ⟨v, hv, hne, hrest, hpos, hcap⟩ := hinside spot hm
          refine ⟨v, hv.trans (List.suffix_cons c w), hne, hrest, ?_, hcap⟩
          rw [hpos, List.length_cons]
          omega

/-! ## Searches -/

theorem searchFrom_cons (pattern : Pattern) (left : Option Char) (c : Char) (s : List Char)
    (position : Nat) :
    searchFrom pattern left (c :: s) position
      = (pattern.matchAt some ⟨left, c :: s, position, []⟩).or
          (searchFrom pattern (some c) s (position + 1)) := by
  rw [searchFrom]
  cases pattern.matchAt some ⟨left, c :: s, position, []⟩ <;> rfl

/-- A search passes a stretch where no match begins. -/
theorem searchFrom_append (pattern : Pattern) (w s : List Char) (position : Nat)
    (h : ∀ v, v <:+ w → v ≠ [] → ∀ left at',
      at' + v.length = position + w.length → pattern.matchAt some ⟨left, v ++ s, at', []⟩ = none)
    (left : Option Char) :
    ∃ left', searchFrom pattern left (w ++ s) position
      = searchFrom pattern left' s (position + w.length) := by
  induction w generalizing left position with
  | nil => exact ⟨left, rfl⟩
  | cons c w ih =>
      have hhere := h (c :: w) List.suffix_rfl (by simp) left position rfl
      obtain ⟨left', hrest⟩ := ih (position + 1) (fun v hv hne l at' hat =>
        h v (hv.trans (List.suffix_cons c w)) hne l at' (by simp only [List.length_cons]; omega))
        (some c)
      refine ⟨left', ?_⟩
      rw [List.cons_append] at hhere ⊢
      simp only [searchFrom, hhere, hrest, List.length_cons]
      congr 1
      omega

end Receipts.Pattern
