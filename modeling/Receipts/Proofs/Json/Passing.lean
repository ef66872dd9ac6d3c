import Receipts.Json.Read
import Receipts.Proofs.Json.Scanning

/-!
# Values that are passed over

A value is passed over exactly when the grammar has one there, whatever it is. The pass keeps the
containers that are open on a stack. What is left of the input has to close each of them in turn,
and the pass ends where the last one is closed.
-/

namespace Receipts.Json

open Scan (isSpace skipSpace)

/-! ## Blanks -/

theorem exists_blanks (s : Input) : ∃ blanks, AreBlanks blanks ∧ s = blanks ++ skipSpace s :=
  ⟨s.takeWhile isSpace, List.all_eq_true.mp List.all_takeWhile,
    List.takeWhile_append_dropWhile.symm⟩

theorem AreBlanks.skipSpace_append {blanks : Input} (h : AreBlanks blanks) (s : Input) :
    skipSpace (blanks ++ s) = skipSpace s :=
  List.dropWhile_append_of_pos h

theorem skipSpace_skipSpace (s : Input) : skipSpace (skipSpace s) = skipSpace s := by
  obtain ⟨blanks, hblanks, hs⟩ := exists_blanks s
  have h := hblanks.skipSpace_append (skipSpace s)
  rw [← hs] at h
  exact h.symm

theorem not_special_of_isSpace {x : Text.Symbol} (h : isSpace x = true) :
    Scan.isDigit x = false ∧ x ≠ some '.' ∧ x ≠ some 'e' ∧ x ≠ some 'E' := by
  simp only [isSpace, Bool.or_eq_true, beq_iff_eq] at h
  rcases h with ((rfl | rfl) | rfl) | rfl <;> decide

theorem not_isSpace_of_isDigit {x : Text.Symbol} (hx : Scan.isDigit x = true) :
    ¬ isSpace x = true := fun h => by
  rw [(not_special_of_isSpace h).1] at hx
  cases hx

theorem AreBlanks.endsNumeral {blanks : Input} (h : AreBlanks blanks) : EndsNumeral blanks :=
  fun _ hx => not_special_of_isSpace (h _ (List.mem_of_mem_head? hx))

/-- Behind a value in a container no numeral goes on. -/
theorem IsPart.endsNumeral {part : Part} {s : Input} (h : IsPart part s)
    (hpart : part = .list false ∨ part = .object false) (rest : Input) :
    EndsNumeral (s ++ rest) := by
  cases h with
  | blank hx _ =>
      rintro _ ⟨⟩
      exact not_special_of_isSpace hx
  | word | unsigned | negative | text | list | object => simp at hpart
  | listEnd | objectEnd =>
      rintro _ ⟨⟩
      decide
  | item first | member first =>
      obtain rfl : first = false := by simpa using hpart
      rintro _ ⟨⟩
      decide

/-- What a value begins with does not close a container. -/
theorem IsPart.exists_head {part : Part} {v : Input} (h : IsPart part v) (hpart : part = .value)
    (rest : Input) : ∃ x s, skipSpace (v ++ rest) = x :: s ∧ x ≠ some ']' := by
  -- only blanks may stand before it, so the induction is on those
  induction h with
  | @blank _ x s hx _ ih =>
      rw [List.cons_append, skipSpace, List.dropWhile_cons_of_pos hx]
      exact ih hpart
  | @word w hw =>
      simp only [wordValues, List.mem_cons, List.not_mem_nil, or_false] at hw
      rcases hw with rfl | rfl | rfl <;> exact ⟨_, _, rfl, by decide⟩
  | unsigned hv =>
      obtain ⟨whole, fraction, exponent, ⟨⟨hne, hdigits⟩, -⟩, -, -, rfl⟩ := hv
      obtain ⟨x, w, rfl⟩ := List.exists_cons_of_ne_nil hne
      have hx := hdigits x List.mem_cons_self
      refine ⟨x, _, List.dropWhile_cons_of_neg (not_isSpace_of_isDigit hx), ?_⟩
      rintro rfl
      cases hx
  | negative | text | list | object => exact ⟨_, _, rfl, by decide⟩
  | listEnd | item | objectEnd | member => cases hpart

namespace Read

theorem skipSpace_of_visible {c : Char} (h : Scan.isSpace (some c) = false) (s : Input) :
    skipSpace (some c :: s) = some c :: s := by
  rw [skipSpace, List.dropWhile_cons_of_neg (by simp [h])]

/-! ## One step of a pass -/

theorem exists_of_word {c : Char} {w : List Char} {s rest : Input}
    (h : Scan.word w s = .ok rest) (hw : c :: w ∈ wordValues) :
    ∃ v, IsPart .value v ∧ some c :: s = v ++ rest := by
  refine ⟨_, .word hw, ?_⟩
  rw [Scan.eq_of_word h]
  rfl

/-- At a value a pass opens a container or takes the value. -/
theorem step_atValue {fuel : Nat} {frames : List Frame} {s rest : Input}
    (h : skipFrom (fuel + 1) .atValue frames s = .ok rest) :
    (∃ after, skipSpace s = some '[' :: after ∧
        skipFrom fuel (.atNext false) (.list :: frames) after = .ok rest) ∨
      (∃ after, skipSpace s = some '{' :: after ∧
        skipFrom fuel (.atNext false) (.object :: frames) after = .ok rest) ∨
      ∃ v after, IsPart .value v ∧ skipSpace s = v ++ after ∧
        skipFrom fuel (.atNext true) frames after = .ok rest := by
  rw [skipFrom] at h
  split at h
  · cases h
  · exact .inl ⟨_, ‹_›, h⟩
  · exact .inr (.inl ⟨_, ‹_›, h⟩)
  all_goals
    rename_i hs
    rw [hs]
    refine .inr (.inr ?_)
  -- the words, a negative number, a text and any other number
  · split at h
    · obtain ⟨v, hv, hsplit⟩ := exists_of_word (c := 'n') ‹_› (by decide)
      exact ⟨v, _, hv, hsplit, h⟩
    · cases h
  · split at h
    · obtain ⟨v, hv, hsplit⟩ := exists_of_word (c := 't') ‹_› (by decide)
      exact ⟨v, _, hv, hsplit, h⟩
    · cases h
  · split at h
    · obtain ⟨v, hv, hsplit⟩ := exists_of_word (c := 'f') ‹_› (by decide)
      exact ⟨v, _, hv, hsplit, h⟩
    · cases h
  · split at h
    · rename_i hnumber
      obtain ⟨w, hw, rfl⟩ := Scan.exists_of_skipNumber hnumber
      exact ⟨_, _, .negative hw, rfl, h⟩
    · cases h
  · split at h
    · rename_i htext
      obtain ⟨inside, hinside, rfl⟩ := Scan.skipText_eq_ok_iff.mp htext
      exact ⟨_, _, .text hinside, by simp, h⟩
    · cases h
  · split at h
    · split at h
      · rename_i hnumber
        obtain ⟨w, hw, hsplit⟩ := Scan.exists_of_skipNumber hnumber
        exact ⟨w, _, .unsigned hw, hsplit, h⟩
      · cases h
    · cases h

/-- In a list a pass closes it or goes on to an item. -/
theorem step_list {fuel : Nat} {later : Bool} {frames : List Frame} {s rest : Input}
    (h : skipFrom (fuel + 1) (.atNext later) (.list :: frames) s = .ok rest) :
    (∃ after, skipSpace s = some ']' :: after ∧
        skipFrom fuel (.atNext true) frames after = .ok rest) ∨
      ∃ after, skipSpace s = Input.ofChars (comma !later) ++ after ∧
        skipFrom fuel .atValue (.list :: frames) after = .ok rest := by
  rw [skipFrom] at h
  split at h
  · cases h
  · exact .inl ⟨_, ‹_›, h⟩
  · rename_i hs
    rw [hs]
    cases later with
    | false => exact .inr ⟨_, rfl, h⟩
    | true =>
        rw [if_neg (by decide)] at h
        split at h
        · rename_i hx
          rw [eq_of_beq hx]
          exact .inr ⟨_, rfl, h⟩
        · cases h

theorem colon_append {after : Input} (h : AreBlanks after) (rest : Input) :
    colon (after ++ some ':' :: rest) = .ok rest := by
  rw [colon, h.skipSpace_append, skipSpace_of_visible (by decide)]
  rfl

theorem exists_of_colon {s rest : Input} (h : colon s = .ok rest) :
    ∃ after, AreBlanks after ∧ s = after ++ some ':' :: rest := by
  obtain ⟨after, hafter, hs⟩ := exists_blanks s
  unfold colon at h
  split at h
  · cases h
  · rename_i hcolon
    rw [hcolon, Except.ok.inj h] at hs
    exact ⟨after, hafter, hs⟩
  · cases h

theorem exists_of_skipKey {s rest : Input} (h : skipKey s = .ok rest) :
    ∃ before key after, AreBlanks before ∧ IsInside key ∧ AreBlanks after ∧
      s = before ++ some '"' :: (key ++ some '"' :: (after ++ some ':' :: rest)) := by
  obtain ⟨before, hbefore, hs⟩ := exists_blanks s
  unfold skipKey at h
  split at h
  · cases h
  · rename_i hquote
    obtain ⟨behind, htext, hcolon⟩ := bind_eq_ok_iff.mp h
    obtain ⟨key, hkey, rfl⟩ := Scan.skipText_eq_ok_iff.mp htext
    obtain ⟨after, hafter, rfl⟩ := exists_of_colon hcolon
    rw [hquote] at hs
    exact ⟨before, key, after, hbefore, hkey, hafter, hs⟩
  · cases h

/-- In an object a pass closes it or goes on to the value of a member. -/
theorem step_object {fuel : Nat} {later : Bool} {frames : List Frame} {s rest : Input}
    (h : skipFrom (fuel + 1) (.atNext later) (.object :: frames) s = .ok rest) :
    (∃ after, skipSpace s = some '}' :: after ∧
        skipFrom fuel (.atNext true) frames after = .ok rest) ∨
      ∃ member after, skipSpace s = Input.ofChars (comma !later) ++ member ∧
        skipKey member = .ok after ∧
        skipFrom fuel .atValue (.object :: frames) after = .ok rest := by
  rw [skipFrom] at h
  split at h
  · cases h
  · exact .inl ⟨_, ‹_›, h⟩
  · rename_i x after _ hs
    rw [hs]
    split at h
    · cases h
    · rename_i hcomma
      split at h
      · rename_i hkey
        cases later with
        | false => exact .inr ⟨_, _, rfl, hkey, h⟩
        | true =>
            obtain rfl : x = some ',' := by simpa using hcomma
            exact .inr ⟨_, _, rfl, hkey, h⟩
      · cases h

/-! ## What is passed over -/

/-- The part of a document that a container goes on with. -/
def Frame.part (first : Bool) : Frame → Part
  | .list => .list first
  | .object => .object first

/-- Whether an input is `rest` behind the ends of the open containers, innermost first. -/
def Closes : List Frame → Input → Input → Prop
  | [], s, rest => s = rest
  | frame :: frames, s, rest => ∃ w after, IsPart (frame.part false) w ∧ s = w ++ after ∧
      Closes frames after rest

/-- What stands at the place of a pass that ends at `rest`: a value, or the rest of the innermost
container, and then the ends of the others. -/
def Passes : Pass → List Frame → Input → Input → Prop
  | .atValue, frames, s, rest => ∃ v after, IsPart .value v ∧ s = v ++ after ∧
      Closes frames after rest
  | .atNext _, [], s, rest => s = rest
  | .atNext later, frame :: frames, s, rest => ∃ w after, IsPart (frame.part !later) w ∧
      s = w ++ after ∧ Closes frames after rest

theorem Passes.closes {frames : List Frame} {s rest : Input}
    (h : Passes (.atNext true) frames s rest) : Closes frames s rest := by
  cases frames <;> exact h

theorem passes_of_skipFrom {fuel : Nat} {pass : Pass} {frames : List Frame} {s rest : Input}
    (h : skipFrom fuel pass frames s = .ok rest) : Passes pass frames s rest := by
  induction fuel generalizing pass frames s with
  | zero => cases h
  | succ fuel ih =>
      obtain ⟨blanks, hblanks, hs⟩ := exists_blanks s
      cases pass with
      | atValue =>
          rcases step_atValue h with ⟨after, hopen, hstep⟩ | ⟨after, hopen, hstep⟩ |
            ⟨v, after, hv, hsplit, hstep⟩
          · obtain ⟨w, after, hw, rfl, hclosed⟩ := ih hstep
            exact ⟨_, after, hblanks.isPart (.list hw), by rw [hs, hopen]; simp, hclosed⟩
          · obtain ⟨w, after, hw, rfl, hclosed⟩ := ih hstep
            exact ⟨_, after, hblanks.isPart (.object hw), by rw [hs, hopen]; simp, hclosed⟩
          · exact ⟨_, after, hblanks.isPart hv, by rw [hs, hsplit]; simp, (ih hstep).closes⟩
      | atNext later =>
          cases frames with
          | nil =>
              rw [skipFrom_closed] at h
              exact Except.ok.inj h
          | cons frame frames =>
              cases frame with
              | list =>
                  rcases step_list h with ⟨after, hclose, hstep⟩ | ⟨after, hitem, hstep⟩
                  · exact ⟨_, after, hblanks.isPart (.listEnd _), by rw [hs, hclose]; simp,
                      (ih hstep).closes⟩
                  · obtain ⟨v, _, hv, rfl, w, after, hw, rfl, hclosed⟩ := ih hstep
                    exact ⟨_, after, hblanks.isPart (.item _ hv hw), by rw [hs, hitem]; simp,
                      hclosed⟩
              | object =>
                  rcases step_object h with ⟨after, hclose, hstep⟩ |
                    ⟨member, after, hmember, hkey, hstep⟩
                  · exact ⟨_, after, hblanks.isPart (.objectEnd _), by rw [hs, hclose]; simp,
                      (ih hstep).closes⟩
                  · obtain ⟨before, key, behind, hbefore, hinside, hbehind, rfl⟩ :=
                      exists_of_skipKey hkey
                    obtain ⟨v, _, hv, rfl, w, after, hw, rfl, hclosed⟩ := ih hstep
                    exact ⟨_, after, hblanks.isPart (.member _ hbefore hinside hbehind hv hw),
                      by rw [hs, hmember]; simp, hclosed⟩

/-- What is passed over is a value. -/
theorem exists_of_skipValue {s rest : Input} (h : skipValue s = .ok rest) :
    ∃ v, IsPart .value v ∧ s = v ++ rest := by
  obtain ⟨v, after, hv, rfl, hclosed⟩ := passes_of_skipFrom h
  cases hclosed
  exact ⟨v, hv, rfl⟩

/-! ## What is a value is passed over -/

/-- The place of a pass in front of a part of a document. -/
def placeOf : Part → Pass
  | .value => .atValue
  | .list first => .atNext !first
  | .object first => .atNext !first

/-- The container that a part of a document belongs to. -/
def framesOf : Part → List Frame
  | .value => []
  | .list _ => [.list]
  | .object _ => [.object]

/-- A pass does not look at the blanks in front of it. -/
theorem skipFrom_congr {pass : Pass} {frames : List Frame} (h : pass = .atValue ∨ frames ≠ [])
    {s t : Input} (hs : skipSpace s = skipSpace t) (fuel : Nat) :
    skipFrom fuel pass frames s = skipFrom fuel pass frames t := by
  cases fuel with
  | zero => rfl
  | succ fuel =>
      cases pass with
      | atValue => rw [skipFrom, skipFrom, hs]
      | atNext later =>
          cases frames with
          | nil => simp at h
          | cons frame frames => cases frame <;> rw [skipFrom, skipFrom, hs]

theorem placeOf_eq_or_framesOf_ne (part : Part) (frames : List Frame) :
    placeOf part = .atValue ∨ framesOf part ++ frames ≠ [] := by
  cases part with
  | value => exact .inl rfl
  | list | object => exact .inr (by simp [framesOf])

theorem skipKey_append {before key after : Input} (hbefore : AreBlanks before)
    (hkey : IsInside key) (hafter : AreBlanks after) (rest : Input) :
    skipKey (before ++ some '"' :: (key ++ some '"' :: (after ++ some ':' :: rest)))
      = .ok rest := by
  have hinside : Scan.skipText (key ++ some '"' :: (after ++ some ':' :: rest))
      = .ok (after ++ some ':' :: rest) := Scan.skipText_eq_ok_iff.mpr ⟨key, hkey, rfl⟩
  rw [skipKey, hbefore.skipSpace_append, skipSpace_of_visible (by decide)]
  simp only [hinside, Except.bind, colon_append hafter]

/-- The turns that have to be left behind a part. -/
def spare (part : Part) : Nat := if part = .value then 1 else 0

/-- A pass takes a part and goes on behind a value, after at most two turns for each symbol. -/
def TakesPart (part : Part) (s : Input) : Prop :=
  ∃ turns, turns + spare part ≤ 2 * s.length ∧ ∀ (fuel : Nat) (frames : List Frame) (rest : Input),
    (part = .value → EndsNumeral rest) →
    skipFrom (fuel + turns) (placeOf part) (framesOf part ++ frames) (s ++ rest)
      = skipFrom fuel (.atNext true) frames rest

theorem TakesPart.blank {part : Part} {x : Text.Symbol} {s : Input} (hx : isSpace x = true)
    (h : TakesPart part s) : TakesPart part (x :: s) := by
  obtain ⟨turns, hturns, htakes⟩ := h
  refine ⟨turns, ?_, fun fuel frames rest hrest => ?_⟩
  · rw [List.length_cons]
    omega
  · rw [← htakes fuel frames rest hrest]
    refine skipFrom_congr (placeOf_eq_or_framesOf_ne part frames) ?_ _
    exact List.dropWhile_cons_of_pos hx

/-- A part without parts takes one turn. -/
theorem TakesPart.single {part : Part} {w : Input} (hw : w ≠ []) (h : ∀ (fuel : Nat)
    (frames : List Frame) (rest : Input), (part = .value → EndsNumeral rest) →
      skipFrom (fuel + 1) (placeOf part) (framesOf part ++ frames) (w ++ rest)
        = skipFrom fuel (.atNext true) frames rest) :
    TakesPart part w := by
  refine ⟨1, ?_, h⟩
  have hlength := List.length_pos_iff.mpr hw
  unfold spare
  split <;> omega

/-- A value that opens a container takes one turn more than what follows the opening. -/
theorem TakesPart.opened {part : Part} {opening : Char} {s : Input} (hpart : part ≠ .value)
    (hopen : ∀ (fuel : Nat) (frames : List Frame) (rest : Input),
      skipFrom (fuel + 1) .atValue frames (some opening :: rest)
        = skipFrom fuel (placeOf part) (framesOf part ++ frames) rest)
    (h : TakesPart part s) : TakesPart .value (some opening :: s) := by
  obtain ⟨turns, hturns, htakes⟩ := h
  refine ⟨turns + 1, ?_, fun fuel frames rest _ => ?_⟩
  · simp only [spare, List.length_cons, if_true, if_neg hpart] at hturns ⊢
    omega
  · rw [← htakes fuel frames rest fun heq => absurd heq hpart]
    exact hopen (fuel + turns) frames (s ++ rest)

theorem TakesPart.word {w : List Char} (hw : w ∈ wordValues) :
    TakesPart .value (Input.ofChars w) := by
  simp only [wordValues, List.mem_cons, List.not_mem_nil, or_false] at hw
  rcases hw with rfl | rfl | rfl
  all_goals
    exact .single (by simp) fun fuel frames rest _ => rfl

theorem skipFrom_digit {x : Text.Symbol} (hx : Scan.isDigit x = true) {s rest : Input}
    (hread : Scan.skipNumber (x :: s) = .ok rest) (fuel : Nat) (frames : List Frame) :
    skipFrom (fuel + 1) .atValue frames (x :: s) = skipFrom fuel (.atNext true) frames rest := by
  rw [skipFrom, skipSpace, List.dropWhile_cons_of_neg (not_isSpace_of_isDigit hx)]
  split
  case h_1 heq => cases heq
  case h_9 _ heq =>
    cases heq
    rw [if_pos hx, hread]
  all_goals
    rename_i heq
    cases heq
    cases hx

theorem TakesPart.unsigned {v : Input} (hv : IsUnsigned v) : TakesPart .value v := by
  have hread : ∀ rest, EndsNumeral rest → Scan.skipNumber (v ++ rest) = .ok rest :=
    fun rest hrest => Scan.skipNumber_append hv hrest
  obtain ⟨whole, fraction, exponent, ⟨⟨hne, hdigits⟩, -⟩, -, -, rfl⟩ := hv
  obtain ⟨x, w, rfl⟩ := List.exists_cons_of_ne_nil hne
  exact .single (by simp) fun fuel frames rest hrest =>
    skipFrom_digit (hdigits x List.mem_cons_self) (hread rest (hrest rfl)) fuel frames

theorem TakesPart.negative {v : Input} (hv : IsUnsigned v) :
    TakesPart .value (some '-' :: v) := by
  refine .single (by simp) fun fuel frames rest hrest => ?_
  show skipFrom (fuel + 1) .atValue frames (some '-' :: (v ++ rest)) = _
  rw [skipFrom, skipSpace_of_visible (by decide)]
  simp only [Scan.skipNumber_append hv (hrest rfl)]

theorem TakesPart.text {inside : Input} (h : IsInside inside) :
    TakesPart .value (some '"' :: (inside ++ [some '"'])) := by
  refine .single (by simp) fun fuel frames rest _ => ?_
  have hread : Scan.skipText (inside ++ some '"' :: rest) = .ok rest :=
    Scan.skipText_eq_ok_iff.mpr ⟨inside, h, rfl⟩
  show skipFrom (fuel + 1) .atValue frames (some '"' :: ((inside ++ [some '"']) ++ rest)) = _
  rw [List.append_assoc, skipFrom, skipSpace_of_visible (by decide)]
  simp only [List.cons_append, List.nil_append, hread]

theorem TakesPart.list {s : Input} (h : TakesPart (.list true) s) :
    TakesPart .value (some '[' :: s) :=
  h.opened (by decide) fun _ _ _ => rfl

theorem TakesPart.object {s : Input} (h : TakesPart (.object true) s) :
    TakesPart .value (some '{' :: s) :=
  h.opened (by decide) fun _ _ _ => rfl

theorem TakesPart.listEnd (first : Bool) : TakesPart (.list first) [some ']'] :=
  .single (List.cons_ne_nil _ _) fun _ _ _ _ => rfl

theorem TakesPart.objectEnd (first : Bool) : TakesPart (.object first) [some '}'] :=
  .single (List.cons_ne_nil _ _) fun _ _ _ _ => rfl

/-- A value in a container takes one turn more than it and what follows it. -/
theorem TakesPart.joined {frame : Frame} {first : Bool} {front v s : Input}
    (hstep : ∀ (fuel : Nat) (frames : List Frame) (rest : Input),
      skipFrom (fuel + 1) (.atNext !first) (frame :: frames) (front ++ (v ++ rest))
        = skipFrom fuel .atValue (frame :: frames) (v ++ rest))
    (hs : IsPart (frame.part false) s) (hfirst : TakesPart .value v)
    (hlater : TakesPart (frame.part false) s) :
    TakesPart (frame.part first) (front ++ (v ++ s)) := by
  have hpart : ∀ first, frame.part first ≠ .value ∧ placeOf (frame.part first) = .atNext !first ∧
      framesOf (frame.part first) = [frame] := by
    intro first
    cases frame <;> exact ⟨nofun, rfl, rfl⟩
  obtain ⟨turns, hturns, htakes⟩ := hfirst
  obtain ⟨others, hothers, hrest⟩ := hlater
  refine ⟨others + turns + 1, ?_, fun fuel frames rest _ => ?_⟩
  · simp only [spare, List.length_append, if_true, if_neg (hpart _).1] at hturns hothers ⊢
    omega
  · have hends : EndsNumeral (s ++ rest) :=
      hs.endsNumeral (by cases frame <;> simp [Frame.part]) rest
    have hvalue := htakes (fuel + others) (frame :: frames) (s ++ rest) fun _ => hends
    rw [← hrest fuel frames rest fun heq => absurd heq (hpart false).1, (hpart first).2.1,
      (hpart first).2.2, (hpart false).2.1, (hpart false).2.2, List.append_assoc, List.append_assoc,
      ← Nat.add_assoc, ← Nat.add_assoc]
    exact (hstep (fuel + others + turns) frames (s ++ rest)).trans hvalue

/-- In front of an item a pass goes on to it. -/
theorem skipFrom_item {v : Input} (hv : IsPart .value v) (first : Bool) (fuel : Nat)
    (frames : List Frame) (rest : Input) :
    skipFrom (fuel + 1) (.atNext !first) (.list :: frames)
        (Input.ofChars (comma first) ++ (v ++ rest))
      = skipFrom fuel .atValue (.list :: frames) (v ++ rest) := by
  cases first with
  | false =>
      rw [comma, if_neg (by decide), Input.ofChars_cons, List.cons_append, skipFrom,
        skipSpace_of_visible (by decide)]
      simp
  | true =>
      obtain ⟨x, s, hs, hx⟩ := hv.exists_head rfl rest
      rw [comma, if_pos rfl, Input.ofChars_nil, List.nil_append, skipFrom, hs]
      have hskip : skipFrom fuel .atValue (.list :: frames) (skipSpace (v ++ rest))
          = skipFrom fuel .atValue (.list :: frames) (v ++ rest) :=
        skipFrom_congr (.inl rfl) (skipSpace_skipSpace (v ++ rest)) fuel
      rw [hs] at hskip
      rw [← hskip]
      split
      · cases ‹_ :: _ = []›
      · simp_all
      · simp_all

theorem skipFrom_member {before key after : Input} (hbefore : AreBlanks before)
    (hkey : IsInside key) (hafter : AreBlanks after) (first : Bool) (fuel : Nat)
    (frames : List Frame) (rest : Input) :
    skipFrom (fuel + 1) (.atNext !first) (.object :: frames) (Input.ofChars (comma first) ++
        (before ++ some '"' :: (key ++ some '"' :: (after ++ some ':' :: rest))))
      = skipFrom fuel .atValue (.object :: frames) rest := by
  have hread := skipKey_append hbefore hkey hafter rest
  cases first with
  | false =>
      rw [comma, if_neg (by decide), Input.ofChars_cons, List.cons_append, skipFrom,
        skipSpace_of_visible (by decide)]
      simp [hread]
  | true =>
      have hread := skipKey_append .nil hkey hafter rest
      rw [comma, if_pos rfl, Input.ofChars_nil, List.nil_append, skipFrom,
        hbefore.skipSpace_append, skipSpace_of_visible (by decide)]
      rw [List.nil_append] at hread
      simp [hread]

theorem TakesPart.member (first : Bool) {before key after v s : Input}
    (hbefore : AreBlanks before) (hkey : IsInside key) (hafter : AreBlanks after)
    (hs : IsPart (.object false) s) (hfirst : TakesPart .value v)
    (hlater : TakesPart (.object false) s) :
    TakesPart (.object first) (Input.ofChars (comma first) ++
      (before ++ some '"' :: (key ++ some '"' :: (after ++ some ':' :: (v ++ s))))) := by
  have hjoined : TakesPart (Frame.object.part first) ((Input.ofChars (comma first) ++
      (before ++ some '"' :: (key ++ some '"' :: (after ++ [some ':'])))) ++ (v ++ s)) := by
    refine .joined (fun fuel frames rest => ?_) hs hfirst hlater
    have hstep := skipFrom_member hbefore hkey hafter first fuel frames (v ++ rest)
    simpa only [List.append_assoc, List.cons_append, List.nil_append] using hstep
  simp only [List.append_assoc, List.cons_append, List.nil_append] at hjoined
  exact hjoined

theorem takesPart_of_isPart {part : Part} {s : Input} (h : IsPart part s) : TakesPart part s := by
  induction h with
  | blank hx _ ih => exact ih.blank hx
  | word hw => exact .word hw
  | unsigned hv => exact .unsigned hv
  | negative hv => exact .negative hv
  | text hinside => exact .text hinside
  | list _ ih => exact ih.list
  | object _ ih => exact ih.object
  | listEnd first => exact .listEnd first
  | item first hv hs ihv ihs => exact TakesPart.joined (skipFrom_item hv first) hs ihv ihs
  | objectEnd first => exact .objectEnd first
  | member first hbefore hkey hafter _ hs ihv ihs =>
      exact .member first hbefore hkey hafter hs ihv ihs

/-- A value is passed over, whatever follows it. -/
theorem skipValue_append {v rest : Input} (hv : IsPart .value v) (hrest : EndsNumeral rest) :
    skipValue (v ++ rest) = .ok rest := by
  obtain ⟨turns, hturns, htakes⟩ := takesPart_of_isPart hv
  obtain ⟨fuel, hfuel⟩ : ∃ fuel, 2 * (v ++ rest).length + 2 = fuel + 1 + turns := by
    refine ⟨2 * (v ++ rest).length + 1 - turns, ?_⟩
    simp only [spare, if_true, List.length_append] at hturns ⊢
    omega
  rw [skipValue, hfuel]
  exact htakes (fuel + 1) [] rest fun _ => hrest

end Read

end Receipts.Json
