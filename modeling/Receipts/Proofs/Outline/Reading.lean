import Receipts.Proofs.Outline.Matching
import Receipts.Proofs.Pattern.Ways

/-!
# Reading fixed texts and runs off an outline

What is said of the rest after a fixed text and of the stops of a run holds on every document whose
holes are filled as they ask for.
-/

namespace Receipts.Outline

open Pattern (Capture Spot nearSpots)

/-- What the front of a place stands for: nothing, or an end of the text in a hole. -/
def Front.Reads (words : Hole → List Char) : Front → List Char → Prop
  | none, w => w = []
  | some (hole, mayBeEmpty), w =>
      hole.Fits (words hole) ∧ w <:+ words hole ∧ (mayBeEmpty = false → w ≠ [])

/-- What a text at a place reads. -/
def Reaches (words : Hole → List Char) (front : Front) (rest : Outline) (s : List Char) : Prop :=
  ∃ w, front.Reads words w ∧ s = w ++ spell words rest

variable {words : Hole → List Char} {hole : Hole} {rest : Outline}

theorem reaches_spell (rest : Outline) : Reaches words none rest (spell words rest) :=
  ⟨[], rfl, rfl⟩

theorem reaches_none_iff {s : List Char} : Reaches words none rest s ↔ s = spell words rest := by
  constructor
  · rintro ⟨w, rfl, rfl⟩
    rfl
  · rintro rfl
    exact reaches_spell rest

/-! ## Fixed texts -/

theorem mem_cuts {a b : List Char} (ha : a ≠ []) (hb : b ≠ []) : (a, b) ∈ cuts (a ++ b) := by
  induction a with
  | nil => exact absurd rfl ha
  | cons c a ih =>
      by_cases hne : a = []
      · obtain ⟨d, b, rfl⟩ := List.exists_cons_of_ne_nil hb
        simp [hne, cuts]
      · have hmem := ih hne
        obtain ⟨d, a, rfl⟩ := List.exists_cons_of_ne_nil hne
        rw [List.cons_append, List.cons_append, cuts]
        exact List.mem_cons_of_mem _ (List.mem_map.mpr ⟨(d :: a, b), hmem, rfl⟩)

/-- A fixed text that begins in the text of a hole ends at one of the rests. -/
theorem exists_mem_eatWithin {eatRest : List Char → Eaten} {w t s : List Char}
    (hfit : hole.Fits (words hole)) (hw : w <:+ words hole) (hne : w ≠ [])
    (hrest : ∀ y, spell words rest = y ++ s →
      ∃ e ∈ (eatRest y).ends, Reaches words e.1 e.2 s ∧ e.2 <:+ rest)
    (h : w ++ spell words rest = t ++ s) :
    ∃ e ∈ eatWithin hole rest eatRest t, Reaches words e.1 e.2 s ∧ e.2 <:+ rest := by
  have hinside : ∀ u, w = t ++ u → s = u ++ spell words rest →
      ∃ e ∈ eatWithin hole rest eatRest t, Reaches words e.1 e.2 s ∧ e.2 <:+ rest := by
    intro u hu hs
    have hin : t <:+: words hole :=
      List.IsInfix.trans ⟨[], u, by simpa using hu.symm⟩ hw.isInfix
    have hend : u <:+ words hole := List.IsSuffix.trans ⟨t, hu.symm⟩ hw
    refine ⟨(some (hole, true), rest), ?_, ⟨u, ⟨hfit, hend, by simp⟩, hs⟩, List.suffix_rfl⟩
    simp [eatWithin, hfit.mayContain hin]
  rcases List.append_eq_append_iff.mp h with ⟨y, ht, hy⟩ | ⟨u, hu, hs⟩
  · by_cases hempty : y = []
    · exact hinside [] (by simp [ht, hempty]) (by simp [hy, hempty])
    · obtain ⟨e, he, hreach, hsuffix⟩ := hrest y hy
      refine ⟨e, ?_, hreach, hsuffix⟩
      rw [eatWithin, List.mem_append, List.mem_flatMap]
      refine .inr ⟨(w, y), ?_, he⟩
      rw [List.mem_filter, ht]
      have hends : (eatRest y).ends.isEmpty = false := by
        simpa using List.ne_nil_of_mem he
      exact ⟨mem_cuts hne hempty, by rw [hends, Bool.not_false, Bool.true_and, hfit.mayEndWith hw]⟩
  · exact hinside u hu hs

theorem exists_mem_eat (hfill : FilledBy rest words) {t s : List Char}
    (h : spell words rest = t ++ s) :
    ∃ e ∈ (eat rest t).ends, Reaches words e.1 e.2 s ∧ e.2 <:+ rest := by
  induction rest generalizing t with
  | nil =>
      obtain ⟨rfl, rfl⟩ : t = [] ∧ s = [] := by simpa [spell_nil] using h
      exact ⟨(none, []), by simp [eat, Eaten.ends], reaches_spell [], List.suffix_rfl⟩
  | cons mark rest ih =>
      have hfill' : FilledBy rest words := hfill.of_suffix (List.suffix_cons _ _)
      cases t with
      | nil =>
          refine ⟨(none, mark :: rest), by simp [eat, Eaten.ends], ?_, List.suffix_rfl⟩
          exact reaches_none_iff.mpr (by simpa using h.symm)
      | cons c t =>
          cases mark with
          | char d =>
              obtain ⟨rfl, hrest⟩ : d = c ∧ spell words rest = t ++ s := by
                simpa [spell_char] using h
              obtain ⟨e, he, hreach, hsuffix⟩ := ih hfill' hrest
              exact ⟨e, by simpa [eat] using he, hreach, hsuffix.trans (List.suffix_cons _ _)⟩
          | hole hole =>
              rw [spell_hole] at h
              have hfit := hfill hole List.mem_cons_self
              have hends : (eat (.hole hole :: rest) (c :: t)).ends
                  = eatWithin hole rest (eat rest) (c :: t) ++
                    if hole.optional then (eat rest (c :: t)).ends else [] := rfl
              simp only [hends, List.mem_append]
              by_cases hempty : words hole = []
              · have hoptional : hole.optional = true := hfit.optional_of_eq_nil hempty
                rw [hempty, List.nil_append] at h
                obtain ⟨e, he, hreach, hsuffix⟩ := ih hfill' h
                exact ⟨e, .inr (by simpa [hoptional] using he), hreach,
                  hsuffix.trans (List.suffix_cons _ _)⟩
              · obtain ⟨e, he, hreach, hsuffix⟩ := exists_mem_eatWithin hfit List.suffix_rfl
                  hempty (fun y hy => ih hfill' hy) h
                exact ⟨e, .inl he, hreach, hsuffix.trans (List.suffix_cons _ _)⟩

theorem eat_exactly {t : List Char} {after : Outline} (h : eat rest t = .exactly after) :
    spell words rest = t ++ spell words after ∧ after <:+ rest := by
  induction rest generalizing t with
  | nil =>
      cases t with
      | nil =>
          obtain rfl : [] = after := by simpa [eat] using h
          exact ⟨rfl, List.suffix_rfl⟩
      | cons c t => simp [eat] at h
  | cons mark rest ih =>
      cases t with
      | nil =>
          obtain rfl : mark :: rest = after := by simpa [eat] using h
          exact ⟨rfl, List.suffix_rfl⟩
      | cons c t =>
          cases mark with
          | char d =>
              rw [eat] at h
              split at h
              · rename_i hc
                obtain ⟨hspell, hsuffix⟩ := ih h
                exact ⟨by rw [spell_char, hspell, hc]; rfl,
                  hsuffix.trans (List.suffix_cons _ _)⟩
              · cases h
          | hole hole => simp [eat] at h

theorem eatFrom_exactly {front : Front} {t r : List Char} {after : Outline}
    (hreach : Reaches words front rest r) (h : eatFrom rest t front = .exactly after) :
    r = t ++ spell words after ∧ after <:+ rest := by
  cases front with
  | none =>
      rw [reaches_none_iff] at hreach
      have hrest : spell words rest = t ++ spell words after ∧ after <:+ rest := eat_exactly h
      exact ⟨hreach.trans hrest.1, hrest.2⟩
  | some front => cases h

theorem exists_mem_eatFrom {front : Front} (hfill : FilledBy rest words) {t s r : List Char}
    (hreach : Reaches words front rest r) (h : r = t ++ s) :
    ∃ e ∈ (eatFrom rest t front).ends, Reaches words e.1 e.2 s ∧ e.2 <:+ rest := by
  obtain ⟨w, hreads, rfl⟩ := hreach
  cases front with
  | none =>
      obtain rfl : w = [] := hreads
      exact exists_mem_eat hfill h
  | some front =>
      obtain ⟨hole, mayBeEmpty⟩ := front
      obtain ⟨hfit, hw, hempty⟩ := hreads
      have hends : (eatFrom rest t (some (hole, mayBeEmpty))).ends
          = eatWithin hole rest (eat rest) t ++ if mayBeEmpty then (eat rest t).ends else [] := rfl
      simp only [hends, List.mem_append]
      by_cases hne : w = []
      · have htrue : mayBeEmpty = true := by
          cases mayBeEmpty with
          | true => rfl
          | false => exact absurd hne (hempty rfl)
        obtain ⟨e, he, hreach⟩ := exists_mem_eat hfill (by simpa [hne] using h)
        exact ⟨e, .inr (by simpa [htrue] using he), hreach⟩
      · obtain ⟨e, he, hreach⟩ :=
          exists_mem_eatWithin hfit hw hne (fun y hy => exists_mem_eat hfill hy) h
        exact ⟨e, .inl he, hreach⟩

/-! ## Runs -/

/-- Whether a spot in a document of the outline is one of the places with this front and rest. -/
structure At (words : Hole → List Char) (outline : Outline) (front : Front) (rest : Outline)
    (spot : Spot) : Prop where
  reaches : Reaches words front rest spot.rest
  suffix : rest <:+ outline
  position : spot.position + spot.rest.length = (spell words outline).length

/-- Stops tell of spots when each stands for a stretch of them, and for just one if it is sure. -/
inductive Tells (words : Hole → List Char) (outline : Outline) (captures : List Capture) :
    List Stop → List Spot → Prop
  | nil : Tells words outline captures [] []
  | cons {stop : Stop} {stops : List Stop} {here spots : List Spot}
      (hhere : ∀ spot ∈ here, At words outline stop.front stop.rest spot ∧
        spot.captures = captures)
      (hsure : stop.sure = true → ∃ spot, here = [spot])
      (hrest : Tells words outline captures stops spots) :
      Tells words outline captures (stop :: stops) (here ++ spots)

variable {outline : Outline} {captures : List Capture} {stops stops' : List Stop}
  {spots spots' : List Spot}

theorem Tells.append (h : Tells words outline captures stops spots)
    (h' : Tells words outline captures stops' spots') :
    Tells words outline captures (stops ++ stops') (spots ++ spots') := by
  induction h with
  | nil => exact h'
  | cons hhere hsure _ ih =>
      rw [List.cons_append, List.append_assoc]
      exact .cons hhere hsure ih

theorem Tells.reverse (h : Tells words outline captures stops spots) :
    Tells words outline captures stops.reverse spots.reverse := by
  induction h with
  | nil => exact .nil
  | cons hhere hsure _ ih =>
      rename_i stop stops here spots _
      have hlast : Tells words outline captures [stop] (here.reverse ++ []) := by
        refine .cons (fun spot hm => hhere spot (List.mem_reverse.mp hm)) (fun hs => ?_) .nil
        obtain ⟨spot, rfl⟩ := hsure hs
        exact ⟨spot, rfl⟩
      simpa using ih.append hlast

/-- What is known of how many spots come too early: there are at most, or exactly, `need`. -/
theorem tells_stopHere {need early : Nat} {exact : Bool} {spot : Spot} {more : List Spot}
    (hearly : early ≤ need) (hexact : exact = true → early = need)
    (hspot : At words outline none rest spot ∧ spot.captures = captures)
    (hmore : Tells words outline captures stops (more.drop (early - 1))) :
    Tells words outline captures (stopHere rest need exact ++ stops)
      ((spot :: more).drop early) := by
  cases early with
  | zero =>
      have hone : ∀ sure, Tells words outline captures (⟨none, rest, sure⟩ :: stops)
          ([spot] ++ more) := fun sure =>
        .cons (by simpa using hspot) (fun _ => ⟨spot, rfl⟩) (by simpa using hmore)
      by_cases hneed : need = 0
      · simpa [stopHere, hneed] using hone true
      · have hfalse : exact = false := by
          cases exact with
          | false => rfl
          | true => exact absurd (hexact rfl).symm hneed
        simpa [stopHere, hneed, hfalse] using hone false
  | succ early =>
      have hneed : need ≠ 0 := by omega
      cases exact with
      | true => simpa [stopHere, hneed] using hmore
      | false =>
          have hnone : Tells words outline captures (⟨none, rest, false⟩ :: stops)
              ([] ++ more.drop early) := .cons (by simp) (by simp) (by simpa using hmore)
          simpa [stopHere, hneed] using hnone

theorem tells_stopHere_only {need early : Nat} {exact : Bool} {spot : Spot}
    (hearly : early ≤ need) (hexact : exact = true → early = need)
    (hspot : At words outline none rest spot ∧ spot.captures = captures) :
    Tells words outline captures (stopHere rest need exact) ([spot].drop early) := by
  have hlast : Tells words outline captures [] (([] : List Spot).drop (early - 1)) := by
    simpa using Tells.nil
  simpa using tells_stopHere hearly hexact hspot hlast

/-- A run without bound passes an end of the text in a hole. The stops in it are told by one that is
not sure. -/
theorem tells_passed {set : CharSet} {mayBeEmpty : Bool} {w : List Char} {early position : Nat}
    {left : Option Char} (hfit : hole.Fits (words hole)) (hend : w <:+ words hole)
    (hwithin : hole.alphabet.within set = true) (hsuffix : rest <:+ outline)
    (hposition : position + w.length + (spell words rest).length = (spell words outline).length)
    (hmore : ∀ left, Tells words outline captures stops
      ((nearSpots set captures left (spell words rest) (position + w.length) none).drop
        (early - w.length))) :
    Tells words outline captures (⟨some (hole, mayBeEmpty), rest, false⟩ :: stops)
      ((nearSpots set captures left (w ++ spell words rest) position none).drop early) := by
  have hholds : ∀ c ∈ w, set.holds c = true := fun c hc =>
    hfit.holds_of_within hwithin (hend.subset hc)
  obtain ⟨inside, left', hspots, hlen, hinside⟩ :=
    Pattern.nearSpots_append hholds captures left (spell words rest) position
  rw [hspots, List.drop_append, hlen]
  refine .cons (fun spot hm => ?_) (by simp) (hmore left')
  obtain ⟨v, hv, hne, hrest, hpos, hcap⟩ := hinside spot (List.mem_of_mem_drop hm)
  refine ⟨⟨⟨v, ⟨hfit, hv.trans hend, fun _ => hne⟩, hrest⟩, hsuffix, ?_⟩, hcap⟩
  rw [hrest, List.length_append]
  omega

/-- What a run does at the text of a hole that may be empty, given what it does behind it. -/
theorem tells_stretch_optional {set : CharSet} {most : Option Nat} {need early : Nat} {exact : Bool}
    {left : Option Char} {position : Nat} (hoptional : hole.optional = true)
    (hfit : hole.Fits (words hole))
    (hstops : stretch set (.hole hole :: rest) most need exact = some stops)
    (hearly : early ≤ need) (hsuffix : .hole hole :: rest <:+ outline)
    (hposition : position + (spell words (.hole hole :: rest)).length
      = (spell words outline).length)
    (hrest : ∀ {stops early left position}, stretch set rest none need false = some stops →
      early ≤ need → position + (spell words rest).length = (spell words outline).length →
      Tells words outline captures stops
        ((nearSpots set captures left (spell words rest) position none).drop early)) :
    Tells words outline captures stops
      ((nearSpots set captures left (spell words (.hole hole :: rest)) position most).drop
        early) := by
  rw [spell_hole, List.length_append] at hposition
  rw [stretch, if_pos hoptional] at hstops
  split at hstops
  · rename_i hboth
    obtain ⟨hwithin, rfl⟩ : hole.alphabet.within set = true ∧ most = none := by simpa using hboth
    obtain ⟨more, hmore, rfl⟩ := Option.map_eq_some_iff.mp hstops
    rw [spell_hole]
    exact tells_passed hfit List.suffix_rfl hwithin ((List.suffix_cons _ _).trans hsuffix)
      (by omega) fun left => hrest hmore (by omega) (by omega)
  · cases hstops

/-- A run stops before the text of a hole that is not empty, takes its only character, or passes as
much of it as there is. -/
theorem stretch_required {set : CharSet} {most : Option Nat} {need : Nat} {exact : Bool}
    (hrequired : hole.optional = false)
    (hstops : stretch set (.hole hole :: rest) most need exact = some stops) :
    ((most = some 0 ∨ set = CharSet.blank) ∧ stops = stopHere (.hole hole :: rest) need exact) ∨
    (most ≠ some 0 ∧ hole.alphabet.within set = true ∧
      ((hole.single = true ∧
          ∃ more, stretch set rest (most.map (· - 1)) (need - 1) exact = some more ∧
            stops = stopHere (.hole hole :: rest) need exact ++ more) ∨
        (most = none ∧
          ∃ more, stretch set rest none (need - 1) false = some more ∧
            stops = stopHere (.hole hole :: rest) need exact ++
              ⟨some (hole, false), rest, false⟩ :: more))) := by
  rw [stretch, hrequired, if_neg Bool.false_ne_true] at hstops
  split at hstops
  · rename_i hstop
    exact .inl ⟨by simpa using hstop, by simpa using hstops.symm⟩
  · rename_i hgo
    have hmost : most ≠ some 0 := fun h => hgo (by simp [h])
    split at hstops
    · cases hstops
    · rename_i hwithin
      rw [Bool.not_eq_true', Bool.not_eq_false] at hwithin
      refine .inr ⟨hmost, hwithin, ?_⟩
      split at hstops
      · rename_i hsingle
        obtain ⟨more, hmore, rfl⟩ := Option.map_eq_some_iff.mp hstops
        exact .inl ⟨hsingle, more, hmore, rfl⟩
      · split at hstops
        · rename_i hnone
          obtain ⟨more, hmore, rfl⟩ := Option.map_eq_some_iff.mp hstops
          exact .inr ⟨hnone, more, hmore, rfl⟩
        · cases hstops

/-- What a run does at the text of a hole that is not empty, given what it does behind it. -/
theorem tells_stretch_required {set : CharSet} {most : Option Nat} {need early : Nat} {exact : Bool}
    {left : Option Char} {position : Nat} (hrequired : hole.optional = false)
    (hfit : hole.Fits (words hole))
    (hstops : stretch set (.hole hole :: rest) most need exact = some stops)
    (hearly : early ≤ need) (hexact : exact = true → early = need)
    (hsuffix : .hole hole :: rest <:+ outline)
    (hposition : position + (spell words (.hole hole :: rest)).length
      = (spell words outline).length)
    (hrest : ∀ {stops most need early exact left position},
      stretch set rest most need exact = some stops → early ≤ need →
      (exact = true → early = need) →
      position + (spell words rest).length = (spell words outline).length →
      Tells words outline captures stops
        ((nearSpots set captures left (spell words rest) position most).drop early)) :
    Tells words outline captures stops
      ((nearSpots set captures left (spell words (.hole hole :: rest)) position most).drop
        early) := by
  have hsuffix' : rest <:+ outline := (List.suffix_cons _ _).trans hsuffix
  obtain ⟨c, w, hw⟩ := List.exists_cons_of_ne_nil (hfit.nonempty hrequired)
  have hstart : At words outline none (.hole hole :: rest)
      ⟨left, c :: (w ++ spell words rest), position, captures⟩ ∧ captures = captures := by
    rw [← List.cons_append, ← hw, ← spell_hole]
    exact ⟨⟨reaches_spell _, hsuffix, hposition⟩, rfl⟩
  rw [spell_hole, hw, List.cons_append] at hposition ⊢
  rw [List.length_cons, List.length_append] at hposition
  obtain ⟨hstop, rfl⟩ | ⟨hmost, hwithin, hgo⟩ := stretch_required hrequired hstops
  · -- A run of blanks stops here, since the text in a hole does not begin with a blank.
    have hc : most = some 0 ∨ set.holds c = false := by
      refine hstop.imp_right fun hblank => ?_
      rw [hblank, CharSet.blank_holds]
      exact hfit.visible c (by rw [hw]; rfl)
    rw [Pattern.nearSpots_of_stop hc]
    exact tells_stopHere_only hearly hexact hstart
  · rw [Pattern.nearSpots_of_holds hmost (hfit.holds_of_within hwithin (by simp [hw]))]
    obtain ⟨hsingle, more, hmore, rfl⟩ | ⟨rfl, more, hmore, rfl⟩ := hgo
    · obtain rfl : w = [] := by simpa [hw] using hfit.single hsingle
      refine tells_stopHere hearly hexact hstart (hrest hmore (by omega) ?_ ?_)
      · exact fun h => by rw [hexact h]
      · simp only [List.length_nil] at hposition
        omega
    · refine tells_stopHere hearly hexact hstart ?_
      rw [Option.map_none]
      exact tells_passed hfit (hw ▸ List.suffix_cons c w) hwithin hsuffix' (by omega)
        fun left => hrest hmore (by omega) (by simp) (by omega)

theorem tells_stretch {set : CharSet} {most : Option Nat} {need early : Nat} {exact : Bool}
    (hfill : FilledBy rest words) (hstops : stretch set rest most need exact = some stops)
    (hearly : early ≤ need) (hexact : exact = true → early = need) (hsuffix : rest <:+ outline)
    {left : Option Char} {position : Nat}
    (hposition : position + (spell words rest).length = (spell words outline).length) :
    Tells words outline captures stops
      ((nearSpots set captures left (spell words rest) position most).drop early) := by
  induction rest generalizing stops most need early exact left position with
  | nil =>
      obtain rfl : stopHere [] need exact = stops := by simpa [stretch] using hstops
      exact tells_stopHere_only hearly hexact ⟨⟨reaches_spell [], hsuffix, hposition⟩, rfl⟩
  | cons mark rest ih =>
      have hfill' : FilledBy rest words := hfill.of_suffix (List.suffix_cons _ _)
      have hsuffix' : rest <:+ outline := (List.suffix_cons _ _).trans hsuffix
      cases mark with
      | char c =>
          have hstart : At words outline none (.char c :: rest)
              ⟨left, c :: spell words rest, position, captures⟩ ∧ captures = captures :=
            ⟨⟨reaches_spell (.char c :: rest), hsuffix, hposition⟩, rfl⟩
          rw [spell_char] at hposition ⊢
          rw [List.length_cons] at hposition
          rw [stretch] at hstops
          split at hstops
          · rename_i hstop
            obtain rfl : stopHere (.char c :: rest) need exact = stops := by simpa using hstops
            rw [Pattern.nearSpots_of_stop (by simpa using hstop)]
            exact tells_stopHere_only hearly hexact hstart
          · rename_i hgo
            obtain ⟨hmost, hc⟩ : most ≠ some 0 ∧ set.holds c = true := by simpa using hgo
            obtain ⟨more, hmore, rfl⟩ := Option.map_eq_some_iff.mp hstops
            rw [Pattern.nearSpots_of_holds hmost hc]
            exact tells_stopHere hearly hexact hstart
              (ih hfill' hmore (by omega) (fun h => by rw [hexact h]) hsuffix' (by omega))
      | hole hole =>
          have hfit := hfill hole List.mem_cons_self
          cases hoptional : hole.optional with
          | true =>
              exact tells_stretch_optional hoptional hfit hstops hearly hsuffix hposition
                fun hmore hearly' hposition' =>
                  ih hfill' hmore hearly' (by simp) hsuffix' hposition'
          | false =>
              exact tells_stretch_required hoptional hfit hstops hearly hexact hsuffix hposition
                fun hmore hearly' hexact' hposition' =>
                  ih hfill' hmore hearly' hexact' hsuffix' hposition'

/-- The stops of a run tell of the spots behind the first ones, which a run may not stop at. -/
theorem tells_stretchFrom {set : CharSet} {most : Option Nat} {least : Nat} {front : Front}
    {spot : Spot} (hfill : FilledBy rest words)
    (hstops : stretchFrom set rest most least front = some stops)
    (hspot : At words outline front rest spot) :
    Tells words outline spot.captures stops
      ((nearSpots set spot.captures spot.left spot.rest spot.position most).drop least) := by
  obtain ⟨⟨w, hreads, hrest⟩, hsuffix, hposition⟩ := hspot
  rw [hrest] at hposition ⊢
  cases front with
  | none =>
      obtain rfl : w = [] := hreads
      exact tells_stretch hfill hstops le_rfl (fun _ => rfl) hsuffix hposition
  | some front =>
      obtain ⟨hole, mayBeEmpty⟩ := front
      obtain ⟨hfit, hend, -⟩ := hreads
      rw [stretchFrom] at hstops
      split at hstops
      · rename_i hboth
        obtain ⟨hwithin, hnone⟩ : hole.alphabet.within set = true ∧ most = none := by
          simpa using hboth
        obtain ⟨more, hmore, rfl⟩ := Option.map_eq_some_iff.mp hstops
        subst hnone
        rw [List.length_append] at hposition
        exact tells_passed hfit hend hwithin hsuffix (by omega)
          fun left => tells_stretch hfill hmore (by omega) (by simp) hsuffix (by omega)
      · cases hstops

end Receipts.Outline
