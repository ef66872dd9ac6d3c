import Receipts.Pattern.Search
import Receipts.Proofs.Outline.Reading

/-!
# Verdicts hold on all documents

A verdict on an outline is what matching does on each document of the outline. So a group that is
found at given marks is, on each document, the text of these marks.
-/

namespace Receipts.Outline

open Pattern (Capture Spot Continuation nearSpots)

variable (words : Hole → List Char) (outline : Outline)

/-- Whether the first group matched last from the marks `first` up to the marks `last`. -/
def Marked (first last : Outline) (captures : List Capture) : Prop :=
  first <:+ outline ∧ last <:+ outline ∧
    ∃ a b, captures.find? (fun capture => capture.group == 1) = some ⟨1, a, b⟩ ∧
      a + (spell words first).length = (spell words outline).length ∧
      b + (spell words last).length = (spell words outline).length

/-- Whether a spot is one of the places, and its first group the one that is known. -/
structure Place.Covers (place : Place) (spot : Spot) : Prop where
  at_spot : At words outline place.front place.rest spot
  group : ∀ first last, place.group = some (first, last) →
    Marked words outline first last spot.captures

/-- Whether a verdict is right about the result of a match. -/
def Verdict.Holds : Verdict → Option Spot → Prop
  | fails, result => result = none
  | finds first last, result =>
      ∃ spot, result = some spot ∧ Marked words outline first last spot.captures
  | unclear, _ => True

/-- Whether the verdicts on what follows are right at all spots. -/
def Sound (next : Place → Verdict) (go : Continuation) : Prop :=
  ∀ place spot, place.Covers words outline spot → (next place).Holds words outline (go spot)

variable {words outline} {verdict other : Verdict} {result otherResult : Option Spot}

theorem Verdict.Holds.orElse (h : verdict.Holds words outline result)
    (h' : other.Holds words outline otherResult) :
    (verdict.orElse other).Holds words outline (result.or otherResult) := by
  cases verdict with
  | fails =>
      obtain rfl : result = none := h
      exact h'
  | finds first last =>
      obtain ⟨spot, rfl, hmarked⟩ := h
      exact ⟨spot, rfl, hmarked⟩
  | unclear => trivial

theorem Verdict.Holds.ifSure (h : verdict.Holds words outline result) (sure : Bool) :
    (verdict.ifSure sure).Holds words outline result := by
  cases verdict with
  | fails => exact h
  | finds first last =>
      cases sure with
      | true => exact h
      | false => trivial
  | unclear => trivial

/-- The stop that decides is the one of the spot that decides. -/
theorem holds_firstOf {next : Front → Outline → Verdict} {go : Continuation}
    {captures : List Capture} {stops : List Stop} {spots : List Spot}
    (hnext : ∀ front rest spot, At words outline front rest spot → spot.captures = captures →
      (next front rest).Holds words outline (go spot))
    (h : Tells words outline captures stops spots) :
    (firstOf next stops).Holds words outline (spots.findSome? go) := by
  induction h with
  | nil => rfl
  | cons hhere hsure _ ih =>
      rename_i stop stops here spots _
      rw [List.findSome?_append, firstOf]
      refine Verdict.Holds.orElse ?_ ih
      cases hstop : stop.sure with
      | true =>
          obtain ⟨spot, rfl⟩ := hsure hstop
          obtain ⟨hat, hcap⟩ := hhere spot (by simp)
          have hone := (hnext _ _ spot hat hcap).ifSure true
          cases hgo : go spot with
          | none => simpa [hgo] using hone
          | some found => simpa [hgo] using hone
      | false =>
          cases hv : next stop.front stop.rest with
          | fails =>
              refine List.findSome?_eq_none_iff.mpr fun spot hm => ?_
              obtain ⟨hat, hcap⟩ := hhere spot hm
              have hfails := hnext _ _ spot hat hcap
              rwa [hv] at hfails
          | finds first last => trivial
          | unclear => trivial

/-- Places change with what is read, and a known group stays known. -/
theorem Place.Covers.move {place : Place} {spot after : Spot} {front : Front} {rest : Outline}
    (h : place.Covers words outline spot) (hat : At words outline front rest after)
    (hcap : after.captures = spot.captures) :
    Place.Covers words outline { place with front, rest } after :=
  ⟨hat, fun first last hgroup => hcap ▸ h.group first last hgroup⟩

variable {next : Place → Verdict} {go : Continuation}

theorem sound_text (hfill : FilledBy outline words) (hnext : Sound words outline next go)
    (t : List Char) :
    Sound words outline (attempt (.text t) next) (Pattern.matchAt (.text t) go) := by
  intro place spot hcovers
  have hrest : FilledBy place.rest words := hfill.of_suffix hcovers.at_spot.suffix
  have hafter : ∀ left {s front rest}, spot.rest = t ++ s → Reaches words front rest s →
      rest <:+ place.rest → Place.Covers words outline { place with front, rest }
        ⟨left, s, spot.position + t.length, spot.captures⟩ := by
    intro left s front rest hs hreach hsuffix
    refine hcovers.move ⟨hreach, hsuffix.trans hcovers.at_spot.suffix, ?_⟩ rfl
    have := hcovers.at_spot.position
    rw [hs, List.length_append] at this
    simp only
    omega
  rw [attempt]
  cases heat : eatFrom place.rest t place.front with
  | exactly rest =>
      obtain ⟨hs, hsuffix⟩ := eatFrom_exactly hcovers.at_spot.reaches heat
      obtain ⟨left, hpass⟩ := Pattern.afterText?_append hs
      simp only [Pattern.matchAt, hpass]
      exact hnext _ _ (hafter left hs (reaches_spell rest) hsuffix)
  | among ends =>
      simp only
      split
      · rename_i hall
        rw [List.all_eq_true] at hall
        by_cases hp : t <+: spot.rest
        · obtain ⟨s, hs⟩ := hp
          obtain ⟨left, hpass⟩ := Pattern.afterText?_append hs.symm
          obtain ⟨e, he, hreach, hsuffix⟩ :=
            exists_mem_eatFrom hrest hcovers.at_spot.reaches hs.symm
          have hmem : e ∈ ends := by simpa [heat, Eaten.ends] using he
          have hfails := hnext _ _ (hafter left hs.symm hreach hsuffix)
          rw [of_decide_eq_true (hall e hmem)] at hfails
          simp only [Pattern.matchAt, hpass]
          exact hfails
        · simp only [Pattern.matchAt, Pattern.afterText?_eq_none hp]
          rfl
      · trivial

theorem sound_run (hfill : FilledBy outline words) (hnext : Sound words outline next go)
    (set : CharSet) (least : Nat) (most : Option Nat) (greedy : Bool) :
    Sound words outline (attempt (.run set least most greedy) next)
      (Pattern.matchAt (.run set least most greedy) go) := by
  intro place spot hcovers
  have hrest : FilledBy place.rest words := hfill.of_suffix hcovers.at_spot.suffix
  rw [attempt, Pattern.matchAt, Pattern.runEnds_eq]
  cases hstops : stretchFrom set place.rest most least place.front with
  | none => trivial
  | some stops =>
      have htells := tells_stretchFrom hrest hstops hcovers.at_spot
      have hmove : ∀ front rest after, At words outline front rest after →
          after.captures = spot.captures →
          (next { place with front, rest }).Holds words outline (go after) :=
        fun front rest after hat hcap => hnext _ _ (hcovers.move hat hcap)
      simp only
      split
      · exact holds_firstOf hmove htells.reverse
      · exact holds_firstOf hmove htells

/-- What the first group records is known if it begins and ends at known marks. -/
theorem Place.Covers.mark {place after : Place} {spot spot' : Spot}
    (h : place.Covers words outline spot) (h' : after.Covers words outline spot')
    (captures : List Capture) :
    Place.Covers words outline
      { after with
        group :=
          if place.front = none && after.front = none then some (place.rest, after.rest)
          else none }
      { spot' with captures := ⟨1, spot.position, spot'.position⟩ :: captures } := by
  refine ⟨⟨h'.at_spot.reaches, h'.at_spot.suffix, h'.at_spot.position⟩, fun first last hgroup => ?_⟩
  simp only at hgroup
  split at hgroup
  · rename_i hclear
    obtain ⟨hfront, hfront'⟩ : place.front = none ∧ after.front = none := by simpa using hclear
    obtain ⟨rfl, rfl⟩ : place.rest = first ∧ after.rest = last := by simpa using hgroup
    have hfirst := h.at_spot.reaches
    have hlast := h'.at_spot.reaches
    rw [hfront, reaches_none_iff] at hfirst
    rw [hfront', reaches_none_iff] at hlast
    refine ⟨h.at_spot.suffix, h'.at_spot.suffix, spot.position, spot'.position, by simp, ?_, ?_⟩
    · rw [← hfirst]
      exact h.at_spot.position
    · rw [← hlast]
      exact h'.at_spot.position
  · cases hgroup

/-- What another group records does not change what is known of the first. -/
theorem Place.Covers.mark_other {place : Place} {spot : Spot}
    (h : place.Covers words outline spot) {index : Nat} (hindex : index ≠ 1) (a b : Nat) :
    place.Covers words outline { spot with captures := ⟨index, a, b⟩ :: spot.captures } := by
  refine ⟨⟨h.at_spot.reaches, h.at_spot.suffix, h.at_spot.position⟩, fun first last hgroup => ?_⟩
  obtain ⟨hfirst, hlast, a', b', hfind, ha, hb⟩ := h.group first last hgroup
  exact ⟨hfirst, hlast, a', b', by simpa [hindex] using hfind, ha, hb⟩

theorem sound_group (hnext : Sound words outline next go) (index : Nat) (body : Pattern)
    (hbody : ∀ {next go}, Sound words outline next go →
      Sound words outline (attempt body next) (body.matchAt go)) :
    Sound words outline (attempt (.group index body) next)
      (Pattern.matchAt (.group index body) go) := by
  intro place spot hcovers
  by_cases hindex : index = 1
  · subst hindex
    rw [attempt, Pattern.matchAt]
    exact hbody (fun _ _ hafter => hnext _ _ (hcovers.mark hafter _)) place spot hcovers
  · have hattempt : attempt (.group index body) next = attempt body next := by
      funext place
      rw [attempt]
      exact hindex
    rw [hattempt, Pattern.matchAt]
    exact hbody (fun _ _ hafter => hnext _ _ (hafter.mark_other hindex _ _)) place spot hcovers

/-- What is said of a pattern holds if what is said of all that follows does. -/
theorem sound_attempt (hfill : FilledBy outline words) (pattern : Pattern)
    (hnext : Sound words outline next go) :
    Sound words outline (attempt pattern next) (pattern.matchAt go) := by
  induction pattern generalizing next go with
  | empty => exact hnext
  | text t => exact sound_text hfill hnext t
  | run set least most greedy => exact sound_run hfill hnext set least most greedy
  | seq first second ihfirst ihsecond => exact ihfirst (ihsecond hnext)
  | alt first second ihfirst ihsecond =>
      intro place spot hcovers
      rw [attempt, Pattern.matchAt_alt]
      exact (ihfirst hnext place spot hcovers).orElse (ihsecond hnext place spot hcovers)
  | repeated least most greedy body ih =>
      intro place spot hcovers
      by_cases hoptional : least = 0 ∧ most = some 1
      · obtain ⟨rfl, rfl⟩ := hoptional
        cases greedy with
        | true =>
            rw [attempt, Pattern.matchAt_optional]
            exact (ih hnext place spot hcovers).orElse (hnext place spot hcovers)
        | false =>
            rw [attempt, Pattern.matchAt_optional_lazy]
            exact (hnext place spot hcovers).orElse (ih hnext place spot hcovers)
      · rw [attempt]
        · trivial
        · exact fun hleast hmost _ => hoptional ⟨hleast, hmost⟩
        · exact fun hleast hmost _ => hoptional ⟨hleast, hmost⟩
  | group index body ih => exact sound_group hnext index body fun h => ih h
  | assertion condition => exact fun _ _ _ => trivial

/-! ## Searches -/

theorem sound_conclude : Sound words outline conclude some := by
  intro place spot hcovers
  rw [conclude]
  split
  · rename_i first last hgroup
    exact ⟨spot, rfl, hcovers.group first last hgroup⟩
  · trivial

theorem holds_attempt_conclude (hfill : FilledBy outline words) (pattern : Pattern)
    {front : Front} {rest : Outline} (left : Option Char) {s : List Char} (position : Nat)
    (hreach : Reaches words front rest s) (hsuffix : rest <:+ outline)
    (hposition : position + s.length = (spell words outline).length) :
    (attempt pattern conclude ⟨front, rest, none⟩).Holds words outline
      (pattern.matchAt some ⟨left, s, position, []⟩) :=
  sound_attempt hfill pattern sound_conclude _ _ ⟨⟨hreach, hsuffix, hposition⟩, by simp⟩

/-- A match of a pattern begins with the lead of the pattern. -/
theorem matchAt_eq_none_of_lead {pattern : Pattern} {spot : Spot}
    (h : ¬ lead pattern <+: spot.rest) (go : Continuation) : pattern.matchAt go spot = none := by
  induction pattern generalizing go with
  | text t =>
      have hnot : ¬ t <+: spot.rest := h
      rw [Pattern.matchAt, Pattern.afterText?_eq_none hnot]
  | seq first second ihfirst _ => exact ihfirst h _
  | group index body ih => exact ih h _
  | empty | run | alt | repeated | assertion => exact absurd List.nil_prefix h

theorem not_prefix_of_agrees {t : List Char} {marks : Outline} (h : agrees t marks = false)
    (s : List Char) : ¬ t <+: spell words marks ++ s := by
  induction t generalizing marks with
  | nil => cases h
  | cons c t ih =>
      cases marks with
      | nil => cases h
      | cons mark rest =>
          cases mark with
          | char d =>
              rw [spell_char, List.cons_append, List.cons_prefix_cons]
              rintro ⟨rfl, hprefix⟩
              rw [agrees, decide_eq_true rfl, Bool.true_and] at h
              exact ih h hprefix
          | hole hole => cases h

theorem not_prefix_of_mayBegin {c : Char} {t : List Char} {block : Outline}
    (h : mayBegin c t block = false) {v : List Char} (hv : v <:+ spell words block)
    (hne : v ≠ []) (s : List Char) : ¬ c :: t <+: v ++ s := by
  induction block with
  | nil => exact absurd (List.suffix_nil.mp hv) hne
  | cons mark rest ih =>
      cases mark with
      | char d =>
          rw [mayBegin, Bool.or_eq_false_iff] at h
          rw [spell_char] at hv
          rcases List.suffix_cons_iff.mp hv with rfl | hv
          · rw [List.cons_append, List.cons_prefix_cons]
            rintro ⟨rfl, hprefix⟩
            rw [decide_eq_true rfl, Bool.true_and] at h
            exact not_prefix_of_agrees h.1 s hprefix
          · exact ih h.2 hv
      | hole hole => cases h

/-- A text that a block does not hold begins at none of its characters. -/
theorem not_prefix_of_mayHold {t : List Char} {block : Outline} (h : mayHold t block = false)
    {v : List Char} (hv : v <:+ spell words block) (hne : v ≠ []) (s : List Char) :
    ¬ t <+: v ++ s := by
  cases t with
  | nil => cases h
  | cons c t => exact not_prefix_of_mayBegin h hv hne s

/-- If no match begins in an end of the text of a hole, the search goes on behind the hole. -/
theorem holds_inside (hfill : FilledBy outline words) (pattern : Pattern) {hole : Hole}
    {rest : Outline} {w : List Char} (hw : w <:+ words hole)
    (hsuffix : .hole hole :: rest <:+ outline) {left : Option Char} {position : Nat}
    (hposition : position + w.length + (spell words rest).length = (spell words outline).length)
    (hlater : ∀ left, verdict.Holds words outline
      (pattern.searchFrom left (spell words rest) (position + w.length))) :
    (((attempt pattern conclude ⟨some (hole, false), rest, none⟩).ifSure false).orElse
      verdict).Holds words outline
        (pattern.searchFrom left (w ++ spell words rest) position) := by
  have hfit := hfill hole (hsuffix.subset List.mem_cons_self)
  have hsuffix' : rest <:+ outline := (List.suffix_cons _ _).trans hsuffix
  cases hinside : attempt pattern conclude ⟨some (hole, false), rest, none⟩ with
  | fails =>
      have hnone : ∀ v, v <:+ w → v ≠ [] → ∀ left at', at' + v.length = position + w.length →
          pattern.matchAt some ⟨left, v ++ spell words rest, at', []⟩ = none := by
        intro v hv hne left at' hat
        have hreach : Reaches words (some (hole, false)) rest (v ++ spell words rest) :=
          ⟨v, ⟨hfit, hv.trans hw, fun _ => hne⟩, rfl⟩
        have hfails := holds_attempt_conclude hfill pattern left at' hreach hsuffix'
          (by rw [List.length_append]; omega)
        rwa [hinside] at hfails
      obtain ⟨left', hpass⟩ :=
        Pattern.searchFrom_append pattern w (spell words rest) position hnone left
      rw [hpass]
      exact hlater left'
  | finds first last => trivial
  | unclear => trivial

/-- What a search finds at a hole, given what it finds behind the hole. -/
theorem holds_seekThrough_hole (hfill : FilledBy outline words) (pattern : Pattern) {hole : Hole}
    {rest behind : Outline} (hsuffix : .hole hole :: (rest ++ behind) <:+ outline)
    {left : Option Char} {position : Nat}
    (hposition : position + (words hole ++ spell words (rest ++ behind)).length
      = (spell words outline).length)
    (hlater : ∀ {left position},
      position + (spell words (rest ++ behind)).length = (spell words outline).length →
      (seekThrough pattern behind verdict rest).Holds words outline
        (pattern.searchFrom left (spell words (rest ++ behind)) position)) :
    (seekThrough pattern behind verdict (.hole hole :: rest)).Holds words outline
      (pattern.searchFrom left (words hole ++ spell words (rest ++ behind)) position) := by
  have hhere := holds_attempt_conclude hfill pattern left position
    (reaches_spell (.hole hole :: (rest ++ behind))) hsuffix hposition
  rw [List.length_append] at hposition
  rw [seekThrough]
  split
  · exact holds_inside hfill pattern List.suffix_rfl hsuffix (by omega)
      fun left => hlater (by omega)
  · rename_i hrequired
    have hfit := hfill hole (hsuffix.subset List.mem_cons_self)
    obtain ⟨c, w, hw⟩ := List.exists_cons_of_ne_nil (hfit.nonempty (by simpa using hrequired))
    rw [hw, List.length_cons] at hposition
    rw [spell_hole, hw, List.cons_append] at hhere
    rw [hw, List.cons_append, Pattern.searchFrom_cons]
    exact hhere.orElse (holds_inside hfill pattern (hw ▸ List.suffix_cons c w) hsuffix
      (by omega) fun left => hlater (by omega))

/-- What a search finds in a block, given what it finds behind the block. -/
theorem holds_seekThrough (hfill : FilledBy outline words) (pattern : Pattern)
    {block behind : Outline} (hsuffix : block ++ behind <:+ outline) {left : Option Char}
    {position : Nat}
    (hposition : position + (spell words (block ++ behind)).length = (spell words outline).length)
    (hlater : ∀ {left position},
      position + (spell words behind).length = (spell words outline).length →
      verdict.Holds words outline (pattern.searchFrom left (spell words behind) position)) :
    (seekThrough pattern behind verdict block).Holds words outline
      (pattern.searchFrom left (spell words (block ++ behind)) position) := by
  induction block generalizing left position with
  | nil => exact hlater hposition
  | cons mark rest ih =>
      have hsuffix' : rest ++ behind <:+ outline := (List.suffix_cons _ _).trans hsuffix
      cases mark with
      | char c =>
          have hhere := holds_attempt_conclude hfill pattern left position
            (reaches_spell (.char c :: (rest ++ behind))) hsuffix hposition
          rw [List.cons_append, spell_char] at hposition ⊢
          rw [spell_char] at hhere
          rw [List.length_cons] at hposition
          rw [seekThrough, Pattern.searchFrom_cons]
          split
          · exact hhere.orElse (ih hsuffix' (by omega))
          · rename_i hagrees
            have hnot : ¬ lead pattern <+: c :: spell words (rest ++ behind) := by
              rw [spell_append]
              exact not_prefix_of_agrees (by simpa using hagrees) (spell words behind)
            rw [matchAt_eq_none_of_lead hnot some, Option.none_or]
            exact ih hsuffix' (by omega)
      | hole hole =>
          exact holds_seekThrough_hole hfill pattern hsuffix hposition (ih hsuffix')

/-- What a search finds in the last blocks of an outline. -/
theorem holds_seek_of_suffix (hfill : FilledBy outline words) (pattern : Pattern)
    {blocks : List Outline} (hsuffix : blocks.flatten <:+ outline) {left : Option Char}
    {position : Nat}
    (hposition : position + (spell words blocks.flatten).length
      = (spell words outline).length) :
    (seek pattern blocks).Holds words outline
      (pattern.searchFrom left (spell words blocks.flatten) position) := by
  induction blocks generalizing left position with
  | nil =>
      exact holds_attempt_conclude hfill pattern left position (reaches_spell []) hsuffix hposition
  | cons block blocks ih =>
      rw [List.flatten_cons] at hsuffix hposition ⊢
      have hsuffix' : blocks.flatten <:+ outline := (List.suffix_append _ _).trans hsuffix
      rw [seek]
      split
      · exact holds_seekThrough hfill pattern hsuffix hposition (ih hsuffix')
      · rename_i hpass
        rw [spell_append, List.length_append] at hposition
        obtain ⟨left', hsearch⟩ := Pattern.searchFrom_append pattern (spell words block)
          (spell words blocks.flatten) position (fun v hv hne _ _ _ =>
            matchAt_eq_none_of_lead (not_prefix_of_mayHold (by simpa using hpass) hv hne _) some)
          left
        rw [spell_append, hsearch]
        exact ih hsuffix' (by omega)

/-- Two ends of a list are told apart by what the longer one begins with. -/
theorem eq_append_of_suffix {first last target : Outline} (hfirst : first <:+ outline)
    (hlast : last <:+ outline) (htake : first.take target.length = target)
    (hlength : (first.drop target.length).length = last.length) : first = target ++ last := by
  have hdrop : first.drop target.length = last :=
    (List.suffix_of_suffix_length_le ((List.drop_suffix _ _).trans hfirst) hlast
      hlength.le).eq_of_length hlength
  calc first = first.take target.length ++ first.drop target.length :=
        (List.take_append_drop _ _).symm
    _ = target ++ last := by rw [htake, hdrop]

variable {blocks : List Outline}

/-- What a search finds is what its verdict says. -/
theorem holds_seek (hfill : FilledBy blocks.flatten words) (pattern : Pattern) :
    (seek pattern blocks).Holds words blocks.flatten
      (pattern.searchFrom none (spell words blocks.flatten) 0) :=
  holds_seek_of_suffix hfill pattern List.suffix_rfl (by simp)

/-- A group that is found at given marks has the text of these marks. -/
theorem capture?_of_finds {pattern : Pattern} {target last : Outline}
    (hdirect : pattern.isDirect = true) (hfill : FilledBy blocks.flatten words)
    (h : seek pattern blocks = .finds (target ++ last) last) :
    pattern.capture? 1 (spell words blocks.flatten) = some (spell words target) := by
  have hseek := holds_seek hfill pattern
  rw [h] at hseek
  obtain ⟨spot, hspot, ⟨before, hbefore⟩, -, a, b, hfind, ha, hb⟩ := hseek
  have hspell : spell words blocks.flatten
      = spell words before ++ (spell words target ++ spell words last) := by
    rw [← hbefore, spell_append, spell_append]
  have hfound : pattern.find? 1 (spell words blocks.flatten) = some (a, b) := by
    rw [Pattern.find?, if_pos hdirect, Pattern.findByWays?, hspot, Option.bind_some, hfind]
    rfl
  rw [hspell, spell_append] at ha
  rw [hspell] at hb
  simp only [List.length_append] at ha hb
  obtain rfl : a = (spell words before).length := by omega
  obtain rfl : b = (spell words before).length + (spell words target).length := by omega
  rw [Pattern.capture?, hfound, hspell, Option.map_some]
  simp only
  rw [List.drop_left, Nat.add_sub_cancel_left, List.take_left]

theorem capture?_of_fails {pattern : Pattern} (hdirect : pattern.isDirect = true)
    (hfill : FilledBy blocks.flatten words) (h : seek pattern blocks = .fails) :
    pattern.capture? 1 (spell words blocks.flatten) = none := by
  have hseek := holds_seek hfill pattern
  rw [h] at hseek
  rw [Pattern.capture?, Pattern.find?, if_pos hdirect, Pattern.findByWays?, hseek]
  rfl

/-- The marks of a verdict are two ends of the outline. -/
theorem eq_append_of_seek {pattern : Pattern} {first last target : Outline}
    (hfill : FilledBy blocks.flatten words) (h : seek pattern blocks = .finds first last)
    (htake : first.take target.length = target)
    (hlength : (first.drop target.length).length = last.length) : first = target ++ last := by
  have hseek := holds_seek hfill pattern
  rw [h] at hseek
  obtain ⟨_, _, hfirst, hlast, _⟩ := hseek
  exact eq_append_of_suffix hfirst hlast htake hlength

theorem capture?_of_recovers {pattern : Pattern} {target : Outline}
    (hdirect : pattern.isDirect = true) (hfill : FilledBy blocks.flatten words)
    (h : recovers pattern blocks target = true) :
    pattern.capture? 1 (spell words blocks.flatten) = some (spell words target) := by
  rw [recovers] at h
  split at h
  · rename_i first last hverdict
    obtain ⟨htake, hlength⟩ : first.take target.length = target ∧
        (first.drop target.length).length = last.length := by simpa using h
    exact capture?_of_finds hdirect hfill
      (eq_append_of_seek hfill hverdict htake hlength ▸ hverdict)
  · cases h

/-- A group that is missed is not found, or it is blank. -/
theorem all_isBlank_of_misses {pattern : Pattern} (hdirect : pattern.isDirect = true)
    (hfill : FilledBy blocks.flatten words) (h : misses pattern blocks = true) {found : List Char}
    (hfound : pattern.capture? 1 (spell words blocks.flatten) = some found) :
    found.all Text.isBlank = true := by
  rw [misses] at h
  split at h
  · rename_i hverdict
    rw [capture?_of_fails hdirect hfill hverdict] at hfound
    cases hfound
  · rename_i first last hverdict
    rw [Bool.and_eq_true, decide_eq_true_eq] at h
    have hlength : (first.take (first.length - last.length)).length
        = first.length - last.length := by simp
    have hsplit : first = first.take (first.length - last.length) ++ last :=
      eq_append_of_seek hfill hverdict (by rw [hlength]) (by rw [hlength, List.length_drop]; omega)
    rw [capture?_of_finds hdirect hfill (hsplit ▸ hverdict), Option.some.injEq] at hfound
    exact hfound ▸ all_isBlank_spell words h.2
  · cases h

end Receipts.Outline
