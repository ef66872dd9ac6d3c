import Receipts.Proofs.Json.Objects
import Receipts.Proofs.Json.Passing

/-!
# Readers against the grammar

A reader reads just the values of a relation if it takes each of them, whatever follows, and takes
nothing else. So are texts read, texts that may be null, values that are passed over, and from these
the members of an object one after another, whatever is made of them. A reader that keeps members as
they are written shows that an object has its members in one way.
-/

namespace Receipts.Json

open Scan (skipSpace)

/-- Whether a reader takes just the values that are related to something, each as that. -/
structure Reads {α : Type} (reader : Input → Outcome α) (R : Input → α → Prop) : Prop where
  takes : ∀ {v a}, R v a → ∀ rest, EndsNumeral rest → reader (v ++ rest) = .ok (a, rest)
  only : ∀ {s a rest}, reader s = .ok (a, rest) → ∃ v, R v a ∧ s = v ++ rest
  isPart : ∀ {v a}, R v a → IsPart .value v

/-- A value is read as one thing. -/
theorem Reads.unique {α : Type} {reader : Input → Outcome α} {R : Input → α → Prop}
    (h : Reads reader R) {v : Input} {a b : α} (ha : R v a) (hb : R v b) : a = b := by
  have hread := h.takes ha [] nofun
  rw [h.takes hb [] nofun] at hread
  exact congrArg Prod.fst (Except.ok.inj hread).symm

theorem Reads.map {α β : Type} {reader : Input → Outcome α} {R : Input → α → Prop}
    (h : Reads reader R) (f : α → β) :
    Reads (fun s => (reader s).map fun (a, s) => (f a, s)) fun v b => ∃ a, R v a ∧ b = f a where
  takes := by
    rintro v b ⟨a, hv, rfl⟩ rest hrest
    simp only [h.takes hv rest hrest]
    rfl
  only := by
    intro s b rest hread
    obtain ⟨⟨a, after⟩, hreader, heq⟩ := map_eq_ok_iff.mp hread
    cases heq
    obtain ⟨v, hv, rfl⟩ := h.only hreader
    exact ⟨v, ⟨a, hv, rfl⟩, rfl⟩
  isPart := by
    rintro v b ⟨a, hv, -⟩
    exact h.isPart hv

/-- Any value is passed over. -/
theorem reads_skipValue {α : Type} (a : α) :
    Reads (fun s => here ((Read.skipValue s).map fun s => (a, s)))
      fun v b => IsPart .value v ∧ b = a where
  takes := by
    rintro v b ⟨hv, rfl⟩ rest hrest
    simp only [Read.skipValue_append hv hrest]
    rfl
  only := by
    intro s b rest hread
    obtain ⟨after, hskip, heq⟩ := here_map_eq_ok_iff.mp hread
    cases heq
    obtain ⟨v, hv, rfl⟩ := Read.exists_of_skipValue hskip
    exact ⟨v, ⟨hv, rfl⟩, rfl⟩
  isPart h := h.1

/-- A document is read as what the shape makes of the value in it. -/
theorem Reads.parse_eq_ok_iff {shape : Shape} {R : Input → Json → Prop}
    (h : Reads (fun s => shape.readAt Read.maxDepth s) R) {s : Input} {json : Json} :
    shape.parse s = .ok json ↔ ∃ v after, R v json ∧ AreBlanks after ∧ s = v ++ after := by
  rw [Shape.parse, Read.complete_eq_ok_iff]
  constructor
  · rintro ⟨rest, hread, hrest⟩
    obtain ⟨v, hv, rfl⟩ := h.only hread
    obtain ⟨blanks, hblanks, hsplit⟩ := exists_blanks rest
    rw [List.isEmpty_iff.mp hrest, List.append_nil] at hsplit
    exact ⟨v, rest, hv, hsplit ▸ hblanks, rfl⟩
  · rintro ⟨v, after, hv, hafter, rfl⟩
    refine ⟨after, h.takes hv after hafter.endsNumeral, ?_⟩
    have hskip := hafter.skipSpace_append []
    rw [List.append_nil] at hskip
    rw [hskip]
    rfl

/-! ## Values without parts -/

/-- A value that is a text, as that text. -/
def IsText (v : Input) (json : Json) : Prop := ∃ t, IsTextOf t v ∧ json = .text t

/-- A value that is null or a text, as what it is. -/
def IsTextOrNull (v : Input) (json : Json) : Prop := (IsNull v ∧ json = .null) ∨ IsText v json

section
variable (expected : String) (depth : Nat)

theorem readAt_text_eq (s : Input) : (Shape.text expected).readAt depth s = match skipSpace s with
    | [] => fault .endInValue
    | some '"' :: s => here ((Scan.text s).map fun (t, s) => (.text t, s))
    | s => Read.mismatch expected s :=
  rfl

theorem readAt_option_eq (shape : Shape) (s : Input) :
    (Shape.option shape).readAt depth s = match skipSpace s with
      | some 'n' :: s => here ((Scan.word ['u', 'l', 'l'] s).map fun s => (.null, s))
      | s => shape.readAt depth s :=
  rfl

theorem reads_text : Reads (fun s => (Shape.text expected).readAt depth s) IsText where
  takes := by
    rintro v json ⟨t, ⟨before, inside, hbefore, hinside, rfl⟩, rfl⟩ rest -
    have hread : Scan.text (inside ++ some '"' :: rest) = .ok (t, rest) :=
      Scan.text_eq_ok_iff.mpr ⟨inside, hinside, rfl⟩
    simp only [List.append_assoc, List.cons_append, List.nil_append]
    rw [readAt_text_eq, hbefore.skipSpace_append, Read.skipSpace_of_visible (by decide)]
    simp [hread, here, Except.map]
  only := by
    intro s json rest h
    obtain ⟨before, hbefore, hs⟩ := exists_blanks s
    simp only [readAt_text_eq] at h
    split at h
    · cases h
    · rename_i hquote
      obtain ⟨⟨t, after⟩, hread, heq⟩ := here_map_eq_ok_iff.mp h
      cases heq
      obtain ⟨inside, hinside, rfl⟩ := Scan.text_eq_ok_iff.mp hread
      rw [hquote] at hs
      exact ⟨_, ⟨t, ⟨before, inside, hbefore, hinside, rfl⟩, rfl⟩, by simpa using hs⟩
    · exact absurd h (Read.mismatch_ne_ok _ _ _)
  isPart := by
    rintro v json ⟨t, htext, -⟩
    exact htext.isPart

theorem readAt_text_skipSpace (s : Input) : (Shape.text expected).readAt depth (skipSpace s)
    = (Shape.text expected).readAt depth s := by
  simp only [readAt_text_eq, skipSpace_skipSpace]

theorem reads_textOrNull :
    Reads (fun s => (Shape.option (.text expected)).readAt depth s) IsTextOrNull where
  takes := by
    rintro v json (⟨⟨before, hbefore, rfl⟩, rfl⟩ | htext) rest hrest
    · rw [readAt_option_eq, List.append_assoc, hbefore.skipSpace_append, Input.ofChars_cons,
        List.cons_append, Read.skipSpace_of_visible (by decide)]
      simp only [Scan.word_append]
      rfl
    · have hread := (reads_text expected depth).takes htext rest hrest
      obtain ⟨t, ⟨before, inside, hbefore, -, rfl⟩, -⟩ := htext
      rw [← readAt_text_skipSpace] at hread
      simp only [List.append_assoc, List.cons_append] at hread ⊢
      rw [hbefore.skipSpace_append, Read.skipSpace_of_visible (by decide)] at hread
      rw [readAt_option_eq, hbefore.skipSpace_append, Read.skipSpace_of_visible (by decide)]
      exact hread
  only := by
    intro s json rest h
    simp only [readAt_option_eq] at h
    split at h
    · rename_i hword
      obtain ⟨before, hbefore, hs⟩ := exists_blanks s
      obtain ⟨after, hread, heq⟩ := here_map_eq_ok_iff.mp h
      cases heq
      rw [hword, Scan.eq_of_word hread] at hs
      exact ⟨_, .inl ⟨⟨before, hbefore, rfl⟩, rfl⟩, by rw [hs]; simp⟩
    · rw [readAt_text_skipSpace] at h
      obtain ⟨v, htext, hs⟩ := (reads_text expected depth).only h
      exact ⟨v, .inr htext, hs⟩
  isPart := by
    rintro v json (⟨hnull, -⟩ | ⟨t, htext, -⟩)
    · exact hnull.isPart
    · exact htext.isPart

theorem readAt_option_skipSpace (shape : Shape) (s : Input) :
    (Shape.option shape).readAt depth (skipSpace s) = (Shape.option shape).readAt depth s := by
  simp only [readAt_option_eq, skipSpace_skipSpace]

end

/-! ## Items and members in turn -/

/-- What a reader of members makes of members one after another. -/
inductive Folds {σ : Type} (T : σ → String → Input → σ → Prop) :
    σ → List (String × Input) → σ → Prop
  | nil (read : σ) : Folds T read [] read
  | cons {read next last : σ} {key : String} {v : Input} {members : List (String × Input)} :
      T read key v next → Folds T next members last → Folds T read ((key, v) :: members) last

/-- Whether a reader of members makes just this of them: it refuses a key that nothing comes of, and
otherwise reads just the values that something comes of. -/
def ReadsMembers {σ : Type} (member : σ → String → Except Cause (Input → Outcome σ))
    (T : σ → String → Input → σ → Prop) : Prop :=
  ∀ read key, (∃ reader, member read key = .ok reader ∧ Reads reader (T read key)) ∨
    ((∃ cause, member read key = .error cause) ∧ ∀ v next, ¬ T read key v next)

namespace Read

section
variable {σ : Type} {member : σ → String → Except Cause (Input → Outcome σ)}
variable {T : σ → String → Input → σ → Prop}

theorem membersFrom_holds (hmember : ReadsMembers member T) {first : Bool}
    {members : List (String × Input)} {s : Input} (hs : HoldsMembers first members s)
    {read last : σ} (h : Folds T read members last) (fuel : Nat) (rest : Input) :
    membersFrom member (members.length + fuel + 1) first read (s ++ rest) = .ok (last, rest) := by
  induction hs generalizing read with
  | nil first hblanks =>
      cases h
      rw [List.append_assoc, List.singleton_append]
      exact membersFrom_blanks hblanks _ first _ rest
  | @cons first blanks before inside after v s key members hblanks hbefore hinside hafter hv hs
      ih =>
      obtain ⟨⟩ | ⟨hfirst, hlater⟩ := h
      rename_i next
      rcases hmember read key with ⟨reader, hreader, hreads⟩ | ⟨-, hnone⟩
      · have hvalue := hreads.takes hfirst (s ++ rest)
          (hs.isPart.endsNumeral (.inr rfl) rest)
        rw [List.length_cons, Nat.add_right_comm members.length 1]
        simp only [List.append_assoc, List.cons_append]
        rw [membersFrom_member hblanks hbefore hinside hafter hreader hvalue]
        exact ih hlater
      · exact absurd hfirst (hnone v next)

/-- A turn of a reader of members ends the object or reads a member. -/
theorem step_membersFrom {fuel : Nat} {first : Bool} {read last : σ} {s rest : Input}
    (h : membersFrom member (fuel + 1) first read s = .ok (last, rest)) :
    (nextKey first s = .ok none ∧ last = read ∧ rest = (skipSpace s).drop 1) ∨
      ∃ key behind reader start next left, nextKey first s = .ok (some (key, behind)) ∧
        member read key = .ok reader ∧ colon behind = .ok start ∧
        reader start = .ok (next, left) ∧
        membersFrom member fuel false next left = .ok (last, rest) := by
  rw [membersFrom] at h
  cases hkey : nextKey first s with
  | error cause => simp [hkey, here, fault, within] at h
  | ok found =>
      rw [hkey] at h
      rcases found with _ | ⟨key, behind⟩
      · cases h
        exact .inl ⟨rfl, rfl, rfl⟩
      · simp only [here, within] at h
        split at h
        · cases h
        · cases h
        · rename_i reader start hreader hcolon
          cases hvalue : reader start with
          | error f => simp [hvalue] at h
          | ok result =>
              simp only [hvalue] at h
              exact .inr ⟨_, _, reader, start, _, _, rfl, hreader, hcolon, hvalue, h⟩

theorem exists_of_membersFrom (hmember : ReadsMembers member T) {fuel : Nat} {first : Bool}
    {read last : σ} {s rest : Input}
    (h : membersFrom member fuel first read s = .ok (last, rest)) :
    ∃ members w, HoldsMembers first members w ∧ Folds T read members last ∧ s = w ++ rest := by
  induction fuel generalizing first read s with
  | zero => cases h
  | succ fuel ih =>
      obtain ⟨blanks, hblanks, hs⟩ := exists_blanks s
      rcases step_membersFrom h with ⟨hkey, rfl, hrest⟩ |
        ⟨key, behind, reader, start, next, left, hkey, hreader, hcolon, hvalue, hstep⟩
      · refine ⟨[], blanks ++ [some '}'], .nil first hblanks, .nil _, ?_⟩
        have hend : skipSpace s = some '}' :: (skipSpace s).drop 1 := keyAt_of_nextKey hkey
        rw [List.append_assoc, List.singleton_append, hrest, ← hend]
        exact hs
      · obtain ⟨before, inside, hbefore, hinside, hsplit⟩ := keyAt_of_nextKey hkey
        obtain ⟨after, hafter, rfl⟩ := exists_of_colon hcolon
        rcases hmember read key with ⟨other, hother, hreads⟩ | ⟨⟨cause, hrefused⟩, -⟩
        · obtain rfl := Except.ok.inj (hreader.symm.trans hother)
          obtain ⟨v, hv, rfl⟩ := hreads.only hvalue
          obtain ⟨members, w, hw, hfolds, rfl⟩ := ih hstep
          refine ⟨(key, v) :: members, _, .cons first hblanks hbefore hinside hafter
            (hreads.isPart hv) hw, .cons hv hfolds, ?_⟩
          rw [hs, hsplit]
          simp
        · rw [hrefused] at hreader
          cases hreader

/-- What becomes of the members of an object. -/
theorem members_eq_ok_iff (hmember : ReadsMembers member T) {start last : σ} {s rest : Input} :
    Read.members member start s = .ok (last, rest) ↔
      ∃ members w, HoldsMembers true members w ∧ Folds T start members last ∧ s = w ++ rest := by
  constructor
  · exact exists_of_membersFrom hmember
  · rintro ⟨members, w, hw, hfolds, rfl⟩
    have hlength := hw.length_lt
    have hread := membersFrom_holds hmember hw hfolds ((w ++ rest).length - members.length) rest
    rw [Nat.add_sub_cancel' (by rw [List.length_append]; omega)] at hread
    exact hread

end

/-! ## The members of an object are determined -/

/-- A reader that keeps members as they are written, latest first. -/
def recording (read : List (String × Input)) (key : String) :
    Except Cause (Input → Outcome (List (String × Input))) :=
  .ok fun s => here ((skipValue s).map fun rest =>
    ((key, s.take (s.length - rest.length)) :: read, rest))

theorem readsMembers_recording : ReadsMembers recording
    fun read key v next => IsPart .value v ∧ next = (key, v) :: read := by
  intro read key
  refine .inl ⟨_, rfl, ⟨?_, ?_, And.left⟩⟩
  · rintro v next ⟨hv, rfl⟩ rest hrest
    rw [skipValue_append hv hrest]
    simp [here, Except.map]
  · intro s next rest h
    obtain ⟨after, hskip, heq⟩ := here_map_eq_ok_iff.mp h
    cases heq
    obtain ⟨v, hv, rfl⟩ := exists_of_skipValue hskip
    exact ⟨v, ⟨hv, by simp⟩, rfl⟩

theorem folds_recording {members : List (String × Input)}
    (h : ∀ member ∈ members, IsPart .value member.2) (read : List (String × Input)) :
    Folds (fun read key v next => IsPart .value v ∧ next = (key, v) :: read) read members
      (members.reverse ++ read) := by
  induction members generalizing read with
  | nil => exact .nil read
  | cons member members ih =>
      obtain ⟨hv, hvalues⟩ := List.forall_mem_cons.mp h
      rw [List.reverse_cons, List.append_assoc]
      exact .cons ⟨hv, rfl⟩ (ih hvalues _)

theorem eq_of_folds_recording {read last members : List (String × Input)}
    (h : Folds (fun read key v next => IsPart .value v ∧ next = (key, v) :: read) read members
      last) : last = members.reverse ++ read := by
  induction h with
  | nil read => rfl
  | cons hfirst _ ih =>
      rw [ih, hfirst.2]
      simp

/-- The members of an object are those that are recorded. -/
theorem members_recording_iff {s rest : Input} {members : List (String × Input)} :
    Read.members recording [] s = .ok (members.reverse, rest) ↔
      ∃ w, HoldsMembers true members w ∧ s = w ++ rest := by
  rw [members_eq_ok_iff readsMembers_recording]
  constructor
  · rintro ⟨others, w, hw, hfolds, hs⟩
    have heq := eq_of_folds_recording hfolds
    rw [List.append_nil, List.reverse_inj] at heq
    exact ⟨w, heq ▸ hw, hs⟩
  · rintro ⟨w, hw, hs⟩
    have hfolds := folds_recording hw.values []
    rw [List.append_nil] at hfolds
    exact ⟨members, w, hw, hfolds, hs⟩

end Read

/-- An object has its members in one way. -/
theorem HoldsMembers.unique {members others : List (String × Input)} {w w' rest rest' : Input}
    (h : HoldsMembers true members w) (h' : HoldsMembers true others w')
    (heq : w ++ rest = w' ++ rest') : members = others := by
  have hread : Read.members Read.recording [] (w ++ rest) = .ok (members.reverse, rest) :=
    Read.members_recording_iff.mpr ⟨w, h, rfl⟩
  rw [heq, Read.members_recording_iff.mpr ⟨w', h', rfl⟩] at hread
  exact List.reverse_inj.mp (congrArg Prod.fst (Except.ok.inj hread)).symm

theorem isObjectDocument_of_recording {s : Input} {members : List (String × Input)}
    (h : Read.members Read.recording [] s = .ok (members.reverse, [])) :
    IsObjectDocument members (some '{' :: s) := by
  obtain ⟨w, hw, hs⟩ := Read.members_recording_iff.mp h
  rw [List.append_nil] at hs
  exact ⟨some '{' :: s, [], ⟨[], w, .nil, hw, by rw [hs]; rfl⟩, .nil, by simp⟩

theorem isTextOf_of_readAt {v : Input} {t : String}
    (h : (Shape.text "").readAt 0 v = .ok (.text t, [])) : IsTextOf t v := by
  obtain ⟨w, ⟨t, ht, heq⟩, hv⟩ := (reads_text "" 0).only h
  cases heq
  rwa [hv, List.append_nil]

theorem IsObjectOf.exists_inside {members : List (String × Input)} {v : Input}
    (h : IsObjectOf members v) (rest : Input) : ∃ inside, HoldsMembers true members inside ∧
      skipSpace (v ++ rest) = some '{' :: (inside ++ rest) := by
  obtain ⟨before, inside, hbefore, hinside, rfl⟩ := h
  refine ⟨inside, hinside, ?_⟩
  rw [List.append_assoc, List.cons_append, hbefore.skipSpace_append,
    Read.skipSpace_of_visible (by decide)]

theorem IsListOf.exists_inside {items : List Input} {v : Input} (h : IsListOf items v)
    (rest : Input) : ∃ inside, HoldsItems true items inside ∧
      skipSpace (v ++ rest) = some '[' :: (inside ++ rest) := by
  obtain ⟨before, inside, hbefore, hinside, rfl⟩ := h
  refine ⟨inside, hinside, ?_⟩
  rw [List.append_assoc, List.cons_append, hbefore.skipSpace_append,
    Read.skipSpace_of_visible (by decide)]

theorem IsObjectOf.unique {members others : List (String × Input)} {v v' rest rest' : Input}
    (h : IsObjectOf members v) (h' : IsObjectOf others v') (heq : v ++ rest = v' ++ rest') :
    members = others := by
  obtain ⟨inside, hinside, hs⟩ := h.exists_inside rest
  obtain ⟨inside', hinside', hs'⟩ := h'.exists_inside rest'
  rw [heq, hs'] at hs
  exact hinside.unique hinside' (List.cons.inj hs).2.symm

theorem IsObjectOf.not_isListOf {members : List (String × Input)} {items : List Input}
    {v v' rest rest' : Input} (h : IsObjectOf members v) (heq : v ++ rest = v' ++ rest') :
    ¬ IsListOf items v' := by
  intro h'
  obtain ⟨inside, -, hs⟩ := h.exists_inside rest
  obtain ⟨inside', -, hs'⟩ := h'.exists_inside rest'
  rw [heq, hs'] at hs
  cases hs

end Receipts.Json
