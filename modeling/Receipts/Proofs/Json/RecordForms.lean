import Receipts.Proofs.Json.Decoding
import Receipts.Text.Blank

/-!
# What records are read from

A record is read from the objects in which each of its members stands at most once and is what it
should be, whatever the other members are, and from the lists of its members in their order.
-/

namespace Receipts.Json

open Scan (skipSpace)

/-! ## Members by their names -/

namespace Members

/-- The names of the members of a record in their order. -/
def names : Members → List String
  | .none => []
  | .more name _ _ rest => name :: rest.names

theorem knows_iff (members : Members) (key : String) :
    members.knows key = true ↔ key ∈ members.names := by
  induction members using Members.rec (motive_1 := fun _ => True) with
  | none => simp [knows, shape?, names]
  | more name presence shape rest _ ih =>
      rw [knows, shape?, names, List.mem_cons, ← ih, knows]
      split <;> simp_all
  | _ => trivial

/-- What the members of a record are read as, by their names; each has to be in a list. -/
def ReadEach (R : String → Input → Json → Prop) (depth : Nat) : Members → Prop
  | .none => True
  | .more name presence shape rest => presence ≠ .optional ∧
      Reads (fun s => shape.readAt depth s) (R name) ∧
      (∀ s, shape.readAt depth (skipSpace s) = shape.readAt depth s) ∧ rest.ReadEach R depth

theorem ReadEach.reads {R : String → Input → Json → Prop} {depth : Nat} {members : Members}
    (h : members.ReadEach R depth) {key : String} {shape : Shape}
    (hshape : members.shape? key = some shape) :
    Reads (fun s => shape.readAt depth s) (R key) := by
  induction members using Members.rec (motive_1 := fun _ => True) with
  | none => cases hshape
  | more name presence shape rest _ ih =>
      obtain ⟨-, hreads, -, hrest⟩ := h
      rw [shape?] at hshape
      split at hshape
      · rename_i heq
        cases hshape
        rwa [heq]
      · exact ih hrest hshape
  | _ => trivial

end Members

/-- What a record keeps of a member: if it has one of these names it is kept, and stands for the
first time, else it is passed over. -/
def Keeps (names : List String) (R : String → Input → Json → Prop) (read : List (String × Json))
    (key : String) (v : Input) (next : List (String × Json)) : Prop :=
  if key ∈ names then read.lookup key = none ∧ ∃ json, R key v json ∧ next = (key, json) :: read
  else IsPart .value v ∧ next = read

theorem keeps_of_mem {names : List String} {key : String} (h : key ∈ names)
    (R : String → Input → Json → Prop) {read : List (String × Json)}
    (hread : read.lookup key = none) : Keeps names R read key
      = fun v next => ∃ json, R key v json ∧ next = (key, json) :: read := by
  funext v next
  simp [Keeps, h, hread]

theorem keeps_of_not_mem {names : List String} {key : String} (h : key ∉ names)
    (R : String → Input → Json → Prop) (read : List (String × Json)) :
    Keeps names R read key = fun v next => IsPart .value v ∧ next = read := by
  funext v next
  simp [Keeps, h]

theorem Members.readsMembers_reading {R : String → Input → Json → Prop} {depth : Nat}
    {members : Members} (h : members.ReadEach R depth) :
    ReadsMembers (members.reading depth) (Keeps members.names R) := by
  intro read key
  cases hshape : members.shape? key with
  | none =>
      have hkey : key ∉ members.names := by
        rw [← members.knows_iff, Members.knows, hshape]
        decide
      rw [keeps_of_not_mem hkey]
      exact .inl ⟨_, reading_of_unknown hshape depth read, reads_skipValue read⟩
  | some shape =>
      have hkey : key ∈ members.names := by
        rw [← members.knows_iff, Members.knows, hshape]
        rfl
      cases hread : read.lookup key with
      | none =>
          rw [keeps_of_mem hkey R hread]
          exact .inl ⟨_, reading_of_known hshape depth hread,
            (h.reads hshape).map fun json => (key, json) :: read⟩
      | some json =>
          refine .inr ⟨⟨.repeatedMember key, ?_⟩, fun v next hkeeps => ?_⟩
          · rw [reading, reader?_eq, hshape]
            simp [hread]
          · rw [Keeps, if_pos hkey, hread] at hkeeps
            cases hkeeps.1

/-- The members that a value gives to a record with these names: those of an object, or the items of
a list, one for each name. -/
inductive GivesMembers (names : List String) : Input → List (String × Input) → Prop
  | object {v : Input} {given : List (String × Input)} : IsObjectOf given v →
      GivesMembers names v given
  | list {v : Input} {items : List Input} : IsListOf items v → items.length = names.length →
      GivesMembers names v (names.zip items)

section
variable {R : String → Input → Json → Prop} {depth : Nat} {names : List String}

/-- The items of a list are taken one for each member. -/
theorem Members.readList_append {members : Members} (h : members.ReadEach R depth)
    (hnames : members.names ⊆ names) {n : Nat} {items : List Input} {s : Input}
    (hs : HoldsItems (n == 0) items s) (hlength : items.length = members.names.length)
    {read last : List (String × Json)}
    (hfolds : Folds (Keeps names R) read (members.names.zip items) last) (expected : String)
    (rest : Input) :
    members.readList depth expected read n (s ++ rest) = .ok (.object last.reverse, rest) := by
  induction members using Members.rec (motive_1 := fun _ => True) generalizing n items s read with
  | none =>
      obtain rfl := List.length_eq_zero_iff.mp hlength
      obtain ⟨_, hblanks⟩ | _ := hs
      cases hfolds
      rw [List.append_assoc, List.singleton_append, readList, Read.endList_append hblanks]
      rfl
  | more name presence shape others _ ih =>
      obtain ⟨-, hreads, hblind, hothers⟩ := h
      obtain ⟨hname, hnames⟩ := List.cons_subset.mp hnames
      obtain _ | ⟨_, hblanks, hbefore, hv, hs⟩ := hs
      · cases hlength
      · rename_i blanks before v s items
        obtain _ | ⟨hfirst, hlater⟩ := hfolds
        rw [Keeps, if_pos hname] at hfirst
        obtain ⟨-, json, hjson, rfl⟩ := hfirst
        have hvalue := hreads.takes hjson (s ++ rest) (hs.isPart.endsNumeral (.inl rfl) rest)
        simp only [List.append_assoc]
        rw [readList, Read.nextItem_append hblanks hbefore hv]
        simp only [hblind, hvalue, within]
        exact ih hothers hnames (n := n + 1) hs (Nat.succ.inj hlength) hlater
  | _ => trivial

/-- The first of the members of a record takes the next item of a list. -/
theorem Members.step_readList {name : String} {presence : Presence} {shape : Shape}
    {others : Members} (hpresence : presence ≠ .optional) {n : Nat} {expected : String}
    {read : List (String × Json)} {s rest : Input} {json : Json}
    (h : (Members.more name presence shape others).readList depth expected read n s
      = .ok (json, rest)) :
    ∃ start value left, Read.nextItem (n == 0) s = .ok (some start) ∧
      shape.readAt depth start = .ok (value, left) ∧
      others.readList depth expected ((name, value) :: read) (n + 1) left = .ok (json, rest) := by
  rw [readList] at h
  cases hitem : Read.nextItem (n == 0) s with
  | error cause => simp [hitem, fault] at h
  | ok found =>
      cases found with
      | none => simp [hitem, hpresence, fault] at h
      | some start =>
          simp only [hitem] at h
          cases hvalue : shape.readAt depth start with
          | error f => simp [hvalue, within] at h
          | ok result =>
              simp only [hvalue, within] at h
              exact ⟨start, _, _, rfl, hvalue, h⟩

theorem Members.exists_of_readList {members : Members} (h : members.ReadEach R depth)
    (hnames : members.names ⊆ names) (hnodup : members.names.Nodup) {n : Nat} {expected : String}
    {read : List (String × Json)} (hnew : ∀ name ∈ members.names, read.lookup name = .none)
    {s rest : Input} {json : Json}
    (hread : members.readList depth expected read n s = .ok (json, rest)) :
    ∃ items w last, HoldsItems (n == 0) items w ∧ items.length = members.names.length ∧
      Folds (Keeps names R) read (members.names.zip items) last ∧ json = .object last.reverse ∧
      s = w ++ rest := by
  induction members using Members.rec (motive_1 := fun _ => True) generalizing n read s with
  | none =>
      rw [readList] at hread
      obtain ⟨after, hend, heq⟩ := here_map_eq_ok_iff.mp hread
      cases heq
      obtain ⟨blanks, hblanks, rfl⟩ := Read.exists_of_endList hend
      exact ⟨[], _, read, .nil _ hblanks, rfl, .nil read, rfl, by simp⟩
  | more name presence shape others _ ih =>
      obtain ⟨hpresence, hreads, -, hothers⟩ := h
      obtain ⟨hname, hnames⟩ := List.cons_subset.mp hnames
      obtain ⟨hfresh, hnodup⟩ := List.nodup_cons.mp hnodup
      obtain ⟨hnone, hnew⟩ := List.forall_mem_cons.mp hnew
      obtain ⟨start, value, left, hitem, hvalue, hstep⟩ := step_readList hpresence hread
      obtain ⟨blanks, before, hblanks, hbefore, rfl⟩ := Read.exists_of_nextItem hitem
      obtain ⟨v, hv, rfl⟩ := hreads.only hvalue
      have hlater : ∀ other ∈ others.names,
          ((name, value) :: read).lookup other = Option.none := fun other hother => by
        rw [lookup_cons_eq_ite, if_neg (ne_of_mem_of_not_mem hother hfresh)]
        exact hnew other hother
      obtain ⟨items, w, last, hw, hlength, hfolds, rfl, rfl⟩ :=
        ih hothers hnames hnodup hlater hstep
      refine ⟨v :: items, _, last,
        .cons (n == 0) hblanks hbefore (hreads.isPart hv) hw,
        congrArg Nat.succ hlength, .cons ?_ hfolds, rfl, by simp⟩
      rw [Keeps, if_pos hname]
      exact ⟨hnone, value, hv, rfl⟩
  | _ => trivial

end

/-! ## What a record keeps -/

/-- Whether none of these names comes twice among the members given. -/
def GivesOnce (names : List String) (given : List (String × Input)) : Prop :=
  ((given.map (·.1)).filter (· ∈ names)).Nodup

section
variable {R : String → Input → Json → Prop} {names : List String}
variable {read last : List (String × Json)} {given : List (String × Input)} {name : String}

/-- What was kept stays, and does not come again. -/
theorem Folds.lookup_kept (h : Folds (Keeps names R) read given last) (hname : name ∈ names)
    {json : Json} (hread : read.lookup name = some json) :
    given.lookup name = none ∧ last.lookup name = some json := by
  induction h with
  | nil read => exact ⟨rfl, hread⟩
  | @cons read next last key v given hfirst _ ih =>
      rw [Keeps] at hfirst
      split at hfirst
      · obtain ⟨hnew, value, -, rfl⟩ := hfirst
        have hne : name ≠ key := by
          rintro rfl
          rw [hnew] at hread
          cases hread
        rw [lookup_cons_eq_ite, if_neg hne]
        refine ih ?_
        rw [lookup_cons_eq_ite, if_neg hne]
        exact hread
      · rename_i hkey
        obtain ⟨-, rfl⟩ := hfirst
        rw [lookup_cons_eq_ite, if_neg (ne_of_mem_of_not_mem hname hkey)]
        exact ih hread

/-- A member that is not given is not kept. -/
theorem Folds.lookup_absent (h : Folds (Keeps names R) read given last)
    (habsent : given.lookup name = none) : last.lookup name = read.lookup name := by
  induction h with
  | nil read => rfl
  | @cons read next last key v given hfirst _ ih =>
      rw [lookup_cons_eq_ite] at habsent
      split at habsent
      · cases habsent
      · rename_i hne
        rw [ih habsent]
        rw [Keeps] at hfirst
        split at hfirst
        · obtain ⟨-, value, -, rfl⟩ := hfirst
          rw [lookup_cons_eq_ite, if_neg hne]
        · rw [hfirst.2]

/-- A member that is given is kept as what it is made of. -/
theorem Folds.lookup_given (h : Folds (Keeps names R) read given last) (hname : name ∈ names)
    {v : Input} (hgiven : given.lookup name = some v) :
    ∃ json, R name v json ∧ last.lookup name = some json := by
  induction h with
  | nil read => cases hgiven
  | @cons read next last key w given hfirst hlater ih =>
      rw [lookup_cons_eq_ite] at hgiven
      split at hgiven
      · rename_i heq
        subst heq
        cases hgiven
        rw [Keeps, if_pos hname] at hfirst
        obtain ⟨-, json, hjson, rfl⟩ := hfirst
        refine ⟨json, hjson, (hlater.lookup_kept hname ?_).2⟩
        rw [lookup_cons_eq_ite, if_pos rfl]
      · exact ih hgiven

theorem Folds.givesOnce (h : Folds (Keeps names R) read given last) : GivesOnce names given := by
  induction h with
  | nil read => exact List.nodup_nil
  | @cons read next last key v given hfirst hlater ih =>
      rw [GivesOnce, List.map_cons]
      rw [Keeps] at hfirst
      split at hfirst
      · rename_i hkey
        obtain ⟨-, json, -, rfl⟩ := hfirst
        rw [List.filter_cons_of_pos (by simpa using hkey)]
        refine List.nodup_cons.mpr ⟨fun hmem => ?_, ih⟩
        have habsent := (hlater.lookup_kept hkey (by rw [lookup_cons_eq_ite, if_pos rfl])).1
        obtain ⟨member, hmember, rfl⟩ := List.mem_map.mp (List.mem_filter.mp hmem).1
        simpa using List.lookup_eq_none_iff.mp habsent member hmember
      · rename_i hkey
        rw [List.filter_cons_of_neg (by simpa using hkey)]
        exact ih

/-- Members that come once each can be kept if they are what they should be. -/
theorem exists_folds (honce : GivesOnce names given)
    (hvalues : ∀ member ∈ given, IsPart .value member.2)
    (hmembers : ∀ name ∈ names, ∀ v, given.lookup name = some v →
      read.lookup name = none ∧ ∃ json, R name v json) :
    ∃ last, Folds (Keeps names R) read given last := by
  induction given generalizing read with
  | nil => exact ⟨read, .nil read⟩
  | cons member given ih =>
      obtain ⟨key, v⟩ := member
      obtain ⟨hv, hvalues⟩ := List.forall_mem_cons.mp hvalues
      rw [GivesOnce, List.map_cons] at honce
      by_cases hkey : key ∈ names
      · rw [List.filter_cons_of_pos (by simpa using hkey)] at honce
        obtain ⟨hfresh, honce⟩ := List.nodup_cons.mp honce
        obtain ⟨hnew, json, hjson⟩ := hmembers key hkey v (by rw [lookup_cons_eq_ite, if_pos rfl])
        have hothers : ∀ other ∈ names, ∀ w, given.lookup other = some w →
            ((key, json) :: read).lookup other = none ∧ ∃ json, R other w json := by
          intro other hother w hw
          have hne : other ≠ key := by
            rintro rfl
            exact hfresh (List.mem_filter.mpr
              ⟨List.mem_map.mpr ⟨(other, w), mem_of_lookup hw, rfl⟩, by simpa⟩)
          rw [lookup_cons_eq_ite, if_neg hne]
          exact hmembers other hother w (by rwa [lookup_cons_eq_ite, if_neg hne])
        obtain ⟨last, hlast⟩ := ih honce hvalues hothers
        refine ⟨last, .cons ?_ hlast⟩
        rw [Keeps, if_pos hkey]
        exact ⟨hnew, json, hjson, rfl⟩
      · rw [List.filter_cons_of_neg (by simpa using hkey)] at honce
        have hothers : ∀ other ∈ names, ∀ w, given.lookup other = some w →
            read.lookup other = none ∧ ∃ json, R other w json := fun other hother w hw =>
          hmembers other hother w (by
            rwa [lookup_cons_eq_ite, if_neg (ne_of_mem_of_not_mem hother hkey)])
        obtain ⟨last, hlast⟩ := ih honce hvalues hothers
        refine ⟨last, .cons ?_ hlast⟩
        rw [Keeps, if_neg hkey]
        exact ⟨hv, rfl⟩

theorem Folds.keys_nodup (h : Folds (Keeps names R) read given last)
    (hread : (read.map (·.1)).Nodup) : (last.map (·.1)).Nodup := by
  induction h with
  | nil read => exact hread
  | @cons read next last key v given hfirst _ ih =>
      rw [Keeps] at hfirst
      split at hfirst
      · obtain ⟨hnew, json, -, rfl⟩ := hfirst
        refine ih (List.nodup_cons.mpr ⟨fun hmem => ?_, hread⟩)
        obtain ⟨entry, hentry, rfl⟩ := List.mem_map.mp hmem
        simpa using List.lookup_eq_none_iff.mp hnew entry hentry
      · exact ih (hfirst.2 ▸ hread)

/-- What was kept of a member, by what was given of it. -/
theorem Folds.rel_lookup (h : Folds (Keeps names R) [] given last) (hname : name ∈ names) :
    Option.Rel (R name) (given.lookup name) (last.reverse.lookup name) := by
  rw [lookup_reverse_of_nodup (h.keys_nodup List.nodup_nil)]
  cases hgiven : given.lookup name with
  | none =>
      rw [h.lookup_absent hgiven]
      exact .none
  | some v =>
      obtain ⟨json, hjson, hlast⟩ := h.lookup_given hname hgiven
      rw [hlast]
      exact .some hjson

end

/-- In a list each of the names is given. -/
theorem lookup_zip_ne_none {names : List String} {items : List Input}
    (hlength : items.length = names.length) {name : String} (hname : name ∈ names) :
    (names.zip items).lookup name ≠ none := by
  intro hnone
  rw [List.lookup_eq_none_iff] at hnone
  obtain ⟨i, hi, rfl⟩ := List.getElem_of_mem hname
  have hmem : (names[i], items[i]) ∈ names.zip items := by
    rw [← List.getElem_zip (h := by simp; omega)]
    exact List.getElem_mem _
  simpa using hnone _ hmem

/-- Whether a record cannot do without a member of this name. -/
def Members.requires : Members → String → Prop
  | .none, _ => False
  | .more name presence _ rest, key => (key = name ∧ presence = .required) ∨ rest.requires key

theorem Members.missing?_eq_none_iff {members : Members} {last : List (String × Json)} :
    members.missing? last = .none ↔ ∀ key, members.requires key → last.lookup key ≠ .none := by
  induction members using Members.rec (motive_1 := fun _ => True) with
  | none => simp [missing?, requires]
  | more name presence shape rest _ ih =>
      rw [missing?]
      split
      · rename_i hmissing
        simp only [Bool.and_eq_true, beq_iff_eq, Option.isNone_iff_eq_none] at hmissing
        simp only [reduceCtorEq, false_iff]
        exact fun h => h name (.inl ⟨rfl, hmissing.1⟩) hmissing.2
      · rename_i hthere
        rw [ih]
        simp only [Bool.and_eq_true, beq_iff_eq, Option.isNone_iff_eq_none, not_and] at hthere
        constructor
        · rintro h key (⟨rfl, hpresence⟩ | hrest)
          · exact hthere hpresence
          · exact h key hrest
        · exact fun h key hrest => h key (.inr hrest)
  | _ => trivial

theorem Members.mem_names_of_requires {members : Members} {key : String}
    (h : members.requires key) : key ∈ members.names := by
  induction members using Members.rec (motive_1 := fun _ => True) with
  | none => cases h
  | more name presence shape rest _ ih =>
      rcases h with ⟨rfl, -⟩ | hrest
      · exact List.mem_cons_self
      · exact List.mem_cons_of_mem name (ih hrest)
  | _ => trivial

/-- A record that takes its members from a list misses none of them. -/
theorem Folds.missing?_zip {R : String → Input → Json → Prop} {members : Members}
    {items : List Input} {last : List (String × Json)}
    (h : Folds (Keeps members.names R) [] (members.names.zip items) last)
    (hlength : items.length = members.names.length) : members.missing? last = none := by
  refine Members.missing?_eq_none_iff.mpr fun name hrequires => ?_
  have hname := Members.mem_names_of_requires hrequires
  obtain ⟨v, hv⟩ := Option.ne_none_iff_exists'.mp (lookup_zip_ne_none hlength hname)
  obtain ⟨value, -, hlast⟩ := h.lookup_given hname hv
  rw [hlast]
  exact Option.some_ne_none value

/-! ## Records as a whole -/

/-- What a record of these members is made of a value, when the members are made of theirs by `R`:
no member that is required is missing. -/
def IsRecord (members : Members) (R : String → Input → Json → Prop) (v : Input) (json : Json) :
    Prop :=
  ∃ given last, GivesMembers members.names v given ∧ Folds (Keeps members.names R) [] given last ∧
    members.missing? last = none ∧ json = .object last.reverse

theorem GivesMembers.isPart {names : List String} {v : Input} {given : List (String × Input)}
    (h : GivesMembers names v given) : IsPart .value v := by
  cases h with
  | object h => exact h.isPart
  | list h _ => exact h.isPart

theorem readAt_record_eq (title : String) (members : Members) (depth : Nat) (s : Input) :
    (Shape.record title members).readAt (depth + 1) s = match skipSpace s with
      | [] => fault .endInValue
      | some '{' :: s =>
          match Read.members (members.reading depth) [] s with
          | .error f => .error f
          | .ok (read, s) =>
              match members.missing? read with
              | some name => fault (.missingMember name)
              | none => .ok (.object read.reverse, s)
      | some '[' :: s =>
          members.readList depth ("struct " ++ title ++ " with " ++ elementsText members.count)
            [] 0 s
      | s => Read.mismatch ("struct " ++ title) s := by
  rw [Shape.readAt.eq_def]
  simp only
  generalize skipSpace s = t
  split
  case h_1 => rfl
  case h_2 hdepth | h_3 hdepth => cases hdepth
  case h_4 hdepth | h_5 hdepth =>
    cases hdepth
    rfl
  case h_6 hnil _ _ hbrace hbracket =>
    split
    · exact absurd rfl hnil
    · exact absurd rfl (hbrace _ _ rfl)
    · exact absurd rfl (hbracket _ _ rfl)
    · rfl

theorem readAt_record_skipSpace (title : String) (members : Members) (depth : Nat) (s : Input) :
    (Shape.record title members).readAt (depth + 1) (skipSpace s)
      = (Shape.record title members).readAt (depth + 1) s := by
  simp only [readAt_record_eq, skipSpace_skipSpace]

/-- A record is read from what gives its members, and from nothing else. -/
theorem reads_record {R : String → Input → Json → Prop} {depth : Nat} {members : Members}
    (h : members.ReadEach R depth) (hnames : members.names.Nodup) (title : String) :
    Reads (fun s => (Shape.record title members).readAt (depth + 1) s) (IsRecord members R) where
  takes := by
    rintro v json ⟨given, last, hgiven, hfolds, hmissing, rfl⟩ rest -
    cases hgiven with
    | object hobject =>
        obtain ⟨inside, hinside, hs⟩ := hobject.exists_inside rest
        have hread : Read.members (members.reading depth) [] (inside ++ rest) = .ok (last, rest) :=
          (Read.members_eq_ok_iff (Members.readsMembers_reading h)).mpr
            ⟨given, inside, hinside, hfolds, rfl⟩
        simp only [readAt_record_eq, hs, hread, hmissing]
    | list hlist hlength =>
        obtain ⟨inside, hinside, hs⟩ := hlist.exists_inside rest
        simp only [readAt_record_eq, hs]
        exact Members.readList_append h (List.Subset.refl _) (n := 0) hinside hlength hfolds _ rest
  only := by
    intro s json rest hread
    obtain ⟨before, hbefore, hs⟩ := exists_blanks s
    simp only [readAt_record_eq] at hread
    split at hread
    · cases hread
    · rename_i hbrace
      split at hread
      · cases hread
      · rename_i last after hmembers
        obtain ⟨given, inside, hinside, hfolds, rfl⟩ :=
          (Read.members_eq_ok_iff (Members.readsMembers_reading h)).mp hmembers
        split at hread
        · cases hread
        · rename_i hmissing
          cases hread
          rw [hbrace] at hs
          exact ⟨_, ⟨given, last, .object ⟨before, inside, hbefore, hinside, rfl⟩, hfolds,
            hmissing, rfl⟩, by rw [hs]; simp⟩
    · rename_i hbracket
      obtain ⟨items, inside, last, hinside, hlength, hfolds, rfl, rfl⟩ :=
        Members.exists_of_readList h (List.Subset.refl _) hnames (fun _ _ => rfl) hread
      rw [hbracket] at hs
      exact ⟨_, ⟨_, last, .list ⟨before, inside, hbefore, hinside, rfl⟩ hlength, hfolds,
        hfolds.missing?_zip hlength, rfl⟩, by rw [hs]; simp⟩
    · exact absurd hread (Read.mismatch_ne_ok _ _ _)
  isPart := by
    rintro v json ⟨given, last, hgiven, -⟩
    exact hgiven.isPart

/-- What gives members is not blank, since it opens a container. -/
theorem GivesMembers.not_blank {names : List String} {v after : Input}
    {given : List (String × Input)} (h : GivesMembers names v given) {body : String}
    (hs : Input.ofString body = v ++ after) : Text.blank body = false := by
  obtain ⟨c, hc, hmem⟩ : ∃ c, Text.isBlank c = false ∧ some c ∈ Input.ofString body := by
    cases h with
    | object h =>
        obtain ⟨before, inside, -, -, rfl⟩ := h
        exact ⟨'{', by decide, by simp [hs]⟩
    | list h _ =>
        obtain ⟨before, inside, -, -, rfl⟩ := h
        exact ⟨'[', by decide, by simp [hs]⟩
  obtain ⟨d, hd, heq⟩ := List.mem_map.mp hmem
  cases heq
  refine Bool.eq_false_iff.mpr fun hblank => ?_
  rw [List.all_eq_true.mp hblank c hd] at hc
  cases hc

theorem GivesMembers.values {names : List String} {v : Input} {given : List (String × Input)}
    (h : GivesMembers names v given) : ∀ member ∈ given, IsPart .value member.2 := by
  cases h with
  | object h =>
      obtain ⟨before, inside, -, hinside, -⟩ := h
      exact hinside.values
  | list h _ =>
      obtain ⟨before, inside, -, hinside, -⟩ := h
      exact fun member hmember => hinside.values _ (List.of_mem_zip hmember).2

section
variable {members : Members} {R : String → Input → Json → Prop} {v : Input}

/-- A record comes of members that are given once each and are what they should be. -/
theorem IsRecord.exists_given {json : Json} (h : IsRecord members R v json) :
    ∃ given, GivesMembers members.names v given ∧ GivesOnce members.names given ∧
      (∀ name, members.requires name → given.lookup name ≠ none) ∧
      ∀ name ∈ members.names, Option.Rel (R name) (given.lookup name) (json.member? name) := by
  obtain ⟨given, last, hgiven, hfolds, hmissing, rfl⟩ := h
  refine ⟨given, hgiven, hfolds.givesOnce, fun name hrequires hnone => ?_,
    fun name hname => hfolds.rel_lookup hname⟩
  exact Members.missing?_eq_none_iff.mp hmissing name hrequires (hfolds.lookup_absent hnone)

/-- Members that are given once each and are what they should be make a record. -/
theorem exists_isRecord {given : List (String × Input)}
    (hgiven : GivesMembers members.names v given) (honce : GivesOnce members.names given)
    (hrequired : ∀ name, members.requires name → given.lookup name ≠ none)
    (hmembers : ∀ name ∈ members.names, ∀ w, given.lookup name = some w →
      ∃ json, R name w json) :
    ∃ json, IsRecord members R v json ∧
      ∀ name ∈ members.names, Option.Rel (R name) (given.lookup name) (json.member? name) := by
  obtain ⟨last, hfolds⟩ : ∃ last, Folds (Keeps members.names R) [] given last :=
    exists_folds honce hgiven.values fun name hname w hw => ⟨rfl, hmembers name hname w hw⟩
  refine ⟨.object last.reverse, ⟨given, last, hgiven, hfolds, ?_, rfl⟩,
    fun name hname => hfolds.rel_lookup hname⟩
  refine Members.missing?_eq_none_iff.mpr fun name hrequires hnone => ?_
  obtain ⟨w, hw⟩ := Option.ne_none_iff_exists'.mp (hrequired name hrequires)
  obtain ⟨json, -, hlast⟩ :=
    hfolds.lookup_given (Members.mem_names_of_requires hrequires) hw
  rw [hlast] at hnone
  cases hnone

end

/-! ## Records of one member -/

theorem exists_of_rel_some {α β : Type} {r : α → β → Prop} {a : α} {found : Option β}
    (h : Option.Rel r (some a) found) : ∃ b, r a b ∧ found = some b := by
  cases h with
  | some h => exact ⟨_, h, rfl⟩

section
variable {name : String} {shape : Shape} {R : String → Input → Json → Prop} {v w : Input}
variable {given : List (String × Input)}

theorem IsRecord.exists_member {json : Json}
    (h : IsRecord (.ofList [(name, .required, shape)]) R v json) :
    ∃ given w value, GivesMembers [name] v given ∧ GivesOnce [name] given ∧
      given.lookup name = some w ∧ R name w value ∧ json.member? name = some value := by
  obtain ⟨given, hgiven, honce, hrequired, hrel⟩ := h.exists_given
  obtain ⟨w, hw⟩ := Option.ne_none_iff_exists'.mp (hrequired name (.inl ⟨rfl, rfl⟩))
  have hread := hrel name List.mem_cons_self
  rw [hw] at hread
  obtain ⟨value, hvalue, hmember⟩ := exists_of_rel_some hread
  exact ⟨given, w, value, hgiven, honce, hw, hvalue, hmember⟩

variable (shape) in
theorem exists_isRecord_of_member (hgiven : GivesMembers [name] v given)
    (honce : GivesOnce [name] given) (hw : given.lookup name = some w) {value : Json}
    (hvalue : R name w value) : ∃ json value,
      IsRecord (.ofList [(name, .required, shape)]) R v json ∧ R name w value ∧
        json.member? name = some value := by
  obtain ⟨json, hrecord, hrel⟩ : ∃ json, IsRecord (.ofList [(name, .required, shape)]) R v json ∧
      ∀ key ∈ [name], Option.Rel (R key) (given.lookup key) (json.member? key) := by
    refine exists_isRecord hgiven honce ?_ ?_
    · rintro key (⟨rfl, -⟩ | hnone)
      · rw [hw]
        nofun
      · cases hnone
    · intro key hkey u hu
      obtain rfl := List.mem_singleton.mp hkey
      rw [hw] at hu
      cases hu
      exact ⟨value, hvalue⟩
  have hread := hrel name List.mem_cons_self
  rw [hw] at hread
  obtain ⟨other, hother, hmember⟩ := exists_of_rel_some hread
  exact ⟨json, other, hrecord, hother, hmember⟩

end

/-! ## Words that a document may state -/

/-- Words that are the reason stated, if there is one, and else others. -/
theorem blank_stated_iff {States : String → Prop} {words others : String}
    (hstated : ∀ reason, States reason → words = reason)
    (hothers : (∀ reason, ¬ States reason) → words = others) :
    Text.blank words = true ↔ (∃ reason, States reason ∧ Text.blank reason = true) ∨
      (∀ reason, ¬ States reason) ∧ Text.blank others = true := by
  by_cases h : ∃ reason, States reason
  · obtain ⟨reason, hreason⟩ := h
    have hwords := hstated reason hreason
    constructor
    · exact fun hblank => .inl ⟨reason, hreason, hwords ▸ hblank⟩
    · rintro (⟨other, hother, hblank⟩ | ⟨hnone, -⟩)
      · rw [hstated other hother]
        exact hblank
      · exact absurd hreason (hnone reason)
  · have hnone := fun reason hreason => h ⟨reason, hreason⟩
    rw [hothers hnone]
    constructor
    · exact fun hblank => .inr ⟨hnone, hblank⟩
    · rintro (⟨reason, hreason, -⟩ | ⟨-, hblank⟩)
      · exact absurd hreason (hnone reason)
      · exact hblank

end Receipts.Json
