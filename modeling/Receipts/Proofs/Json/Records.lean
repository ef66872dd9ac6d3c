import Receipts.Json.Format
import Receipts.Proofs.Json.Containers
import Receipts.Proofs.KeyOrder

/-!
# Records that are written and read

A record is read from an object with its members in any order. What a written object gives is the
object with just those members that the record knows, in the order in which they were written; the
others are passed over. So two records with some members in common can exchange these through a
document, although one knows members that the other does not.
-/

namespace Receipts.Json

/-! ## Values that are read back -/

/-- Whether a shape reads a value back as it is written, with so many containers left to open. -/
def Shape.ReadsBack (shape : Shape) (depth : Nat) (json : Json) : Prop :=
  ∀ rest, shape.readAt depth (written json ++ rest) = .ok (json, rest)

/-- Whether a value that is written is passed over as a whole. -/
def IsPassedOver (json : Json) : Prop :=
  ∀ rest, Read.skipValue (written json ++ rest) = .ok rest

theorem Shape.readsBack_text (expected : String) (depth : Nat) (s : String) :
    (Shape.text expected).ReadsBack depth (.text s) := by
  intro rest
  rw [Shape.readAt, written_text, Read.skipSpace_of_visible (by decide)]
  simp [Scan.text_escaped, here, Except.map]

theorem Shape.readsBack_option_text (expected : String) (depth : Nat) (s : String) :
    (Shape.option (.text expected)).ReadsBack depth (.text s) := by
  intro rest
  have htext := Shape.readsBack_text expected depth s rest
  rw [written_text] at htext ⊢
  rw [Shape.readAt, Read.skipSpace_of_visible (by decide)]
  exact htext

theorem Shape.readsBack_list_texts (expected : String) (depth : Nat) (texts : List String) :
    (Shape.list (.text expected)).ReadsBack (depth + 1) (.list (texts.map .text)) := by
  intro rest
  rw [Shape.readAt, written_list, Read.skipSpace_of_visible (by decide)]
  simp [Read.items_texts (Shape.readsBack_text expected depth), Except.map]

theorem Read.value_text (depth : Nat) (s : String) (rest : Input) :
    Read.value depth (written (.text s) ++ rest) = .ok (.text s, rest) := by
  rw [Read.value.eq_def, written_text, Read.skipSpace_of_visible (by decide)]
  simp [Scan.text_escaped, here, Except.map]

theorem isPassedOver_text (s : String) : IsPassedOver (.text s) := by
  intro rest
  rw [Read.skipValue, Read.skipFrom, written_text, Read.skipSpace_of_visible (by decide)]
  simp [Scan.skipText_escaped, Read.skipFrom]

/-! ## Members -/

namespace Members

/-- The shape of the member with this key. -/
def shape? : Members → String → Option Shape
  | .none, _ => .none
  | .more name _ shape rest, key => if key = name then some shape else rest.shape? key

/-- Whether a record has a member with this key. -/
def knows (members : Members) (key : String) : Bool := (members.shape? key).isSome

/-- Whether a written member can be read as part of a record: it is read back if the record knows
it, and else it is passed over. -/
def Allows (members : Members) (depth : Nat) (member : String × Json) : Prop :=
  match members.shape? member.1 with
  | some shape => shape.ReadsBack depth member.2
  | .none => IsPassedOver member.2

theorem reader?_eq (members : Members) (depth : Nat) (key : String) :
    members.reader? depth key = (members.shape? key).map fun shape s => shape.readAt depth s := by
  induction members using Members.rec (motive_1 := fun _ => True) with
  | none => rfl
  | more name presence shape rest _ ih =>
      rw [Members.reader?, Members.shape?]
      split
      · rfl
      · exact ih
  | _ => trivial

/-- What reading a record does with a member: it is kept if the record knows it, once, and else
passed over. -/
def reading (members : Members) (depth : Nat) (read : List (String × Json)) (key : String) :
    Except Cause (Input → Outcome (List (String × Json))) :=
  match members.reader? depth key with
  | some value =>
      if (read.lookup key).isSome then .error (.repeatedMember key)
      else .ok fun s => (value s).map fun (json, s) => ((key, json) :: read, s)
  | .none => .ok fun s => here ((Read.skipValue s).map fun s => (read, s))

theorem reading_of_unknown {members : Members} {key : String} (h : members.shape? key = .none)
    (depth : Nat) (read : List (String × Json)) : members.reading depth read key
      = .ok fun s => here ((Read.skipValue s).map fun s => (read, s)) := by
  rw [reading, reader?_eq, h]
  rfl

theorem reading_of_known {members : Members} {key : String} {shape : Shape}
    (h : members.shape? key = some shape) (depth : Nat) {read : List (String × Json)}
    (hnew : read.lookup key = .none) : members.reading depth read key
      = .ok fun s => (shape.readAt depth s).map fun (json, s) => ((key, json) :: read, s) := by
  rw [reading, reader?_eq, h]
  simp [hnew]

theorem takes_reading {members : Members} {depth : Nat} {given : List (String × Json)}
    (hkeys : (given.map (·.1)).Nodup) (hallows : ∀ member ∈ given, members.Allows depth member)
    (read : List (String × Json)) (hread : ∀ key ∈ given.map (·.1), read.lookup key = .none) :
    Read.Takes (members.reading depth) read given
      ((given.filter fun member => members.knows member.1).reverse ++ read) := by
  -- no key comes twice, so the key of the member in turn is not among those that were read
  induction given generalizing read with
  | nil => exact .nil read
  | cons member given ih =>
      obtain ⟨key, json⟩ := member
      obtain ⟨hnew, hkeys⟩ := List.nodup_cons.mp hkeys
      have hallow := hallows (key, json) List.mem_cons_self
      have hlater := fun m hm => hallows m (List.mem_cons_of_mem (key, json) hm)
      have hreads := fun k hk => hread k (List.mem_cons_of_mem key hk)
      rw [Allows] at hallow
      cases hshape : members.shape? key with
      | none =>
          rw [hshape] at hallow
          rw [List.filter_cons_of_neg (by simp [knows, hshape])]
          refine .cons (reading_of_unknown hshape depth read) (fun rest => ?_)
            (ih hkeys hlater read hreads)
          rw [hallow rest]
          rfl
      | some shape =>
          rw [hshape] at hallow
          rw [List.filter_cons_of_pos (by simp [knows, hshape]), List.reverse_cons,
            List.append_assoc]
          refine .cons (reading_of_known hshape depth (hread key List.mem_cons_self))
            (fun rest => ?_) (ih hkeys hlater ((key, json) :: read) fun k hk => ?_)
          · rw [hallow rest]
            rfl
          · have hne : (k == key) = false := beq_eq_false_iff_ne.mpr fun h => hnew (h ▸ hk)
            rw [List.lookup_cons, hne]
            exact hreads k hk

theorem missing?_congr {members : Members} {read other : List (String × Json)}
    (h : ∀ key, members.knows key = true → (read.lookup key).isNone = (other.lookup key).isNone) :
    members.missing? read = members.missing? other := by
  induction members using Members.rec (motive_1 := fun _ => True) with
  | none => rfl
  | more name presence shape rest _ ih =>
      rw [missing?, missing?, h name (by simp [knows, shape?]), ih]
      intro key hkey
      refine h key ?_
      rw [knows, shape?]
      split
      · rfl
      · exact hkey
  | _ => trivial

/-- Written members that can be read as part of a record, under some of these names in their
order. -/
structure Accepts (members : Members) (depth : Nat) (names : List String)
    (given : List (String × Json)) : Prop where
  keys : (given.map (·.1)).Sublist names
  allows : ∀ member ∈ given, members.Allows depth member

theorem Accepts.single {members : Members} {depth : Nat} (name : String) {shape : Shape}
    {json : Json} (hshape : members.shape? name = some shape) (hback : shape.ReadsBack depth json) :
    members.Accepts depth [name] [(name, json)] := by
  refine ⟨by simp, List.forall_mem_singleton.mpr ?_⟩
  rw [Allows, hshape]
  exact hback

theorem Accepts.append {members : Members} {depth : Nat} {names others : List String}
    {given later : List (String × Json)} (h : members.Accepts depth names given)
    (hlater : members.Accepts depth others later) :
    members.Accepts depth (names ++ others) (given ++ later) := by
  refine ⟨?_, List.forall_mem_append.mpr ⟨h.allows, hlater.allows⟩⟩
  rw [List.map_append]
  exact h.keys.append hlater.keys

end Members

theorem Shape.readAt_object (title : String) (members : Members) (depth : Nat) (s : Input) :
    (Shape.record title members).readAt (depth + 1) (some '{' :: s)
      = match Read.members (members.reading depth) [] s with
        | .error f => .error f
        | .ok (read, s) =>
            match members.missing? read with
            | some name => fault (.missingMember name)
            | .none => .ok (.object read.reverse, s) := by
  rw [Shape.readAt.eq_def]
  simp only
  rw [Read.skipSpace_of_visible (by decide)]
  rfl

/-- A written object is read as the record of the members that the record knows. -/
theorem Shape.readAt_record (title : String) {members : Members} {depth : Nat}
    {names : List String} {given : List (String × Json)} (h : members.Accepts depth names given)
    (hnames : names.Nodup) (hmissing : members.missing? given = none) (rest : Input) :
    (Shape.record title members).readAt (depth + 1) (written (.object given) ++ rest)
      = .ok (.object (given.filter fun member => members.knows member.1), rest) := by
  have htakes := Members.takes_reading (h.keys.nodup hnames) h.allows [] (by simp)
  rw [List.append_nil] at htakes
  have hkept : members.missing? (given.filter fun member => members.knows member.1).reverse
      = none := by
    rw [← hmissing]
    refine Members.missing?_congr fun key hkey => ?_
    rw [← lookup_filter members.knows given hkey, Bool.eq_iff_iff]
    simp [List.lookup_eq_none_iff]
  rw [written_object, Shape.readAt_object, Read.members_written htakes]
  simp only [hkept, List.reverse_reverse]

namespace Format

/-- Whether a format looks at no members but those of these names. -/
def LooksAt {α : Type} (format : Format α) (names : List String) : Prop :=
  ∀ json other : Json, (∀ name ∈ names, json.member? name = other.member? name) →
    format.ofJson json = format.ofJson other

/-- A written object is read as what the format makes of it, members that the format does not know
included. -/
theorem ofText_render {α : Type} (format : Format α) {title : String} {members : Members}
    (hshape : format.shape = .record title members) {names : List String}
    (hlooks : format.LooksAt names) (hknows : names.all members.knows = true)
    {others : List String} {given : List (String × Json)} (h : members.Accepts 126 others given)
    (hothers : others.Nodup) (hmissing : members.missing? given = none) :
    format.ofText (Json.object given).render = .ok (format.ofJson (.object given)) := by
  have hread := Shape.readAt_record title h hothers hmissing []
  rw [List.append_nil] at hread
  rw [ofText, parse, hshape, Shape.parse, Input.ofString_render, Read.maxDepth, hread]
  refine congrArg Except.ok (hlooks _ _ fun name hname => ?_)
  exact lookup_filter members.knows given (List.all_eq_true.mp hknows name hname)

end Format

/-! ## Records of texts -/

/-- A shape of texts, null aside. -/
def Shape.isTextual : Shape → Bool
  | .text _ => true
  | .option (.text _) => true
  | _ => false

/-- Whether a text can be read under a key: as a member, or passed over. -/
def Members.takesText (members : Members) (key : String) : Bool :=
  (members.shape? key).all Shape.isTextual

theorem Members.allows_text {members : Members} {key : String} (h : members.takesText key = true)
    (depth : Nat) (s : String) : members.Allows depth (key, .text s) := by
  rw [takesText] at h
  rw [Allows]
  split
  · rename_i shape hshape
    rw [hshape, Option.all_some] at h
    unfold Shape.isTextual at h
    split at h
    · exact Shape.readsBack_text _ depth s
    · exact Shape.readsBack_option_text _ depth s
    · cases h
  · exact isPassedOver_text s

/-- Members that are texts, under some of these names in their order. -/
structure AreTexts (names : List String) (given : List (String × Json)) : Prop where
  keys : (given.map (·.1)).Sublist names
  texts : ∀ member ∈ given, ∃ s, member.2 = .text s

namespace AreTexts

theorem single (name s : String) : AreTexts [name] [(name, .text s)] :=
  ⟨by simp, by simp⟩

theorem present (name : String) (value : Option String) :
    AreTexts [name] (Json.present name value) := by
  cases value with
  | none => exact ⟨by simp [Json.present], by simp [Json.present]⟩
  | some s => exact single name s

theorem append {names others : List String} {given later : List (String × Json)}
    (h : AreTexts names given) (hlater : AreTexts others later) :
    AreTexts (names ++ others) (given ++ later) := by
  refine ⟨?_, List.forall_mem_append.mpr ⟨h.texts, hlater.texts⟩⟩
  rw [List.map_append]
  exact h.keys.append hlater.keys

theorem accepts {members : Members} {names : List String} {given : List (String × Json)}
    (h : AreTexts names given) (hnames : names.all members.takesText = true) (depth : Nat) :
    members.Accepts depth names given := by
  refine ⟨h.keys, ?_⟩
  rintro ⟨key, json⟩ hm
  obtain ⟨s, rfl⟩ : ∃ s, json = .text s := h.texts _ hm
  have hkey : key ∈ names := h.keys.subset (List.mem_map_of_mem hm)
  exact Members.allows_text (List.all_eq_true.mp hnames key hkey) depth s

end AreTexts

/-! ## Texts among the members of an object -/

@[simp] theorem asText?_text (s : String) : (text s).asText? = some s := rfl

@[simp] theorem bind_asText?_map_text (value : Option String) :
    (value.map text).bind asText? = value := by
  cases value <;> rfl

@[simp] theorem member?_object (key : String) (given : List (String × Json)) :
    (object given).member? key = given.lookup key := rfl

@[simp] theorem textAt?_object (key : String) (given : List (String × Json)) :
    (object given).textAt? key = (given.lookup key).bind asText? := rfl

@[simp] theorem textAt_object (key : String) (given : List (String × Json)) :
    (object given).textAt key = ((given.lookup key).bind asText?).getD "" := rfl

@[simp] theorem lookup_present (name key : String) (value : Option String) :
    (present name value).lookup key = if key = name then value.map .text else none := by
  cases value with
  | none => simp [present]
  | some s => rw [present, lookup_cons_eq_ite, List.lookup_nil, Option.map_some]

end Receipts.Json
