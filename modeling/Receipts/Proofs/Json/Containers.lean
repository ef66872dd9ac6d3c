import Receipts.Proofs.Json.Quoted
import Receipts.Proofs.Json.Turns

/-!
# Lists and objects that are written and read

The readers of containers go from one item or member to the next. If each member of a written
object is read as it should be, so is the object, whatever the reader makes of its members: it may
keep them, pass over them or count them. Of lists only those of texts are treated.
-/

namespace Receipts.Json

/-- A value in compact form, as input. -/
def written (json : Json) : Input := .ofChars json.compact

theorem written_text (s : String) (rest : Input) : written (.text s) ++ rest
    = some '"' :: (Input.ofChars (s.toList.flatMap escaped) ++ some '"' :: rest) := by
  simp [written, compact, quoted]

theorem written_list (items : List Json) (rest : Input) : written (.list items) ++ rest
    = some '[' :: (Input.ofChars (compactItems items) ++ some ']' :: rest) := by
  simp [written, compact]

theorem written_object (members : List (String × Json)) (rest : Input) :
    written (.object members) ++ rest
      = some '{' :: (Input.ofChars (compactMembers members) ++ some '}' :: rest) := by
  simp [written, compact]

theorem Input.ofString_render (json : Json) : Input.ofString json.render = written json := by
  rw [Input.ofString, render, String.toList_ofList]
  rfl

theorem isTextOf_written (s : String) : IsTextOf s (written (.text s)) :=
  ⟨[], _, .nil, says_escaped s, by simpa using written_text s []⟩

/-! ## Items and members one by one -/

/-- An item with the comma before it. -/
def laterItem (json : Json) : List Char := comma false ++ json.compact

/-- A member as it is written. -/
def memberChars (member : String × Json) : List Char :=
  quoted member.1.toList ++ ':' :: member.2.compact

/-- A member with the comma before it. -/
def laterMember (member : String × Json) : List Char := comma false ++ memberChars member

theorem compactItems_cons (json : Json) (items : List Json) :
    compactItems (json :: items) = json.compact ++ items.flatMap laterItem := by
  induction items generalizing json with
  | nil => simp [compactItems]
  | cons next items ih =>
      rw [compactItems, ih next]
      simp [laterItem, comma]

theorem compactMembers_cons (member : String × Json) (members : List (String × Json)) :
    compactMembers (member :: members) = memberChars member ++ members.flatMap laterMember := by
  induction members generalizing member with
  | nil => simp [compactMembers, memberChars]
  | cons next members ih =>
      rw [compactMembers, ih next]
      simp [laterMember, comma, memberChars]

theorem ofChars_memberChars (key : String) (json : Json) (rest : Input) :
    Input.ofChars (memberChars (key, json)) ++ rest
      = some '"' :: (Input.ofChars (key.toList.flatMap escaped)
        ++ some '"' :: some ':' :: (written json ++ rest)) := by
  simp [memberChars, quoted, written]

/-- Each part takes room, so a loop that has a turn for each symbol has one for each part and for
what closes them. -/
theorem exists_room {α : Type} (later : α → List Char) (hlater : ∀ a, later a ≠ []) (first : Input)
    (parts : List α) (closing : Text.Symbol) (rest : Input) :
    ∃ extra, (first ++ (Input.ofChars (parts.flatMap later) ++ closing :: rest)).length
      = parts.length + extra + 1 := by
  have hroom : parts.length ≤ (Input.ofChars (parts.flatMap later)).length := by
    induction parts with
    | nil => exact Nat.zero_le _
    | cons a parts ih =>
        have hpos := List.length_pos_iff.mpr (hlater a)
        simp only [Input.ofChars, List.length_map, List.flatMap_cons, List.length_append,
          List.length_cons] at ih ⊢
        omega
  refine ⟨first.length + (Input.ofChars (parts.flatMap later)).length - parts.length
    + rest.length, ?_⟩
  simp only [List.length_append, List.length_cons]
  omega

namespace Read

open Scan (skipSpace)

/-! ## Lists of texts -/

theorem nextItem_text (first : Bool) (s : String) (rest : Input) :
    nextItem first (Input.ofChars (comma first) ++ (written (.text s) ++ rest))
      = .ok (some (written (.text s) ++ rest)) := by
  have hnext := nextItem_append .nil .nil (isTextOf_written s).isPart first rest
  rw [written_text s rest, skipSpace_of_visible (by decide), ← written_text] at hnext
  exact hnext

variable {α : Type} {item : Input → Outcome α} {value : String → α}

theorem itemsFrom_end (item : Input → Outcome α) (fuel : Nat) (read : List α) (rest : Input) :
    itemsFrom item (fuel + 1) read (some ']' :: rest) = .ok (read.reverse, rest) := by
  rw [itemsFrom, nextItem, endList, skipSpace_of_visible (by decide)]
  rfl

theorem itemsFrom_text (hitem : ∀ s rest, item (written (.text s) ++ rest) = .ok (value s, rest))
    (fuel : Nat) (read : List α) (s : String) (rest : Input) :
    itemsFrom item (fuel + 1) read
        (Input.ofChars (comma read.isEmpty) ++ (written (.text s) ++ rest))
      = itemsFrom item fuel (value s :: read) rest := by
  rw [itemsFrom, nextItem_text]
  simp only [hitem, within]

theorem itemsFrom_later (hitem : ∀ s rest, item (written (.text s) ++ rest) = .ok (value s, rest))
    (texts : List String) (fuel : Nat) {read : List α} (hread : read.isEmpty = false)
    (rest : Input) :
    itemsFrom item (texts.length + fuel + 1) read
        (Input.ofChars ((texts.map Json.text).flatMap laterItem) ++ some ']' :: rest)
      = .ok (read.reverse ++ texts.map value, rest) := by
  -- one turn for each text, one for the closing bracket and `fuel` to spare
  induction texts generalizing read with
  | nil => simpa using itemsFrom_end item _ read rest
  | cons s texts ih =>
      have hstep := itemsFrom_text hitem (texts.length + fuel + 1) read s
        (Input.ofChars ((texts.map Json.text).flatMap laterItem) ++ some ']' :: rest)
      rw [hread] at hstep
      rw [List.map_cons, List.flatMap_cons, laterItem, Input.ofChars_append, Input.ofChars_append,
        List.append_assoc, List.append_assoc, List.length_cons, Nat.add_right_comm texts.length 1]
      rw [← written, hstep, ih rfl]
      simp

/-- A list of texts is read as what its items are read as. -/
theorem items_texts (hitem : ∀ s rest, item (written (.text s) ++ rest) = .ok (value s, rest))
    (texts : List String) (rest : Input) :
    items item (Input.ofChars (compactItems (texts.map .text)) ++ some ']' :: rest)
      = .ok (texts.map value, rest) := by
  cases texts with
  | nil => exact itemsFrom_end item _ [] rest
  | cons s texts =>
      obtain ⟨extra, hroom⟩ := exists_room laterItem (by simp [laterItem, comma])
        (written (.text s)) (texts.map .text) (some ']') rest
      rw [List.map_cons, compactItems_cons, Input.ofChars_append, List.append_assoc, ← written,
        items, hroom, List.length_map]
      refine (itemsFrom_text hitem _ [] s _).trans ?_
      rw [itemsFrom_later hitem texts extra rfl]
      rfl

/-! ## Members -/

/-- A reader of members takes written members one after another, from what was read before them to
what has been read after them. -/
inductive Takes {σ : Type} (member : σ → String → Except Cause (Input → Outcome σ)) :
    σ → List (String × Json) → σ → Prop
  | nil (read : σ) : Takes member read [] read
  | cons {read next last : σ} {key : String} {json : Json} {members : List (String × Json)}
      {value : Input → Outcome σ} : member read key = .ok value →
      (∀ rest, value (written json ++ rest) = .ok (next, rest)) →
      Takes member next members last → Takes member read ((key, json) :: members) last

variable {σ : Type} {member : σ → String → Except Cause (Input → Outcome σ)}

/-- A written member is taken in one turn. -/
theorem membersFrom_written {read next : σ} {key : String} {json : Json}
    {value : Input → Outcome σ} (hmember : member read key = .ok value)
    (hvalue : ∀ rest, value (written json ++ rest) = .ok (next, rest)) (fuel : Nat) (first : Bool)
    (rest : Input) :
    membersFrom member (fuel + 1) first read
        (Input.ofChars (comma first) ++ (Input.ofChars (memberChars (key, json)) ++ rest))
      = membersFrom member fuel false next rest := by
  rw [ofChars_memberChars]
  exact membersFrom_member .nil .nil (says_escaped key) .nil hmember (hvalue rest) fuel first

theorem membersFrom_later {read last : σ} {members : List (String × Json)}
    (h : Takes member read members last) (fuel : Nat) (rest : Input) :
    membersFrom member (members.length + fuel + 1) false read
        (Input.ofChars (members.flatMap laterMember) ++ some '}' :: rest) = .ok (last, rest) := by
  induction h with
  | nil read => exact membersFrom_blanks .nil _ false read rest
  | @cons read next last key json members value hmember hvalue _ ih =>
      rw [List.flatMap_cons, laterMember, Input.ofChars_append, Input.ofChars_append,
        List.append_assoc, List.append_assoc, List.length_cons, Nat.add_right_comm members.length 1,
        membersFrom_written hmember hvalue, ih]

/-- What a reader makes of the members it makes of the written object. -/
theorem members_written {read last : σ} {members : List (String × Json)}
    (h : Takes member read members last) (rest : Input) :
    Read.members member read (Input.ofChars (compactMembers members) ++ some '}' :: rest)
      = .ok (last, rest) := by
  cases h with
  | nil => exact membersFrom_blanks .nil _ true read rest
  | @cons _ next _ key json members value hmember hvalue hlater =>
      obtain ⟨extra, hroom⟩ := exists_room laterMember (by simp [laterMember, comma])
        (Input.ofChars (memberChars (key, json))) members (some '}') rest
      rw [compactMembers_cons, Input.ofChars_append, List.append_assoc, Read.members, hroom]
      exact (membersFrom_written hmember hvalue _ true _).trans (membersFrom_later hlater extra rest)

theorem takes_all {value : Input → Outcome Json} {members : List (String × Json)}
    (h : ∀ member ∈ members, ∀ rest, value (written member.2 ++ rest) = .ok (member.2, rest))
    (read : List (String × Json)) :
    Takes (fun read key => .ok fun s => (value s).map fun (json, s) => ((key, json) :: read, s))
      read members (members.reverse ++ read) := by
  induction members generalizing read with
  | nil => exact .nil read
  | cons first members ih =>
      rw [List.reverse_cons, List.append_assoc]
      refine .cons rfl (fun rest => ?_) (ih (fun m hm => h m (List.mem_cons_of_mem first hm)) _)
      rw [h first List.mem_cons_self]
      rfl

/-- Members that are all kept. -/
theorem membersOf_written {value : Input → Outcome Json} {members : List (String × Json)}
    (h : ∀ member ∈ members, ∀ rest, value (written member.2 ++ rest) = .ok (member.2, rest))
    (rest : Input) :
    membersOf value (Input.ofChars (compactMembers members) ++ some '}' :: rest)
      = .ok (members, rest) := by
  rw [membersOf, members_written (takes_all h [])]
  simp [Except.map]

end Read

end Receipts.Json
