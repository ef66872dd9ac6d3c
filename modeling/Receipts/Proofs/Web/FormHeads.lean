import Mathlib.Data.Bool.AllAny
import Mathlib.Data.List.Infix
import Mathlib.Data.List.TakeWhile
import Receipts.Proofs.Text.Utf8
import Receipts.Web.Multipart

/-!
# Heads of written parts

The head of a part is lines with a name and a value each, and an empty line ends it. A head is read
as its fields, whatever bytes come behind it. A plain text in quotes is the value of its attribute,
and a lower-case media type is read as itself.
-/

namespace Receipts.Web.Multipart

open Text (utf8)

/-! ## Patterns -/

section
variable {pattern w s : List UInt8} {c : UInt8}

theorem not_prefix_of_not_mem {b : UInt8} (hc : c ∉ b :: s) (rest : List UInt8) :
    ¬ c :: w <+: b :: (s ++ rest) := by
  rw [List.cons_prefix_cons]
  rintro ⟨rfl, -⟩
  exact hc List.mem_cons_self

theorem splitAt?_cons {b : UInt8} (h : ¬ pattern <+: b :: s) (before : List UInt8) :
    splitAt? pattern before (b :: s) = splitAt? pattern (b :: before) s := by
  rw [splitAt?, if_neg (by rwa [List.isPrefixOf_iff_prefix])]

/-- A pattern is found where it occurs first. -/
theorem splitAt?_append (hne : pattern ≠ []) (before : List UInt8) {rest : List UInt8}
    (h : ∀ b, b <:+ s → b ≠ [] → ¬ pattern <+: b ++ (pattern ++ rest)) :
    splitAt? pattern before (s ++ (pattern ++ rest)) = some (before.reverse ++ s, rest) := by
  induction s generalizing before with
  | nil =>
      obtain ⟨p, ps, rfl⟩ := List.exists_cons_of_ne_nil hne
      have hpattern : (p :: ps).isPrefixOf (p :: (ps ++ rest)) = true :=
        List.isPrefixOf_iff_prefix.mpr (List.prefix_append _ _)
      rw [List.nil_append, List.cons_append, splitAt?, if_pos hpattern]
      simp
  | cons b s ih =>
      have hother : ¬ pattern <+: b :: (s ++ (pattern ++ rest)) :=
        h (b :: s) List.suffix_rfl (List.cons_ne_nil b s)
      rw [List.cons_append, splitAt?_cons hother,
        ih _ fun t ht => h t (ht.trans (List.suffix_cons b s))]
      simp

/-- Bytes without the first byte of a pattern are passed over. -/
theorem splitAt?_skip (hc : c ∉ s) (before rest : List UInt8) :
    splitAt? (c :: w) before (s ++ rest) = splitAt? (c :: w) (s.reverse ++ before) rest := by
  induction s generalizing before with
  | nil => rfl
  | cons b s ih =>
      rw [List.cons_append, splitAt?_cons (not_prefix_of_not_mem hc rest),
        ih fun h => hc (List.mem_cons_of_mem b h)]
      simp

theorem splitAt?_append_of_not_mem (hc : c ∉ s) (before rest : List UInt8) :
    splitAt? (c :: w) before (s ++ (c :: w ++ rest)) = some (before.reverse ++ s, rest) := by
  refine splitAt?_append (List.cons_ne_nil c w) before fun b hb hne hstarts => ?_
  obtain ⟨d, t, rfl⟩ := List.exists_cons_of_ne_nil hne
  rw [List.cons_append, List.cons_prefix_cons] at hstarts
  rw [← hstarts.1] at hb
  exact hc (hb.subset List.mem_cons_self)

end

/-! ## Heads -/

/-- A field of a head, by its name. -/
abbrev Field := String × String

namespace Field

/-- The line of a field. -/
def line (field : Field) : List UInt8 := utf8 field.1 ++ 58 :: 32 :: utf8 field.2

/-- A field that can be read back: its name is a word, and its value is printable and has no spaces
at its ends. -/
structure IsReadable (field : Field) : Prop where
  name_ne_nil : utf8 field.1 ≠ []
  name_bytes : ∀ b ∈ utf8 field.1, isNameByte b = true
  value_bytes : ∀ b ∈ utf8 field.2, isValueByte b = true
  value_start : (utf8 field.2).dropWhile isSpace = utf8 field.2
  value_end : (utf8 field.2).reverse.dropWhile isSpace = (utf8 field.2).reverse

variable {field : Field}

theorem IsReadable.exists_line (h : field.IsReadable) :
    ∃ b line, isNameByte b = true ∧ field.line = b :: line := by
  obtain ⟨b, name, hname⟩ := List.exists_cons_of_ne_nil h.name_ne_nil
  refine ⟨b, name ++ 58 :: 32 :: utf8 field.2, h.name_bytes b ?_, ?_⟩
  · rw [hname]
    exact List.mem_cons_self
  · rw [line, hname, List.cons_append]

theorem IsReadable.not_mem_line (h : field.IsReadable) : (13 : UInt8) ∉ field.line := by
  intro hmem
  simp only [line, List.mem_append, List.mem_cons] at hmem
  rcases hmem with hname | hcolon | hspace | hvalue
  · exact absurd (h.name_bytes 13 hname) (by decide)
  · exact absurd hcolon (by decide)
  · exact absurd hspace (by decide)
  · exact absurd (h.value_bytes 13 hvalue) (by decide)

end Field

/-- The lines of fields. -/
def writtenFields (fields : List Field) : List UInt8 :=
  fields.flatMap fun field => field.line ++ lineEnd

theorem writtenFields_cons (field : Field) (fields : List Field) :
    writtenFields (field :: fields) = field.line ++ 13 :: 10 :: writtenFields fields := by
  simp [writtenFields, lineEnd]

/-- The headers that fields are read as. -/
def headersOf (fields : List Field) : Headers :=
  (fields.map fun field => ((utf8 field.1).map lowered, utf8 field.2)).reverse

theorem splitAt?_lineEnd {b : UInt8} (hb : b ≠ 13) (before s : List UInt8) :
    splitAt? (lineEnd ++ lineEnd) before (13 :: 10 :: b :: s) =
      splitAt? (lineEnd ++ lineEnd) (10 :: 13 :: before) (b :: s) := by
  have hfirst : ¬ lineEnd ++ lineEnd <+: 13 :: 10 :: b :: s := by
    simp [lineEnd, hb.symm]
  have hsecond : ¬ lineEnd ++ lineEnd <+: 10 :: b :: s := by
    simp [lineEnd]
  rw [splitAt?_cons hfirst, splitAt?_cons hsecond]

/-- A head ends at the first empty line. -/
theorem splitAt?_writtenFields {field : Field} {fields : List Field}
    (h : ∀ f ∈ field :: fields, f.IsReadable) (before rest : List UInt8) :
    ∃ head, head ++ lineEnd = writtenFields (field :: fields) ∧
      splitAt? (lineEnd ++ lineEnd) before (writtenFields (field :: fields) ++ (lineEnd ++ rest)) =
        some (before.reverse ++ head, rest) := by
  -- the bytes before the head are general, so that the lines already passed may stand among them
  induction fields generalizing field before with
  | nil =>
      have hline := (h field List.mem_cons_self).not_mem_line
      refine ⟨field.line, by simp [writtenFields], ?_⟩
      rw [writtenFields_cons, List.append_assoc]
      exact splitAt?_append_of_not_mem hline before rest
  | cons next fields ih =>
      have hline := (h field List.mem_cons_self).not_mem_line
      have hlater : ∀ f ∈ next :: fields, f.IsReadable := fun f hf =>
        h f (List.mem_cons_of_mem _ hf)
      obtain ⟨b, name, hb, hname⟩ := (hlater next List.mem_cons_self).exists_line
      obtain ⟨head, hhead, hsplit⟩ := ih hlater (10 :: 13 :: (field.line.reverse ++ before))
      refine ⟨field.line ++ 13 :: 10 :: head, ?_, ?_⟩
      · rw [writtenFields_cons, ← hhead]
        simp
      · have hnext : writtenFields (next :: fields) ++ (lineEnd ++ rest) =
            b :: (name ++ 13 :: 10 :: writtenFields fields ++ (lineEnd ++ rest)) := by
          rw [writtenFields_cons, hname]
          rfl
        have hother : b ≠ 13 := by
          rintro rfl
          exact absurd hb (by decide)
        rw [hnext] at hsplit
        rw [writtenFields_cons, List.append_assoc, List.cons_append, List.cons_append, hnext]
        refine (splitAt?_skip hline before _).trans ((splitAt?_lineEnd hother _ _).trans ?_)
        rw [hsplit]
        simp

theorem afterLineEnd?_cons {b : UInt8} (hb : isNameByte b = true) (s : List UInt8) :
    afterLineEnd? (b :: s) = none := by
  unfold afterLineEnd?
  split
  · rename_i h
    cases h
    exact absurd hb (by decide)
  · rename_i h
    cases h
    exact absurd hb (by decide)
  · rfl

/-- The space before a value is passed over, and no more than that. -/
theorem dropWhile_isSpace_value {value : List UInt8} (hstart : value.dropWhile isSpace = value)
    (rest : List UInt8) :
    (32 :: (value ++ 13 :: rest)).dropWhile isSpace = value ++ 13 :: rest := by
  rw [List.dropWhile_cons_of_pos rfl]
  cases value with
  | nil => rfl
  | cons v value =>
      have hv := List.dropWhile_eq_self_iff.mp hstart (Nat.succ_pos _)
      exact List.dropWhile_cons_of_neg hv

/-- The line of a field is read as the field, and reading goes on behind it. -/
theorem headers?_line {field : Field} (h : field.IsReadable) (fuel : Nat) (found : Headers)
    (rest : List UInt8) : headers? (fuel + 1) found (field.line ++ 13 :: 10 :: rest) =
      headers? fuel (((utf8 field.1).map lowered, utf8 field.2) :: found) rest := by
  obtain ⟨b, name, hname⟩ := List.exists_cons_of_ne_nil h.name_ne_nil
  have hcolon : isNameByte 58 = false := by decide
  have hend : isValueByte 13 = false := by decide
  have htake : (field.line ++ 13 :: 10 :: rest).takeWhile isNameByte = b :: name := by
    rw [Field.line, List.append_assoc, List.takeWhile_append_of_pos h.name_bytes, hname]
    simp [hcolon]
  have hdrop : (field.line ++ 13 :: 10 :: rest).dropWhile isNameByte =
      58 :: 32 :: (utf8 field.2 ++ 13 :: 10 :: rest) := by
    rw [Field.line, List.append_assoc, List.dropWhile_append_of_pos h.name_bytes]
    simp [hcolon]
  have hspaces : (32 :: (utf8 field.2 ++ 13 :: 10 :: rest)).dropWhile isSpace =
      utf8 field.2 ++ 13 :: 10 :: rest := dropWhile_isSpace_value h.value_start (10 :: rest)
  have hvalue : (utf8 field.2 ++ 13 :: 10 :: rest).takeWhile isValueByte = utf8 field.2 := by
    rw [List.takeWhile_append_of_pos h.value_bytes]
    simp [hend]
  have hrest : (utf8 field.2 ++ 13 :: 10 :: rest).dropWhile isValueByte = 13 :: 10 :: rest := by
    rw [List.dropWhile_append_of_pos h.value_bytes]
    simp [hend]
  have hnone : afterLineEnd? (field.line ++ 13 :: 10 :: rest) = none := by
    obtain ⟨c, line, hc, hline⟩ := h.exists_line
    rw [hline]
    exact afterLineEnd?_cons hc _
  rw [headers?, hnone]
  simp only [htake, hdrop, hspaces, hvalue, hrest, h.value_end, List.reverse_reverse]
  rw [hname]
  rfl

/-- A head is read as its fields. -/
theorem headers?_writtenFields {fields : List Field} (h : ∀ f ∈ fields, f.IsReadable) {fuel : Nat}
    (hfuel : fields.length < fuel) (found : Headers) (rest : List UInt8) :
    headers? fuel found (writtenFields fields ++ (lineEnd ++ rest)) =
      some (headersOf fields ++ found) := by
  induction fields generalizing fuel found with
  | nil =>
      obtain ⟨fuel, rfl⟩ := Nat.exists_eq_succ_of_ne_zero (Nat.ne_of_gt hfuel)
      rfl
  | cons field fields ih =>
      obtain ⟨fuel, rfl⟩ := Nat.exists_eq_succ_of_ne_zero (Nat.ne_zero_of_lt hfuel)
      rw [writtenFields_cons, List.append_assoc, List.cons_append, List.cons_append,
        headers?_line (h field List.mem_cons_self),
        ih (fun f hf => h f (List.mem_cons_of_mem _ hf)) (Nat.lt_of_succ_lt_succ hfuel)]
      simp [headersOf]

theorem isValueByte_iff {b : UInt8} :
    isValueByte b = true ↔ b.toNat = 9 ∨ 32 ≤ b.toNat ∧ b.toNat ≠ 127 := by
  simp [isValueByte, UInt8.le_iff_toNat_le, ← UInt8.toNat_inj]

theorem isQuotable_iff {c : Char} :
    MediaType.isQuotable c = true ↔ 31 < c.toNat ∧ c.toNat ≠ 127 := by
  rw [MediaType.isQuotable, Bool.and_eq_true, decide_eq_true_eq, bne_iff_ne]

/-- Printable characters are bytes of a value. -/
theorem isValueByte_of_mem_utf8 {s : String}
    (h : ∀ c ∈ s.toList, MediaType.isQuotable c = true) : ∀ b ∈ utf8 s, isValueByte b = true := by
  intro b hb
  refine isValueByte_iff.mpr (.inr ?_)
  by_cases hascii : b.toNat < 128
  · obtain ⟨c, hc, hnumber⟩ := Text.exists_mem_of_mem_utf8 hb hascii
    have hquotable := isQuotable_iff.mp (h c hc)
    omega
  · omega

/-! ## Attributes -/

section
variable {name : List UInt8} {c : UInt8} {w s : List UInt8}

theorem attributeFrom?_cons {b : UInt8} (h : ¬ name <+: b :: s) (fuel : Nat)
    (left : Option UInt8) :
    attributeFrom? name (fuel + 1) left (b :: s) = attributeFrom? name fuel (some b) s := by
  rw [attributeFrom?, if_neg (by rwa [List.isPrefixOf_iff_prefix])]

/-- Bytes without the first byte of a name hold no attribute of that name. -/
theorem attributeFrom?_skip (hc : c ∉ s) (fuel : Nat) (left : Option UInt8) (rest : List UInt8) :
    attributeFrom? (c :: w) (fuel + s.length) left (s ++ rest) =
      attributeFrom? (c :: w) fuel (s.getLast?.or left) rest := by
  induction s generalizing left with
  | nil => rfl
  | cons b s ih =>
      rw [List.length_cons, ← Nat.add_assoc, List.cons_append,
        attributeFrom?_cons (not_prefix_of_not_mem hc rest),
        ih (fun h => hc (List.mem_cons_of_mem b h)), List.getLast?_cons]
      cases s.getLast? <;> rfl

theorem attributeFrom?_here (hname : name ≠ []) {left : UInt8} (hleft : isBlank left = true)
    (fuel : Nat) (rest : List UInt8) :
    attributeFrom? name (fuel + 1) (some left) (name ++ rest) = attributeValue? rest := by
  obtain ⟨b, more, rfl⟩ := List.exists_cons_of_ne_nil hname
  have hstarts : (b :: more).isPrefixOf (b :: (more ++ rest)) = true :=
    List.isPrefixOf_iff_prefix.mpr (List.prefix_append (b :: more) rest)
  rw [List.cons_append, attributeFrom?, if_pos hstarts]
  simp [hleft]

end

/-- Bytes in quotes are read up to the quote behind them. -/
theorem quoted?_append {s : List UInt8} (hquote : (34 : UInt8) ∉ s) (hslash : (92 : UInt8) ∉ s)
    {before : List UInt8} (hbefore : before.head? ≠ some 92) (escaped : Bool) (rest : List UInt8) :
    quoted? before escaped (s ++ 34 :: rest) = some (before.reverse ++ s, escaped) := by
  induction s generalizing before with
  | nil => simp [quoted?, hbefore]
  | cons b s ih =>
      have hb : ¬ (b == 34) = true := by
        rw [beq_iff_eq]
        rintro rfl
        exact hquote List.mem_cons_self
      have hnext : (b :: before).head? ≠ some 92 := by
        rintro h
        rw [List.head?_cons, Option.some_inj] at h
        exact hslash (h ▸ List.mem_cons_self)
      rw [List.cons_append, quoted?, if_neg hb,
        ih (fun h => hquote (List.mem_cons_of_mem b h))
          (fun h => hslash (List.mem_cons_of_mem b h)) hnext]
      simp

/-- A character that may stand between quotes as it is. -/
def isPlain (c : Char) : Bool := MediaType.isQuotable c && c != '"' && c != '\\'

/-- A text of plain characters in quotes is read as it is. -/
theorem attributeValue?_quoted {s : String} (hs : ∀ c ∈ s.toList, isPlain c = true)
    (rest : List UInt8) : attributeValue? (61 :: 34 :: (utf8 s ++ 34 :: rest)) = some s := by
  have hquote : (34 : UInt8) ∉ utf8 s :=
    Text.not_mem_utf8 (by decide) fun h => absurd (hs _ h) (by decide)
  have hslash : (92 : UInt8) ∉ utf8 s :=
    Text.not_mem_utf8 (by decide) fun h => absurd (hs _ h) (by decide)
  have hinside : quoted? [] false (utf8 s ++ 34 :: rest) = some (utf8 s, false) :=
    quoted?_append hquote hslash (by simp) false rest
  have hequals : ∀ s, afterByte? 61 (61 :: s) = some s := fun _ => rfl
  have hopening : ∀ s, afterByte? 34 (34 :: s) = some s := fun _ => rfl
  rw [attributeValue?, hequals]
  simp only [Option.bind_eq_bind, Option.bind_some, hopening, hinside, Text.ofUtf8?_utf8]
  rfl

/-- A quoted attribute is read behind bytes without the first byte of its name. -/
theorem attributeFrom?_quoted {value : String} (hvalue : ∀ c ∈ value.toList, isPlain c = true)
    {c : UInt8} {w s : List UInt8} (hc : c ∉ s) {left : Option UInt8} {blank : UInt8}
    (hlast : s.getLast?.or left = some blank) (hblank : isBlank blank = true) (rest : List UInt8) :
    attributeFrom? (c :: w) ((s ++ (c :: w ++ 61 :: 34 :: (utf8 value ++ 34 :: rest))).length + 1)
      left (s ++ (c :: w ++ 61 :: 34 :: (utf8 value ++ 34 :: rest))) = some value := by
  generalize hrest : c :: w ++ 61 :: 34 :: (utf8 value ++ 34 :: rest) = more
  have hfuel : (s ++ more).length + 1 = more.length + 1 + s.length := by
    rw [List.length_append]
    omega
  rw [hfuel, attributeFrom?_skip hc, hlast, ← hrest, attributeFrom?_here (by simp) hblank,
    attributeValue?_quoted hvalue]

/-! ## Media types -/

/-- A lower-case media type without parameters. -/
def IsLowerType (s : String) : Prop :=
  ∃ type subtype : List Char, s.toList = type ++ '/' :: subtype ∧ type ≠ [] ∧
    ∀ c ∈ type ++ subtype, MediaType.isToken c = true ∧ c.toLower = c

theorem toNat_of_isToken {c : Char} (h : MediaType.isToken c = true) :
    32 < c.toNat ∧ c.toNat < 127 := by
  rcases (Bool.or_eq_true _ _).mp h with hletter | hother
  · have hranges : (decide (65 ≤ c.val ∧ c.val ≤ 90) || (97 ≤ c.val && c.val ≤ 122) ||
        (48 ≤ c.val && c.val ≤ 57)) = true := hletter
    have hnumber : c.val.toNat = c.toNat := rfl
    simp only [Bool.or_eq_true, Bool.and_eq_true, decide_eq_true_eq, UInt32.le_iff_toNat_le,
      UInt32.reduceToNat, hnumber] at hranges
    omega
  · exact (List.all_iff_forall_prop (p := fun d : Char => 32 < d.toNat ∧ d.toNat < 127)).mp
      (by decide) c (List.contains_iff_mem.mp hother)

theorem IsLowerType.printable {s : String} (h : IsLowerType s) :
    ∀ c ∈ s.toList, 32 < c.toNat ∧ c.toNat < 127 := by
  obtain ⟨type, subtype, hs, -, hchars⟩ := h
  intro c hc
  rw [hs, List.mem_append, List.mem_cons] at hc
  rcases hc with htype | rfl | hsubtype
  · exact toNat_of_isToken (hchars c (List.mem_append_left _ htype)).1
  · decide
  · exact toNat_of_isToken (hchars c (List.mem_append_right _ hsubtype)).1

theorem IsLowerType.not_isSpace {s : String} (h : IsLowerType s) :
    ∀ b ∈ utf8 s, ¬ isSpace b = true := by
  intro b hb hspace
  have hnumber : b.toNat = 32 ∨ b.toNat = 9 := by
    simpa [isSpace, ← UInt8.toNat_inj] using hspace
  obtain ⟨c, hc, hsame⟩ := Text.exists_mem_of_mem_utf8 hb (by omega)
  have hrange := h.printable c hc
  omega

theorem ofText?_of_isLowerType {s : String} (h : IsLowerType s) :
    ∃ type, MediaType.ofText? s.toList = some type ∧ type.text = s.toList := by
  obtain ⟨type, subtype, hs, hne, hchars⟩ := h
  have htype : ∀ c ∈ type, MediaType.isToken c = true := fun c hc =>
    (hchars c (List.mem_append_left _ hc)).1
  have hsubtype : ∀ c ∈ subtype, MediaType.isToken c = true := fun c hc =>
    (hchars c (List.mem_append_right _ hc)).1
  have hlower : type.map Char.toLower = type :=
    (List.map_congr_left fun c hc => (hchars c (List.mem_append_left _ hc)).2).trans
      (List.map_id type)
  have hlower' : subtype.map Char.toLower = subtype :=
    (List.map_congr_left fun c hc => (hchars c (List.mem_append_right _ hc)).2).trans
      (List.map_id subtype)
  have hslash : MediaType.isToken '/' = false := by decide
  have hempty : type.isEmpty = false := List.isEmpty_eq_false_iff.mpr hne
  have htake : s.toList.takeWhile MediaType.isToken = type := by
    rw [hs, List.takeWhile_append_of_pos htype]
    simp [hslash]
  have hdrop : s.toList.dropWhile MediaType.isToken = '/' :: subtype := by
    rw [hs, List.dropWhile_append_of_pos htype]
    simp [hslash]
  have htake' : subtype.takeWhile MediaType.isToken = subtype :=
    List.takeWhile_eq_self_iff.mpr hsubtype
  have hdrop' : subtype.dropWhile MediaType.isToken = [] := List.dropWhile_eq_nil_iff.mpr hsubtype
  rw [MediaType.ofText?, hdrop]
  simp only [htake, htake', hdrop', hlower, hlower', hempty]
  exact ⟨_, rfl, hs.symm⟩

theorem plainChars?_utf8 {s : String} (h : ∀ c ∈ s.toList, 32 < c.toNat ∧ c.toNat < 127) :
    plainChars? (utf8 s) = some s.toList := by
  have hbytes := Text.utf8_of_ascii fun c hc => (Nat.le_of_lt (h c hc).2 : c.toNat ≤ 127)
  have hnumber : ∀ c ∈ s.toList, (UInt8.ofNat c.toNat).toNat = c.toNat := fun c hc =>
    Text.toNat_ofNat_of_lt (Nat.lt_trans (h c hc).2 (by decide))
  have hall : (utf8 s).all (fun b => b == 9 || (32 ≤ b && b < 127)) = true := by
    rw [hbytes, List.all_eq_true]
    intro b hb
    obtain ⟨c, hc, rfl⟩ := List.mem_map.mp hb
    have hrange := h c hc
    simp [UInt8.le_iff_toNat_le, UInt8.lt_iff_toNat_lt, hnumber c hc, hrange.1.le, hrange.2]
  rw [plainChars?, if_pos hall, hbytes, List.map_map]
  refine congrArg some ?_
  refine (List.map_congr_left fun c hc => ?_).trans (List.map_id _)
  rw [Function.comp_apply, hnumber c hc, Char.ofNat_toNat]
  rfl

end Receipts.Web.Multipart
