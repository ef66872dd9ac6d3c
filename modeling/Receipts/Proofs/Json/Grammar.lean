import Receipts.Json.Scan

/-!
# The grammar of documents

Which inputs are documents, told without a reader. A value is a fixed word, a numeral, a text, a
list or an object, with blanks before it and between its parts. The grammar bounds neither the depth
of a value nor the size of its numbers, and the escapes in its texts only have to be well formed. It
is for a text that is kept to say something, which it does not if it has half of a pair of escapes.
-/

namespace Receipts.Json

/-- The characters of a document as input. -/
def Input.ofChars (s : List Char) : Input := s.map some

namespace Input

@[simp] theorem ofChars_nil : ofChars [] = [] := rfl

@[simp] theorem ofChars_cons (c : Char) (s : List Char) : ofChars (c :: s) = some c :: ofChars s :=
  rfl

@[simp] theorem ofChars_append (s t : List Char) : ofChars (s ++ t) = ofChars s ++ ofChars t :=
  List.map_append

end Input

/-- Whether a part of an input is nothing but blanks. -/
def AreBlanks (s : Input) : Prop := ∀ x ∈ s, Scan.isSpace x = true

theorem AreBlanks.nil : AreBlanks [] := List.forall_mem_nil _

/-! ## Texts -/

/-- The letters that may stand behind a backslash, each with the character it stands for. -/
def escapeLetters : List (Char × Char) :=
  [('"', '"'), ('\\', '\\'), ('/', '/'), ('b', Char.ofNat 8), ('f', Char.ofNat 12), ('n', '\n'),
   ('r', '\r'), ('t', '\t')]

/-- Four hexadecimal digits and their number. -/
def Spells (digits : List Char) (n : Nat) : Prop :=
  digits.length = 4 ∧ Text.hexNumber? digits = some n

/-- Whether a character stands for itself in a text. -/
def IsPlain (c : Char) : Prop := c ≠ '"' ∧ c ≠ '\\' ∧ 0x20 ≤ c.toNat

/-- What may stand behind a backslash. -/
inductive IsEscape : List Char → Prop
  | letter {c d : Char} : (c, d) ∈ escapeLetters → IsEscape [c]
  | number {digits : List Char} {n : Nat} : Spells digits n → IsEscape ('u' :: digits)

/-- What stands behind a backslash and the character that it names, one beyond 16 bits by a pair of
numbers. -/
inductive Names : List Char → Char → Prop
  | letter {c d : Char} : (c, d) ∈ escapeLetters → Names [c] d
  | number {digits : List Char} {n : Nat} : Spells digits n → Scan.isLeading n = false →
      Scan.isTrailing n = false → Names ('u' :: digits) (Char.ofNat n)
  | pair {high low : List Char} {n m : Nat} : Spells high n → Scan.isLeading n = true →
      Spells low m → Scan.isTrailing m = true → Names ('u' :: (high ++ '\\' :: 'u' :: low))
        (Char.ofNat (0x10000 + (n - 0xD800) * 0x400 + (m - 0xDC00)))

/-- The inside of a text and what it says, by what escapes there are. Stray bytes say nothing. -/
inductive Spelt (escapes : List Char → Char → Prop) : Input → List Char → Prop
  | nil : Spelt escapes [] []
  | stray {s : Input} {t : List Char} : Spelt escapes s t → Spelt escapes (none :: s) t
  | plain {c : Char} {s : Input} {t : List Char} : IsPlain c → Spelt escapes s t →
      Spelt escapes (some c :: s) (c :: t)
  | escape {w : List Char} {d : Char} {s : Input} {t : List Char} : escapes w d →
      Spelt escapes s t → Spelt escapes (some '\\' :: (Input.ofChars w ++ s)) (d :: t)

/-- Whether this may stand between the quotes of a text. -/
def IsInside (s : Input) : Prop := ∃ t, Spelt (fun w _ => IsEscape w) s t

/-- Whether the inside of a text says this. -/
def Says (s : Input) (t : String) : Prop := Spelt Names s t.toList ∧ none ∉ s

/-! ## Numerals -/

/-- Whether a part of an input is digits, at least one. -/
def AreDigits (s : Input) : Prop := s ≠ [] ∧ ∀ x ∈ s, Scan.isDigit x = true

/-- The digits in front of the point, without a superfluous zero. -/
def IsWhole (s : Input) : Prop := AreDigits s ∧ (s.head? = some (some '0') → s.length = 1)

/-- A point with the digits behind it, or nothing. -/
def IsFraction (s : Input) : Prop := s = [] ∨ ∃ digits, AreDigits digits ∧ s = some '.' :: digits

/-- An exponent with or without a sign, or nothing. -/
def IsExponent (s : Input) : Prop :=
  s = [] ∨ ∃ (letter : Char) (sign : List Char) (digits : Input), (letter = 'e' ∨ letter = 'E') ∧
    (sign = [] ∨ sign = ['+'] ∨ sign = ['-']) ∧ AreDigits digits ∧
    s = some letter :: (Input.ofChars sign ++ digits)

/-- A number without a sign. -/
def IsUnsigned (s : Input) : Prop :=
  ∃ whole fraction exponent, IsWhole whole ∧ IsFraction fraction ∧ IsExponent exponent ∧
    s = whole ++ (fraction ++ exponent)

/-- Whether a numeral ends where this follows. -/
def EndsNumeral (rest : Input) : Prop :=
  ∀ x ∈ rest.head?, Scan.isDigit x = false ∧ x ≠ some '.' ∧ x ≠ some 'e' ∧ x ≠ some 'E'

/-! ## Values -/

/-- The comma that stands before all parts of a container but the first. -/
def comma (first : Bool) : List Char := if first then [] else [',']

/-- What a value is made of: values, and what follows the opening of a container or, if it is not
the first part, a value in it. -/
inductive Part where
  | value
  | list (first : Bool)
  | object (first : Bool)
  deriving DecidableEq, Repr

/-- The words that are values. -/
def wordValues : List (List Char) :=
  [['n', 'u', 'l', 'l'], ['t', 'r', 'u', 'e'], ['f', 'a', 'l', 's', 'e']]

/-- The parts of documents. -/
inductive IsPart : Part → Input → Prop
  | blank {part : Part} {x : Text.Symbol} {s : Input} : Scan.isSpace x = true → IsPart part s →
      IsPart part (x :: s)
  | word {w : List Char} : w ∈ wordValues → IsPart .value (Input.ofChars w)
  | unsigned {s : Input} : IsUnsigned s → IsPart .value s
  | negative {s : Input} : IsUnsigned s → IsPart .value (some '-' :: s)
  | text {inside : Input} : IsInside inside →
      IsPart .value (some '"' :: (inside ++ [some '"']))
  | list {s : Input} : IsPart (.list true) s → IsPart .value (some '[' :: s)
  | object {s : Input} : IsPart (.object true) s → IsPart .value (some '{' :: s)
  | listEnd (first : Bool) : IsPart (.list first) [some ']']
  | item (first : Bool) {v s : Input} : IsPart .value v → IsPart (.list false) s →
      IsPart (.list first) (Input.ofChars (comma first) ++ (v ++ s))
  | objectEnd (first : Bool) : IsPart (.object first) [some '}']
  | member (first : Bool) {before key after v s : Input} : AreBlanks before → IsInside key →
      AreBlanks after → IsPart .value v → IsPart (.object false) s →
      IsPart (.object first) (Input.ofChars (comma first) ++
        (before ++ some '"' :: (key ++ some '"' :: (after ++ some ':' :: (v ++ s)))))

/-- Whether an input is a document. -/
def IsDocument (s : Input) : Prop := ∃ v after, IsPart .value v ∧ AreBlanks after ∧ s = v ++ after

/-! ## Containers with their parts -/

/-- The items of a list, each as it is written, after the opening bracket or an item. -/
inductive HoldsItems : Bool → List Input → Input → Prop
  | nil (first : Bool) {blanks : Input} : AreBlanks blanks →
      HoldsItems first [] (blanks ++ [some ']'])
  | cons (first : Bool) {blanks before v s : Input} {items : List Input} : AreBlanks blanks →
      AreBlanks before → IsPart .value v → HoldsItems false items s →
      HoldsItems first (v :: items)
        (blanks ++ (Input.ofChars (comma first) ++ (before ++ (v ++ s))))

/-- The members of an object, keys as they are read and values as they are written, after the
opening brace or a member. -/
inductive HoldsMembers : Bool → List (String × Input) → Input → Prop
  | nil (first : Bool) {blanks : Input} : AreBlanks blanks →
      HoldsMembers first [] (blanks ++ [some '}'])
  | cons (first : Bool) {blanks before inside after v s : Input} {key : String}
      {members : List (String × Input)} : AreBlanks blanks → AreBlanks before → Says inside key →
      AreBlanks after → IsPart .value v → HoldsMembers false members s →
      HoldsMembers first ((key, v) :: members) (blanks ++ (Input.ofChars (comma first) ++
        (before ++ some '"' :: (inside ++ some '"' :: (after ++ some ':' :: (v ++ s))))))

/-- Whether a value is the list of these items. -/
def IsListOf (items : List Input) (v : Input) : Prop :=
  ∃ before inside, AreBlanks before ∧ HoldsItems true items inside ∧
    v = before ++ some '[' :: inside

/-- Whether a value is the object with these members. -/
def IsObjectOf (members : List (String × Input)) (v : Input) : Prop :=
  ∃ before inside, AreBlanks before ∧ HoldsMembers true members inside ∧
    v = before ++ some '{' :: inside

/-- Whether a value is null. -/
def IsNull (v : Input) : Prop :=
  ∃ before, AreBlanks before ∧ v = before ++ Input.ofChars ['n', 'u', 'l', 'l']

/-- Whether a value is this text. -/
def IsTextOf (t : String) (v : Input) : Prop :=
  ∃ before inside, AreBlanks before ∧ Says inside t ∧
    v = before ++ some '"' :: (inside ++ [some '"'])

/-- Whether an input is the object with these members, and nothing follows it. -/
def IsObjectDocument (members : List (String × Input)) (s : Input) : Prop :=
  ∃ v after, IsObjectOf members v ∧ AreBlanks after ∧ s = v ++ after

/-! ## Parts among parts -/

theorem AreBlanks.isPart {blanks : Input} (h : AreBlanks blanks) {part : Part} {s : Input}
    (hs : IsPart part s) : IsPart part (blanks ++ s) := by
  induction blanks with
  | nil => exact hs
  | cons x blanks ih =>
      obtain ⟨hx, hblanks⟩ := List.forall_mem_cons.mp h
      exact .blank hx (ih hblanks)

/-- What is spelt by some escapes is spelt by others too, if each of them stands for something. -/
theorem Spelt.exists_spelt {escapes others : List Char → Char → Prop} {s : Input} {t : List Char}
    (hs : Spelt escapes s t) (h : ∀ w d, escapes w d → ∃ e, others w e) :
    ∃ t, Spelt others s t := by
  induction hs with
  | nil => exact ⟨[], .nil⟩
  | stray _ ih => exact ih.imp fun _ => .stray
  | plain hc _ ih => exact ih.elim fun t ht => ⟨_ :: t, .plain hc ht⟩
  | escape hw _ ih =>
      obtain ⟨e, he⟩ := h _ _ hw
      exact ih.elim fun t ht => ⟨e :: t, .escape he ht⟩

theorem Spelt.length_le {escapes : List Char → Char → Prop} {s : Input} {t : List Char}
    (h : Spelt escapes s t) : t.length ≤ s.length := by
  induction h with
  | nil => exact Nat.le_refl 0
  | stray _ ih => exact Nat.le_succ_of_le ih
  | plain _ _ ih => exact Nat.succ_le_succ ih
  | escape _ _ ih =>
      rw [List.length_cons, List.length_cons, List.length_append]
      omega

theorem IsTextOf.length_lt {t : String} {v : Input} (h : IsTextOf t v) :
    t.toList.length < v.length := by
  obtain ⟨before, inside, -, ⟨hinside, -⟩, rfl⟩ := h
  have hlength := hinside.length_le
  simp only [List.length_append, List.length_cons]
  omega

theorem Spells.isEscape_pair {high low : List Char} {n m : Nat} (hhigh : Spells high n)
    (hlow : Spells low m) {s : Input} (hs : IsInside s) : IsInside (some '\\' ::
      (Input.ofChars ('u' :: (high ++ '\\' :: 'u' :: low)) ++ s)) := by
  obtain ⟨t, ht⟩ := hs
  refine ⟨' ' :: ' ' :: t, ?_⟩
  have hlater : Spelt (fun w _ => IsEscape w)
      (some '\\' :: (Input.ofChars ('u' :: low) ++ s)) (' ' :: t) := .escape (.number hlow) ht
  have hboth := Spelt.escape (d := ' ') (IsEscape.number hhigh) hlater
  simpa using hboth

/-- A text that says something is one whose escapes are well formed. -/
theorem Says.isInside {s : Input} {t : String} (h : Says s t) : IsInside s := by
  obtain ⟨hs, -⟩ := h
  generalize t.toList = t at hs
  induction hs with
  | nil => exact ⟨[], .nil⟩
  | stray _ ih => exact ih.imp fun _ => .stray
  | plain hc _ ih => exact ih.elim fun t ht => ⟨_ :: t, .plain hc ht⟩
  | escape hw _ ih =>
      cases hw with
      | letter hc => exact ih.elim fun t ht => ⟨' ' :: t, .escape (.letter hc) ht⟩
      | number hn => exact ih.elim fun t ht => ⟨' ' :: t, .escape (.number hn) ht⟩
      | pair hn _ hm _ => exact hn.isEscape_pair hm ih

theorem IsNull.isPart {v : Input} (h : IsNull v) : IsPart .value v := by
  obtain ⟨before, hbefore, rfl⟩ := h
  exact hbefore.isPart (.word (by decide))

theorem IsTextOf.isPart {t : String} {v : Input} (h : IsTextOf t v) : IsPart .value v := by
  obtain ⟨before, inside, hbefore, hinside, rfl⟩ := h
  exact hbefore.isPart (.text hinside.isInside)

theorem HoldsItems.isPart {first : Bool} {items : List Input} {s : Input}
    (h : HoldsItems first items s) : IsPart (.list first) s := by
  induction h with
  | nil first hblanks => exact hblanks.isPart (.listEnd first)
  | cons first hblanks hbefore hv _ ih =>
      have hitem := IsPart.item first (hbefore.isPart hv) ih
      rw [List.append_assoc] at hitem
      exact hblanks.isPart hitem

theorem HoldsMembers.isPart {first : Bool} {members : List (String × Input)} {s : Input}
    (h : HoldsMembers first members s) : IsPart (.object first) s := by
  induction h with
  | nil first hblanks => exact hblanks.isPart (.objectEnd first)
  | cons first hblanks hbefore hkey hafter hv _ ih =>
      exact hblanks.isPart (.member first hbefore hkey.isInside hafter hv ih)

theorem HoldsMembers.length_lt {first : Bool} {members : List (String × Input)} {s : Input}
    (h : HoldsMembers first members s) : members.length < s.length := by
  induction h with
  | nil first => simp
  | cons first _ _ _ _ _ _ ih =>
      simp only [List.length_cons, List.length_append] at ih ⊢
      omega

theorem HoldsMembers.length_value_lt {first : Bool} {members : List (String × Input)} {s : Input}
    (h : HoldsMembers first members s) :
    ∀ member ∈ members, member.2.length < s.length := by
  induction h with
  | nil first => nofun
  | @cons first _ _ _ _ v s key members _ _ _ _ _ _ ih =>
      refine List.forall_mem_cons.mpr ⟨?_, fun member hmember => ?_⟩
      · simp only [List.length_append, List.length_cons]
        omega
      · have hlater := ih member hmember
        simp only [List.length_append, List.length_cons]
        omega

theorem HoldsMembers.values {first : Bool} {members : List (String × Input)} {s : Input}
    (h : HoldsMembers first members s) : ∀ member ∈ members, IsPart .value member.2 := by
  induction h with
  | nil first => nofun
  | cons first _ _ _ _ hv _ ih => exact List.forall_mem_cons.mpr ⟨hv, ih⟩

theorem HoldsItems.values {first : Bool} {items : List Input} {s : Input}
    (h : HoldsItems first items s) : ∀ v ∈ items, IsPart .value v := by
  induction h with
  | nil first => nofun
  | cons first _ _ hv _ ih => exact List.forall_mem_cons.mpr ⟨hv, ih⟩

theorem IsListOf.isPart {items : List Input} {v : Input} (h : IsListOf items v) :
    IsPart .value v := by
  obtain ⟨before, inside, hbefore, hinside, rfl⟩ := h
  exact hbefore.isPart (.list hinside.isPart)

theorem IsObjectOf.isPart {members : List (String × Input)} {v : Input}
    (h : IsObjectOf members v) : IsPart .value v := by
  obtain ⟨before, inside, hbefore, hinside, rfl⟩ := h
  exact hbefore.isPart (.object hinside.isPart)

end Receipts.Json
