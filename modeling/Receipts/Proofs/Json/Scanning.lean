import Mathlib.Data.List.TakeWhile
import Receipts.Proofs.Json.Grammar

/-!
# The words of a document against the grammar

A text, a fixed word or a numeral is read at the front of an input exactly when the grammar has one
there: texts that are kept if they say something, texts that are passed over if their escapes are
well formed. Only a numeral has to know what follows, since it takes all the digits there are.
-/

namespace Receipts.Json

/-! ## Results -/

theorem map_eq_ok_iff {ε α β : Type} {f : α → β} {result : Except ε α} {b : β} :
    result.map f = .ok b ↔ ∃ a, result = .ok a ∧ f a = b := by
  cases result <;> simp [Except.map]

theorem bind_eq_ok_iff {ε α β : Type} {result : Except ε α} {f : α → Except ε β} {b : β} :
    (result >>= f) = .ok b ↔ ∃ a, result = .ok a ∧ f a = .ok b := by
  cases result <;> simp [bind, Except.bind]

namespace Scan

/-! ## Fixed words -/

theorem word_append (w : List Char) (rest : Input) :
    word w (Input.ofChars w ++ rest) = .ok rest := by
  induction w with
  | nil => rfl
  | cons c w ih =>
      rw [Input.ofChars_cons, List.cons_append, word, if_pos (beq_self_eq_true _), ih]

theorem eq_of_word {w : List Char} {s rest : Input} (h : word w s = .ok rest) :
    s = Input.ofChars w ++ rest := by
  induction w generalizing s with
  | nil => exact Except.ok.inj h
  | cons c w ih =>
      cases s with
      | nil => cases h
      | cons x s =>
          rw [word] at h
          split at h
          · rename_i hx
            rw [eq_of_beq hx, ih h]
            rfl
          · cases h

/-! ## Escapes -/

theorem fourDigits_append {digits : List Char} {n : Nat} (h : Spells digits n) (rest : Input) :
    fourDigits (Input.ofChars digits ++ rest) = .ok n := by
  obtain ⟨hlength, hn⟩ := h
  obtain ⟨a, b, c, d, rfl⟩ : ∃ a b c d, digits = [a, b, c, d] := by
    match digits, hlength with
    | [a, b, c, d], _ => exact ⟨a, b, c, d, rfl⟩
  simp only [Text.hexNumber?, List.foldlM_cons, List.foldlM_nil, Option.bind_eq_bind,
    Option.bind_eq_some_iff, Option.map_eq_some_iff] at hn
  obtain ⟨_, ⟨a', ha, rfl⟩, _, ⟨b', hb, rfl⟩, _, ⟨c', hc, rfl⟩, _, ⟨d', hd, rfl⟩, hsum⟩ := hn
  simp only [Input.ofChars_cons, List.cons_append, fourDigits, hexValue?, Option.bind_some, ha, hb,
    hc, hd]
  simpa using hsum

theorem exists_of_fourDigits {s : Input} {n : Nat} (h : fourDigits s = .ok n) :
    ∃ digits rest, Spells digits n ∧ s = Input.ofChars digits ++ rest := by
  unfold fourDigits at h
  split at h
  · rename_i a b c d rest
    split at h
    · rename_i hfirst hsecond hthird hfourth
      cases h
      obtain ⟨a, rfl, ha⟩ := Option.bind_eq_some_iff.mp hfirst
      obtain ⟨b, rfl, hb⟩ := Option.bind_eq_some_iff.mp hsecond
      obtain ⟨c, rfl, hc⟩ := Option.bind_eq_some_iff.mp hthird
      obtain ⟨d, rfl, hd⟩ := Option.bind_eq_some_iff.mp hfourth
      refine ⟨[a, b, c, d], rest, ⟨rfl, ?_⟩, rfl⟩
      simp [Text.hexNumber?, ha, hb, hc, hd]
    · cases h
  · split at h <;> cases h

theorem escape_letter {c d : Char} (h : (c, d) ∈ escapeLetters) (checked : Bool) (rest : Input) :
    escape checked (some c :: rest) = .ok (d, 1) := by
  simp only [escapeLetters, List.mem_cons, List.not_mem_nil, or_false, Prod.mk.injEq] at h
  rcases h with ⟨rfl, rfl⟩ | ⟨rfl, rfl⟩ | ⟨rfl, rfl⟩ | ⟨rfl, rfl⟩ | ⟨rfl, rfl⟩ | ⟨rfl, rfl⟩ |
    ⟨rfl, rfl⟩ | ⟨rfl, rfl⟩ <;> rfl

theorem escape_number (checked : Bool) (s : Input) : escape checked (some 'u' :: s) =
    if checked then (numbered s).map fun (c, taken) => (c, taken + 1)
    else (fourDigits s).map fun _ => (' ', 5) := rfl

/-- An escape is a letter of the list or `u` with what follows it. -/
theorem letter_or_number_of_escape {checked : Bool} {s : Input} {d : Char} {taken : Nat}
    (h : escape checked s = .ok (d, taken)) :
    (∃ c rest, (c, d) ∈ escapeLetters ∧ taken = 1 ∧ s = some c :: rest) ∨
      ∃ rest, s = some 'u' :: rest := by
  unfold escape at h
  split at h
  case h_10 => exact .inr ⟨_, rfl⟩
  case h_1 | h_11 => cases h
  all_goals
    cases h
    exact .inl ⟨_, _, by decide, rfl, rfl⟩

theorem numbered_of_not_leading {s : Input} {n : Nat} (hn : fourDigits s = .ok n)
    (htrailing : isTrailing n = false) (hleading : isLeading n = false) :
    numbered s = .ok (Char.ofNat n, 4) := by
  rw [numbered, hn]
  simp [bind, Except.bind, htrailing, hleading]

theorem not_isTrailing_of_isLeading {n : Nat} (h : isLeading n = true) : isTrailing n = false := by
  simp only [isLeading, isTrailing, Bool.and_eq_true, decide_eq_true_eq] at h ⊢
  simp only [Bool.and_eq_false_iff, decide_eq_false_iff_not]
  omega

theorem numbered_pair {high low : List Char} {n m : Nat} (hhigh : Spells high n)
    (hleading : isLeading n = true) (hlow : Spells low m) (htrailing : isTrailing m = true)
    (rest : Input) :
    numbered (Input.ofChars (high ++ '\\' :: 'u' :: low) ++ rest)
      = .ok (Char.ofNat (0x10000 + (n - 0xD800) * 0x400 + (m - 0xDC00)), 10) := by
  have hdrop : (Input.ofChars high ++ some '\\' :: some 'u' :: (Input.ofChars low ++ rest)).drop 4
      = some '\\' :: some 'u' :: (Input.ofChars low ++ rest) :=
    List.drop_left' (by simp [Input.ofChars, hhigh.1])
  rw [Input.ofChars_append, Input.ofChars_cons, Input.ofChars_cons, List.append_assoc,
    List.cons_append, List.cons_append, numbered, fourDigits_append hhigh]
  simp [bind, Except.bind, not_isTrailing_of_isLeading hleading, hleading, hdrop,
    fourDigits_append hlow, htrailing]

theorem escape_of_names {w : List Char} {d : Char} (h : Names w d) (rest : Input) :
    escape true (Input.ofChars w ++ rest) = .ok (d, w.length) := by
  cases h with
  | letter hc => exact escape_letter hc true rest
  | @number digits n hn hleading htrailing =>
      rw [Input.ofChars_cons, List.cons_append, escape_number, if_pos rfl,
        numbered_of_not_leading (fourDigits_append hn rest) htrailing hleading, List.length_cons,
        hn.1]
      rfl
  | @pair high low n m hn hleading hm htrailing =>
      rw [Input.ofChars_cons, List.cons_append, escape_number, if_pos rfl,
        numbered_pair hn hleading hm htrailing]
      simp [Except.map, hn.1, hm.1]

theorem escape_of_isEscape {w : List Char} (h : IsEscape w) :
    ∃ d, ∀ rest, escape false (Input.ofChars w ++ rest) = .ok (d, w.length) := by
  cases h with
  | letter hc => exact ⟨_, escape_letter hc false⟩
  | @number digits n hn =>
      refine ⟨' ', fun rest => ?_⟩
      rw [Input.ofChars_cons, List.cons_append, escape_number, if_neg (by decide),
        fourDigits_append hn, List.length_cons, hn.1]
      rfl

/-- What is read behind `u` is one number or a pair of them. -/
theorem exists_of_numbered {s : Input} {d : Char} {taken : Nat}
    (h : numbered s = .ok (d, taken)) :
    ∃ w rest, Names ('u' :: w) d ∧ taken = w.length ∧ s = Input.ofChars w ++ rest := by
  obtain ⟨n, hn, h⟩ := bind_eq_ok_iff.mp h
  obtain ⟨high, rest, hhigh, rfl⟩ := exists_of_fourDigits hn
  have hdrop : (Input.ofChars high ++ rest).drop 4 = rest :=
    List.drop_left' (by simp [Input.ofChars, hhigh.1])
  by_cases htrailing : isTrailing n = true
  · simp [htrailing] at h
  · rw [Bool.not_eq_true] at htrailing
    by_cases hleading : isLeading n = true
    · simp only [htrailing, hleading, hdrop, Bool.false_eq_true, if_false, Bool.not_true] at h
      split at h
      · cases h
      · split at h
        · cases h
        · obtain ⟨m, hm, hpair⟩ := bind_eq_ok_iff.mp h
          obtain ⟨low, rest, hlow, rfl⟩ := exists_of_fourDigits hm
          split at hpair
          · rename_i hsecond
            obtain ⟨rfl, rfl⟩ := Prod.mk.inj (Except.ok.inj hpair)
            exact ⟨high ++ '\\' :: 'u' :: low, rest, .pair hhigh hleading hlow hsecond,
              by simp [hhigh.1, hlow.1], by simp⟩
          · cases hpair
        · cases h
      · cases h
    · rw [Bool.not_eq_true] at hleading
      simp only [htrailing, hleading, Bool.false_eq_true, if_false, Bool.not_false, if_true] at h
      cases h
      exact ⟨high, rest, .number hhigh hleading htrailing, hhigh.1.symm, rfl⟩

theorem exists_of_escape_true {s : Input} {d : Char} {taken : Nat}
    (h : escape true s = .ok (d, taken)) :
    ∃ w rest, Names w d ∧ taken = w.length ∧ s = Input.ofChars w ++ rest := by
  rcases letter_or_number_of_escape h with ⟨c, rest, hc, rfl, rfl⟩ | ⟨rest, rfl⟩
  · exact ⟨[c], rest, .letter hc, rfl, rfl⟩
  · rw [escape_number, if_pos rfl] at h
    obtain ⟨⟨e, m⟩, hnumber, heq⟩ := map_eq_ok_iff.mp h
    cases heq
    obtain ⟨w, rest, hw, rfl, rfl⟩ := exists_of_numbered hnumber
    exact ⟨'u' :: w, rest, hw, rfl, rfl⟩

theorem exists_of_escape_false {s : Input} {d : Char} {taken : Nat}
    (h : escape false s = .ok (d, taken)) :
    ∃ w rest, IsEscape w ∧ taken = w.length ∧ s = Input.ofChars w ++ rest := by
  rcases letter_or_number_of_escape h with ⟨c, rest, hc, rfl, rfl⟩ | ⟨rest, rfl⟩
  · exact ⟨[c], rest, .letter hc, rfl, rfl⟩
  · rw [escape_number, if_neg (by decide)] at h
    obtain ⟨n, hn, heq⟩ := map_eq_ok_iff.mp h
    cases heq
    obtain ⟨digits, rest, hdigits, rfl⟩ := exists_of_fourDigits hn
    exact ⟨'u' :: digits, rest, .number hdigits, by simp [hdigits.1], rfl⟩

/-! ## Texts -/

theorem textFrom_of_escape {checked : Bool} {s : Input} {d : Char} {taken : Nat}
    (h : escape checked s = .ok (d, taken)) (stray : Bool) (read : List Char) :
    textFrom checked read stray 0 (some '\\' :: s) =
      textFrom checked (d :: read) stray taken s := by
  rw [textFrom]
  simp only [show ('\\' == '"') = false by decide, Bool.false_eq_true, if_false,
    beq_self_eq_true, if_true, h]

theorem textFrom_of_plain {c : Char} (hquote : c ≠ '"') (hslash : c ≠ '\\')
    (hcontrol : ¬ c.toNat < 0x20) (checked stray : Bool) (read : List Char) (s : Input) :
    textFrom checked read stray 0 (some c :: s) = textFrom checked (c :: read) stray 0 s := by
  rw [textFrom]
  simp only [beq_eq_false_iff_ne.mpr hquote, beq_eq_false_iff_ne.mpr hslash, Bool.false_eq_true,
    if_false, hcontrol]

theorem textFrom_skip (checked : Bool) (read : List Char) (stray : Bool) (skip : Nat) (s : Input) :
    textFrom checked read stray skip s = textFrom checked read stray 0 (s.drop skip) := by
  induction skip generalizing s with
  | zero => rfl
  | succ skip ih =>
      cases s with
      | nil => rfl
      | cons x s => exact ih s

theorem textFrom_quote (checked : Bool) (read : List Char) (stray : Bool) (rest : Input) :
    textFrom checked read stray 0 (some '"' :: rest) =
      if checked && stray then .error .badCodePoint else .ok (read.reverse, rest) := rfl

section
variable {checked : Bool} {escapes : List Char → Char → Prop}

/-- What is spelt is read up to the closing quote. -/
theorem textFrom_spelt
    (hescapes : ∀ {w d}, escapes w d →
      ∀ rest, escape checked (Input.ofChars w ++ rest) = .ok (d, w.length))
    {inside : Input} {t : List Char} (h : Spelt escapes inside t) (read : List Char) (stray : Bool)
    (rest : Input) : textFrom checked read stray 0 (inside ++ rest) =
      textFrom checked (t.reverse ++ read) (stray || decide (none ∈ inside)) 0 rest := by
  induction h generalizing read stray with
  | nil => simp
  | stray _ ih =>
      rw [List.cons_append, textFrom, ih]
      simp
  | plain hc _ ih =>
      obtain ⟨hquote, hslash, hcontrol⟩ := hc
      rw [List.cons_append, textFrom_of_plain hquote hslash (by omega), ih]
      simp
  | @escape w d s t hw _ ih =>
      rw [List.cons_append, List.append_assoc, textFrom_of_escape (hescapes hw _), textFrom_skip,
        List.drop_left' (by simp [Input.ofChars]), ih]
      simp [Input.ofChars]

variable (hescapes : ∀ {s d taken}, escape checked s = .ok (d, taken) →
  ∃ w rest, escapes w d ∧ taken = w.length ∧ s = Input.ofChars w ++ rest)

include hescapes

/-- What a text goes on with: its closing quote, a stray byte, a plain character or an escape. -/
theorem step_textFrom {x : Text.Symbol} {s rest : Input} {read t : List Char} {stray : Bool}
    (h : textFrom checked read stray 0 (x :: s) = .ok (t, rest)) :
    (x = some '"' ∧ (checked = true → stray = false) ∧ t = read.reverse ∧ rest = s) ∨
      (x = none ∧ textFrom checked read true 0 s = .ok (t, rest)) ∨
      (∃ c, IsPlain c ∧ x = some c ∧ textFrom checked (c :: read) stray 0 s = .ok (t, rest)) ∨
      ∃ w d after, escapes w d ∧ x = some '\\' ∧ s = Input.ofChars w ++ after ∧
        textFrom checked (d :: read) stray 0 after = .ok (t, rest) := by
  cases x with
  | none => exact .inr (.inl ⟨rfl, h⟩)
  | some c =>
      by_cases hquote : c = '"'
      · subst hquote
        rw [textFrom_quote] at h
        split at h
        · cases h
        · rename_i hstray
          cases h
          exact .inl ⟨rfl, fun hc => by simpa [hc] using hstray, rfl, rfl⟩
      · by_cases hslash : c = '\\'
        · subst hslash
          rw [textFrom] at h
          simp only [beq_eq_false_iff_ne.mpr hquote, Bool.false_eq_true, if_false,
            beq_self_eq_true, if_true] at h
          split at h
          · rename_i d taken hescape
            obtain ⟨w, after, hw, rfl, rfl⟩ := hescapes hescape
            rw [textFrom_skip, List.drop_left' (by simp [Input.ofChars])] at h
            exact .inr (.inr (.inr ⟨w, d, after, hw, rfl, rfl, h⟩))
          · cases h
        · by_cases hcontrol : c.toNat < 0x20
          · rw [textFrom] at h
            simp [hquote, hslash, hcontrol] at h
          · rw [textFrom_of_plain hquote hslash hcontrol] at h
            exact .inr (.inr (.inl ⟨c, ⟨hquote, hslash, by omega⟩, rfl, h⟩))

/-- What is read up to a closing quote is spelt. -/
theorem exists_of_textFrom {s rest : Input} {read t : List Char} {stray : Bool}
    (h : textFrom checked read stray 0 s = .ok (t, rest)) :
    ∃ inside said, Spelt escapes inside said ∧ (checked = true → stray = false ∧ none ∉ inside) ∧
      t = read.reverse ++ said ∧ s = inside ++ some '"' :: rest := by
  -- an escape takes several symbols at once, so the induction is on the length
  generalize hlength : s.length = length
  induction length using Nat.strongRecOn generalizing s read stray with
  | ind length ih =>
      subst hlength
      cases s with
      | nil => cases h
      | cons x s =>
          rcases step_textFrom hescapes h with ⟨rfl, hstray, rfl, rfl⟩ | ⟨rfl, hstep⟩ |
            ⟨c, hplain, rfl, hstep⟩ | ⟨w, d, after, hw, rfl, rfl, hstep⟩
          · exact ⟨[], [], .nil, fun hc => ⟨hstray hc, List.not_mem_nil⟩,
              (List.append_nil _).symm, rfl⟩
          · obtain ⟨inside, said, hsaid, hclean, rfl, rfl⟩ := ih _ (by simp) hstep rfl
            exact ⟨none :: inside, said, .stray hsaid, fun hc => absurd (hclean hc).1 (by decide),
              rfl, rfl⟩
          · obtain ⟨inside, said, hsaid, hclean, rfl, rfl⟩ := ih _ (by simp) hstep rfl
            exact ⟨some c :: inside, c :: said, .plain hplain hsaid,
              fun hc => ⟨(hclean hc).1, by simpa using (hclean hc).2⟩, by simp, rfl⟩
          · obtain ⟨inside, said, hsaid, hclean, rfl, rfl⟩ :=
              ih _ (by simp only [List.length_cons, List.length_append]; omega) hstep rfl
            refine ⟨_, d :: said, .escape hw hsaid, fun hc => ⟨(hclean hc).1, ?_⟩, by simp, by simp⟩
            simpa [Input.ofChars] using (hclean hc).2

end

/-- A text is read where the grammar has one that says something. -/
theorem text_eq_ok_iff {s rest : Input} {t : String} :
    text s = .ok (t, rest) ↔ ∃ inside, Says inside t ∧ s = inside ++ some '"' :: rest := by
  constructor
  · intro h
    obtain ⟨⟨said, after⟩, hread, heq⟩ := map_eq_ok_iff.mp h
    cases heq
    obtain ⟨inside, _, hsaid, hclean, rfl, rfl⟩ := exists_of_textFrom exists_of_escape_true hread
    exact ⟨inside, ⟨by simpa using hsaid, (hclean rfl).2⟩, rfl⟩
  · rintro ⟨inside, ⟨hsaid, hclean⟩, rfl⟩
    rw [text, textFrom_spelt escape_of_names hsaid, textFrom_quote]
    simp [hclean, Except.map]

/-- A text is passed over where the grammar has one. -/
theorem skipText_eq_ok_iff {s rest : Input} :
    skipText s = .ok rest ↔ ∃ inside, IsInside inside ∧ s = inside ++ some '"' :: rest := by
  constructor
  · intro h
    obtain ⟨⟨said, after⟩, hread, rfl⟩ := map_eq_ok_iff.mp h
    obtain ⟨inside, t, hsaid, -, -, rfl⟩ :=
      exists_of_textFrom exists_of_escape_false hread
    exact ⟨inside, ⟨t, hsaid⟩, rfl⟩
  · rintro ⟨inside, ⟨t, hsaid⟩, rfl⟩
    obtain ⟨t, hread⟩ : ∃ t, Spelt (fun w d => ∀ rest,
        escape false (Input.ofChars w ++ rest) = .ok (d, w.length)) inside t :=
      hsaid.exists_spelt fun w _ hw => escape_of_isEscape hw
    rw [skipText, textFrom_spelt (fun hd => hd) hread, textFrom_quote]
    simp [Except.map]

/-! ## Numerals -/

/-- Whether no digit comes next. -/
def EndsDigits (rest : Input) : Prop := ∀ x ∈ rest.head?, isDigit x = false

theorem takeWhile_isDigit_append {w rest : Input} (hw : ∀ x ∈ w, isDigit x = true)
    (hrest : EndsDigits rest) :
    (w ++ rest).takeWhile isDigit = w ∧ (w ++ rest).dropWhile isDigit = rest := by
  have hnone : rest.takeWhile isDigit = [] ∧ rest.dropWhile isDigit = rest := by
    cases rest with
    | nil => exact ⟨rfl, rfl⟩
    | cons x rest =>
        have hx : isDigit x = false := hrest x rfl
        exact ⟨List.takeWhile_cons_of_neg (by simp [hx]), List.dropWhile_cons_of_neg (by simp [hx])⟩
  rw [List.takeWhile_append_of_pos hw, List.dropWhile_append_of_pos hw, hnone.1, hnone.2,
    List.append_nil]
  exact ⟨rfl, rfl⟩

theorem someDigits_append {w rest : Input} (hw : AreDigits w) (hrest : EndsDigits rest)
    (atEnd : Cause) : someDigits atEnd (w ++ rest) = .ok (digits w, rest) := by
  obtain ⟨hne, hw⟩ := hw
  obtain ⟨x, w, rfl⟩ := List.exists_cons_of_ne_nil hne
  have hsplit := takeWhile_isDigit_append hw hrest
  have hwhole := List.takeWhile_eq_self_iff.mpr hw
  rw [List.cons_append, someDigits, if_pos (hw x List.mem_cons_self), digits, digits, afterDigits,
    ← List.cons_append, hsplit.1, hsplit.2, hwhole]

theorem exists_of_someDigits {atEnd : Cause} {s rest : Input} {ds : List Nat}
    (h : someDigits atEnd s = .ok (ds, rest)) :
    ∃ w, AreDigits w ∧ ds = digits w ∧ s = w ++ rest := by
  cases s with
  | nil => cases h
  | cons x s =>
      rw [someDigits] at h
      split at h
      · rename_i hx
        cases h
        have hall : ∀ y ∈ (x :: s).takeWhile isDigit, isDigit y = true :=
          List.all_eq_true.mp List.all_takeWhile
        refine ⟨(x :: s).takeWhile isDigit, ⟨?_, hall⟩, ?_,
          List.takeWhile_append_dropWhile.symm⟩
        · rw [List.takeWhile_cons_of_pos hx]
          exact List.cons_ne_nil _ _
        · rw [digits, digits, List.takeWhile_eq_self_iff.mpr hall]
      · cases h

/-- The first digit is counted as zero if it is a zero. -/
theorem head?_digits_eq_zero_iff {w : Input} (hw : AreDigits w) :
    (digits w).head? = some 0 ↔ w.head? = some (some '0') := by
  obtain ⟨hne, hw⟩ := hw
  obtain ⟨x, w, rfl⟩ := List.exists_cons_of_ne_nil hne
  have hx := hw x List.mem_cons_self
  obtain ⟨c, rfl, hc⟩ : ∃ c, x = some c ∧ c.isDigit = true := by
    cases x with
    | none => cases hx
    | some c => exact ⟨c, rfl, hx⟩
  have hlow : '0'.toNat ≤ c.toNat := by
    simp only [Char.isDigit, Bool.and_eq_true, decide_eq_true_eq] at hc
    exact hc.1
  rw [digits, List.takeWhile_cons_of_pos hx, List.map_cons, List.head?_cons, List.head?_cons]
  simp only [Option.getD_some, Option.some.injEq]
  constructor
  · intro hzero
    exact Char.toNat_inj.mp (by omega)
  · rintro rfl
    rfl

theorem length_digits {w : Input} (hw : AreDigits w) : (digits w).length = w.length := by
  rw [digits, List.takeWhile_eq_self_iff.mpr hw.2, List.length_map]

/-- Digits are refused if they have a superfluous zero in front. -/
theorem superfluous_zero_iff {w : Input} (hw : AreDigits w) :
    ((digits w).head? == some 0 && decide (1 < (digits w).length)) = true ↔ ¬ IsWhole w := by
  have hpos := List.length_pos_iff.mpr hw.1
  rw [Bool.and_eq_true, beq_iff_eq, decide_eq_true_eq, head?_digits_eq_zero_iff hw,
    length_digits hw, IsWhole]
  simp only [hw, true_and, Classical.not_imp]
  exact and_congr_right fun _ => by omega

theorem endsDigits_of_endsNumeral {rest : Input} (h : EndsNumeral rest) : EndsDigits rest :=
  fun x hx => (h x hx).1

theorem fractionPart_append {fraction rest : Input} (hfraction : IsFraction fraction)
    (hdigits : EndsDigits rest) (hpoint : rest.head? ≠ some (some '.')) (atEnd : Cause) :
    ∃ part, fractionPart atEnd (fraction ++ rest) = .ok (part, rest) := by
  rcases hfraction with rfl | ⟨ds, hds, rfl⟩
  · refine ⟨none, ?_⟩
    rw [List.nil_append]
    unfold fractionPart
    split
    · exact absurd rfl hpoint
    · rfl
  · refine ⟨some (digits ds), ?_⟩
    rw [List.cons_append, fractionPart, someDigits_append hds hdigits]
    rfl

theorem exists_of_fractionPart {atEnd : Cause} {s rest : Input} {part : Option (List Nat)}
    (h : fractionPart atEnd s = .ok (part, rest)) :
    ∃ fraction, IsFraction fraction ∧ s = fraction ++ rest := by
  unfold fractionPart at h
  split at h
  · obtain ⟨⟨ds, after⟩, hdigits, heq⟩ := map_eq_ok_iff.mp h
    cases heq
    obtain ⟨w, hw, -, rfl⟩ := exists_of_someDigits hdigits
    exact ⟨some '.' :: w, .inr ⟨w, hw, rfl⟩, rfl⟩
  · cases h
    exact ⟨[], .inl rfl, rfl⟩

theorem exponentPart_append {exponent rest : Input} (hexponent : IsExponent exponent)
    (hrest : EndsNumeral rest) (atEnd : Cause) :
    ∃ part, exponentPart atEnd (exponent ++ rest) = .ok (part, rest) := by
  rcases hexponent with rfl | ⟨letter, sign, ds, hletter, hsign, hds, rfl⟩
  · refine ⟨none, ?_⟩
    rw [List.nil_append]
    unfold exponentPart
    split
    · rename_i c after
      obtain ⟨-, -, he, hE⟩ := hrest (some c) rfl
      rw [if_neg (by simp_all)]
    · rfl
  · have hread := someDigits_append hds (endsDigits_of_endsNumeral hrest) atEnd
    have hletter : (letter == 'e' || letter == 'E') = true := by simpa using hletter
    obtain ⟨hne, hdigits⟩ := hds
    obtain ⟨x, w, rfl⟩ := List.exists_cons_of_ne_nil hne
    have hx := hdigits x List.mem_cons_self
    rw [List.cons_append, List.append_assoc]
    rcases hsign with rfl | rfl | rfl
    · refine ⟨some (false, digits (x :: w)), ?_⟩
      rw [exponentPart, if_pos hletter]
      · rw [Input.ofChars_nil, List.nil_append, hread]
        rfl
      · rintro after heq
        cases heq
        cases hx
      · rintro after heq
        cases heq
        cases hx
    all_goals
      constructor
      show (if letter == 'e' || letter == 'E' then (someDigits atEnd (x :: w ++ rest)).map _ else _)
        = _
      rw [if_pos hletter, hread]
      rfl

theorem exists_of_exponentPart {atEnd : Cause} {s rest : Input}
    {part : Option (Bool × List Nat)} (h : exponentPart atEnd s = .ok (part, rest)) :
    ∃ exponent, IsExponent exponent ∧ s = exponent ++ rest := by
  unfold exponentPart at h
  split at h
  · rename_i letter after
    split at h
    · rename_i hletter
      have hletter : letter = 'e' ∨ letter = 'E' := by simpa using hletter
      obtain ⟨⟨ds, rest⟩, hdigits, heq⟩ := map_eq_ok_iff.mp h
      cases heq
      obtain ⟨w, hw, -, hafter⟩ := exists_of_someDigits hdigits
      split at hafter
      · cases (show _ = w ++ rest from hafter)
        exact ⟨_, .inr ⟨letter, ['+'], w, hletter, .inr (.inl rfl), hw, rfl⟩, rfl⟩
      · cases (show _ = w ++ rest from hafter)
        exact ⟨_, .inr ⟨letter, ['-'], w, hletter, .inr (.inr rfl), hw, rfl⟩, rfl⟩
      · cases (show after = w ++ rest from hafter)
        exact ⟨_, .inr ⟨letter, [], w, hletter, .inl rfl, hw, rfl⟩, rfl⟩
    · cases h
      exact ⟨[], .inl rfl, rfl⟩
  · cases h
    exact ⟨[], .inl rfl, rfl⟩

theorem head?_exponent_append {exponent rest : Input} (hexponent : IsExponent exponent)
    (hrest : EndsNumeral rest) :
    EndsDigits (exponent ++ rest) ∧ (exponent ++ rest).head? ≠ some (some '.') := by
  rcases hexponent with rfl | ⟨letter, sign, ds, hletter, -, -, rfl⟩
  · exact ⟨endsDigits_of_endsNumeral hrest, fun h => (hrest _ h).2.1 rfl⟩
  · rw [List.cons_append, EndsDigits, List.head?_cons]
    rcases hletter with rfl | rfl
    · exact ⟨by rintro x ⟨⟩; rfl, by decide⟩
    · exact ⟨by rintro x ⟨⟩; rfl, by decide⟩

theorem endsDigits_fraction_append {fraction rest : Input} (hfraction : IsFraction fraction)
    (hrest : EndsDigits rest) : EndsDigits (fraction ++ rest) := by
  rcases hfraction with rfl | ⟨ds, -, rfl⟩
  · exact hrest
  · rintro x ⟨⟩
    rfl

/-- A numeral is passed over where the grammar has one that ends. -/
theorem skipNumber_append {w rest : Input} (hw : IsUnsigned w) (hrest : EndsNumeral rest) :
    skipNumber (w ++ rest) = .ok rest := by
  obtain ⟨whole, fraction, exponent, hwhole, hfraction, hexponent, rfl⟩ := hw
  obtain ⟨hdigits, hpoint⟩ := head?_exponent_append hexponent hrest
  obtain ⟨part, hfractionPart⟩ := fractionPart_append hfraction hdigits hpoint .badNumber
  obtain ⟨power, hexponentPart⟩ := exponentPart_append hexponent hrest .badNumber
  have hread := someDigits_append hwhole.1 (endsDigits_fraction_append hfraction hdigits) .badNumber
  have hzero := mt (superfluous_zero_iff hwhole.1).mp (not_not_intro hwhole)
  rw [List.append_assoc, List.append_assoc, skipNumber, numeral, hread]
  simp only [bind, Except.bind]
  rw [if_neg hzero, hfractionPart]
  simp only [hexponentPart, Except.map]

theorem exists_of_skipNumber {s rest : Input} (h : skipNumber s = .ok rest) :
    ∃ w, IsUnsigned w ∧ s = w ++ rest := by
  obtain ⟨⟨n, after⟩, hnumeral, rfl⟩ := map_eq_ok_iff.mp h
  obtain ⟨⟨ds, s₁⟩, hread, hbehind⟩ := bind_eq_ok_iff.mp hnumeral
  obtain ⟨whole, hdigits, rfl, rfl⟩ := exists_of_someDigits hread
  dsimp only at hbehind
  split at hbehind
  · cases hbehind
  · rename_i hzero
    obtain ⟨⟨part, s₂⟩, hpart, htail⟩ := bind_eq_ok_iff.mp hbehind
    obtain ⟨fraction, hfraction, rfl⟩ := exists_of_fractionPart hpart
    obtain ⟨⟨power, s₃⟩, hpower, hend⟩ := bind_eq_ok_iff.mp htail
    obtain ⟨exponent, hexponent, rfl⟩ := exists_of_exponentPart hpower
    cases hend
    have hwhole : IsWhole whole :=
      Classical.not_not.mp (mt (superfluous_zero_iff hdigits).mpr hzero)
    exact ⟨_, ⟨whole, fraction, exponent, hwhole, hfraction, hexponent, rfl⟩, by simp⟩

end Scan

end Receipts.Json
