import Mathlib.Tactic.Common
import Receipts.Text.Utf8

/-!
# Texts that are written and read in UTF-8

The bytes of a text are read as its characters, and none of them is a stray. A byte of ASCII among
them stands for itself, since the encodings of other characters have no such byte.
-/

namespace Receipts.Text

/-! ## One character -/

/-- The numbers that characters have. -/
theorem toNat_range (c : Char) : c.toNat < 0xD800 ∨ 0xDFFF < c.toNat ∧ c.toNat < 0x110000 :=
  c.valid

theorem toNat_ofNat_of_lt {n : Nat} (h : n < 256) : (UInt8.ofNat n).toNat = n := by
  rw [UInt8.toNat_ofNat']
  omega

theorem isContinuation_ofNat {n : Nat} (hlow : 128 ≤ n) (hhigh : n ≤ 191) :
    isContinuation (UInt8.ofNat n) = true := by
  have h := toNat_ofNat_of_lt (n := n) (by omega)
  simp only [isContinuation, Bool.and_eq_true, decide_eq_true_eq, UInt8.le_iff_toNat_le, h]
  exact ⟨hlow, hhigh⟩

theorem isSecond_ofNat {lead n : Nat} (hlead : lead < 256) (hlow : 128 ≤ n) (hhigh : n ≤ 191)
    (hE0 : lead = 0xE0 → 0xA0 ≤ n) (hED : lead = 0xED → n ≤ 0x9F) (hF0 : lead = 0xF0 → 0x90 ≤ n)
    (hF4 : lead = 0xF4 → n ≤ 0x8F) : isSecond (UInt8.ofNat lead) (UInt8.ofNat n) = true := by
  have hfirst := toNat_ofNat_of_lt hlead
  have hsecond := toNat_ofNat_of_lt (n := n) (by omega)
  simp only [isSecond, secondByteRange, beq_iff_eq, ← UInt8.toNat_inj, hfirst]
  split_ifs <;> simp [UInt8.le_iff_toNat_le, hsecond] <;> grind

theorem lowBits_ofNat (n : Nat) : lowBits (UInt8.ofNat (n % 64 + 128)) = n % 64 := by
  rw [lowBits, toNat_ofNat_of_lt (by omega)]
  omega

theorem readSymbol_one {n : Nat} (h : n ≤ 127) (rest : List UInt8) :
    readSymbol (UInt8.ofNat n) rest = (some (Char.ofNat n), 0) := by
  have hlead := toNat_ofNat_of_lt (n := n) (by omega)
  have hsmall : UInt8.ofNat n < 0x80 := by
    rw [UInt8.lt_iff_toNat_lt, hlead]
    exact Nat.lt_succ_of_le h
  rw [readSymbol.eq_def, if_pos hsmall, hlead]

theorem readSymbol_two {n : Nat} (hlow : 127 < n) (hhigh : n ≤ 2047) (rest : List UInt8) :
    readSymbol (UInt8.ofNat (n / 64 % 32 + 192)) (UInt8.ofNat (n % 64 + 128) :: rest) =
      (some (Char.ofNat n), 1) := by
  have hlead := toNat_ofNat_of_lt (n := n / 64 % 32 + 192) (by omega)
  have hsecond := isContinuation_ofNat (n := n % 64 + 128) (by omega) (by omega)
  have hsum : (n / 64 % 32 + 192) % 32 * 64 + n % 64 = n := by omega
  rw [readSymbol.eq_def]
  simp only [UInt8.lt_iff_toNat_lt, UInt8.le_iff_toNat_le, hlead, hsecond, lowBits_ofNat, hsum]
  rw [if_neg (by simp), if_pos (by simp; omega), if_pos trivial]

theorem readSymbol_three {n : Nat} (hlow : 2047 < n) (hhigh : n ≤ 65535)
    (hchar : n < 0xD800 ∨ 0xDFFF < n) (rest : List UInt8) :
    readSymbol (UInt8.ofNat (n / 4096 % 16 + 224))
        (UInt8.ofNat (n / 64 % 64 + 128) :: UInt8.ofNat (n % 64 + 128) :: rest) =
      (some (Char.ofNat n), 2) := by
  have hlead := toNat_ofNat_of_lt (n := n / 4096 % 16 + 224) (by omega)
  have hsecond : isSecond (UInt8.ofNat (n / 4096 % 16 + 224)) (UInt8.ofNat (n / 64 % 64 + 128))
      = true := by
    apply isSecond_ofNat <;> omega
  have hthird := isContinuation_ofNat (n := n % 64 + 128) (by omega) (by omega)
  have hsum : (n / 4096 % 16 + 224) % 16 * 4096 + n / 64 % 64 * 64 + n % 64 = n := by omega
  rw [readSymbol.eq_def]
  simp only [UInt8.lt_iff_toNat_lt, UInt8.le_iff_toNat_le, hlead, hsecond, hthird, lowBits_ofNat,
    hsum]
  rw [if_neg (by simp), if_neg (by simp), if_pos (by simp; omega), if_pos trivial, if_pos trivial]

theorem readSymbol_four {n : Nat} (hlow : 65535 < n) (hhigh : n < 0x110000) (rest : List UInt8) :
    readSymbol (UInt8.ofNat (n / 262144 % 8 + 240))
        (UInt8.ofNat (n / 4096 % 64 + 128) :: UInt8.ofNat (n / 64 % 64 + 128)
          :: UInt8.ofNat (n % 64 + 128) :: rest) =
      (some (Char.ofNat n), 3) := by
  have hlead := toNat_ofNat_of_lt (n := n / 262144 % 8 + 240) (by omega)
  have hsecond : isSecond (UInt8.ofNat (n / 262144 % 8 + 240))
      (UInt8.ofNat (n / 4096 % 64 + 128)) = true := by
    apply isSecond_ofNat <;> omega
  have hthird := isContinuation_ofNat (n := n / 64 % 64 + 128) (by omega) (by omega)
  have hfourth := isContinuation_ofNat (n := n % 64 + 128) (by omega) (by omega)
  have hsum : (n / 262144 % 8 + 240) % 8 * 262144 + n / 4096 % 64 * 4096 + n / 64 % 64 * 64
      + n % 64 = n := by omega
  rw [readSymbol.eq_def]
  simp only [UInt8.lt_iff_toNat_lt, UInt8.le_iff_toNat_le, hlead, hsecond, hthird, hfourth,
    lowBits_ofNat, hsum]
  rw [if_neg (by simp), if_neg (by simp), if_neg (by simp), if_pos (by simp; omega),
    if_pos trivial, if_pos trivial, if_pos trivial]

/-- The bytes of a character are read as this character, whatever follows them. -/
theorem exists_readSymbol (c : Char) : ∃ lead more, String.utf8EncodeChar c = lead :: more ∧
    ∀ rest, readSymbol lead (more ++ rest) = (some c, more.length) := by
  have hrange := toNat_range c
  have hchar := Char.ofNat_toNat c
  rw [String.utf8EncodeChar]
  simp only [Char.toNat_val]
  split_ifs with h1 h2 h3
  · refine ⟨_, _, rfl, fun rest => ?_⟩
    rw [readSymbol_one h1, hchar]
    rfl
  · refine ⟨_, _, rfl, fun rest => ?_⟩
    rw [List.cons_append, readSymbol_two (by omega) h2, hchar]
    rfl
  · refine ⟨_, _, rfl, fun rest => ?_⟩
    rw [List.cons_append, List.cons_append, readSymbol_three (by omega) h3 (by omega), hchar]
    rfl
  · refine ⟨_, _, rfl, fun rest => ?_⟩
    rw [List.cons_append, List.cons_append, List.cons_append,
      readSymbol_four (by omega) (by omega), hchar]
    rfl

theorem utf8EncodeChar_of_ascii {c : Char} (h : c.toNat ≤ 127) :
    String.utf8EncodeChar c = [UInt8.ofNat c.toNat] := by
  rw [String.utf8EncodeChar]
  simp only [Char.toNat_val]
  rw [if_pos h]

/-- A byte of ASCII among the bytes of a character is that character. -/
theorem toNat_eq_of_mem_utf8EncodeChar {c : Char} {b : UInt8} (hb : b ∈ String.utf8EncodeChar c)
    (h : b.toNat < 128) : c.toNat = b.toNat := by
  rw [String.utf8EncodeChar] at hb
  simp only [Char.toNat_val] at hb
  split_ifs at hb with h1 h2 h3
  · rw [List.mem_singleton] at hb
    rw [hb, toNat_ofNat_of_lt (by omega)]
  all_goals
    simp only [List.mem_cons, List.not_mem_nil, or_false] at hb
    exfalso
    rcases hb with rfl | rfl | rfl | rfl <;> rw [toNat_ofNat_of_lt (by omega)] at h <;> omega

/-! ## Texts -/

theorem collectSymbols_skip (found : List Symbol) (more rest : List UInt8) :
    collectSymbols found more.length (more ++ rest) = collectSymbols found 0 rest := by
  induction more with
  | nil => rfl
  | cons b more ih => exact ih

theorem collectSymbols_utf8 (found : List Symbol) (s : List Char) :
    collectSymbols found 0 (s.flatMap String.utf8EncodeChar) = found.reverse ++ s.map some := by
  induction s generalizing found with
  | nil => simp [collectSymbols]
  | cons c s ih =>
      obtain ⟨lead, more, hbytes, hread⟩ := exists_readSymbol c
      rw [List.flatMap_cons, hbytes, List.cons_append, collectSymbols]
      simp only [hread, collectSymbols_skip]
      rw [ih]
      simp

/-- The bytes of a text are read as its characters. -/
theorem symbols_utf8 (s : String) : symbols (utf8 s) = s.toList.map some := by
  rw [symbols, utf8, collectSymbols_utf8]
  rfl

theorem mapM_id_map_some {α : Type} (s : List α) : (s.map some).mapM id = some s := by
  induction s with
  | nil => rfl
  | cons c s ih =>
      rw [List.map_cons, List.mapM_cons, ih]
      rfl

/-- A text is read back from its bytes. -/
theorem ofUtf8?_utf8 (s : String) : ofUtf8? (utf8 s) = some s := by
  rw [ofUtf8?, symbols_utf8, mapM_id_map_some, Option.map_some, String.ofList_toList]

/-- A byte of ASCII among the bytes of a text is a character of the text. -/
theorem exists_mem_of_mem_utf8 {s : String} {b : UInt8} (hb : b ∈ utf8 s) (h : b.toNat < 128) :
    ∃ c ∈ s.toList, c.toNat = b.toNat := by
  rw [utf8, List.mem_flatMap] at hb
  obtain ⟨c, hc, hb⟩ := hb
  exact ⟨c, hc, toNat_eq_of_mem_utf8EncodeChar hb h⟩

theorem not_mem_utf8 {s : String} {b : UInt8} (h : b.toNat < 128)
    (hs : Char.ofNat b.toNat ∉ s.toList) : b ∉ utf8 s := by
  intro hb
  obtain ⟨c, hc, hnumber⟩ := exists_mem_of_mem_utf8 hb h
  rw [← hnumber, Char.ofNat_toNat] at hs
  exact hs hc

/-- A text of ASCII has a byte for each character. -/
theorem utf8_of_ascii {s : String} (h : ∀ c ∈ s.toList, c.toNat ≤ 127) :
    utf8 s = s.toList.map fun c => UInt8.ofNat c.toNat := by
  rw [utf8, List.flatMap_def, List.map_congr_left fun c hc => utf8EncodeChar_of_ascii (h c hc),
    ← List.flatMap_def]
  exact List.map_eq_flatMap.symm

theorem utf8_append (s t : String) : utf8 (s ++ t) = utf8 s ++ utf8 t := by
  rw [utf8, String.toList_append, List.flatMap_append]
  rfl

end Receipts.Text
