import Receipts.Base64

/-!
# Bytes that are written and read

What bytes are written as is read as these bytes, whatever their number, and no other text is. It
has no other characters than the 64 and the equals signs that it is filled up with.
-/

namespace Receipts.Base64

theorem digitValue?_digit : ∀ {n : Nat}, n < 64 → digitValue? (digit n) = some n := by
  decide

theorem digit_ne_filler : ∀ {n : Nat}, n < 64 → digit n ≠ '=' := by
  decide

/-! ## Groups of characters -/

theorem encodeFrom_eq : ∀ (written : List Char) (bytes : List UInt8),
    encodeFrom written bytes = written.reverse ++ encode bytes
  | written, [] => by simp [encode, encodeFrom]
  | written, [a] => by simp [encode, encodeFrom]
  | written, [a, b] => by simp [encode, encodeFrom]
  | written, a :: b :: c :: rest => by
      rw [encode, encodeFrom, encodeFrom, encodeFrom_eq _ rest, encodeFrom_eq _ rest]
      simp

theorem encode_one (a : UInt8) :
    encode [a] = [digit (a.toNat * 16 / 64), digit (a.toNat * 16 % 64), '=', '='] := rfl

theorem encode_two (a b : UInt8) :
    let n := (a.toNat * 256 + b.toNat) * 4
    encode [a, b] = [digit (n / 4096), digit (n / 64 % 64), digit (n % 64), '='] := rfl

theorem encode_three (a b c : UInt8) (rest : List UInt8) :
    let n := (a.toNat * 256 + b.toNat) * 256 + c.toNat
    encode (a :: b :: c :: rest) =
      digit (n / 262144) :: digit (n / 4096 % 64) :: digit (n / 64 % 64) :: digit (n % 64)
        :: encode rest := by
  intro n
  rw [encode, encodeFrom, encodeFrom_eq]
  rfl

theorem decode?_two {n : Nat} (hn : n < 4096) (hfull : n % 16 = 0) :
    decode? [digit (n / 64), digit (n % 64), '=', '='] = some [UInt8.ofNat (n / 16)] := by
  have hsum : n / 64 * 64 + n % 64 = n := by omega
  rw [decode?, digitValue?_digit (by omega), digitValue?_digit (by omega)]
  simp [hsum, hfull]

theorem decode?_three {n : Nat} (hn : n < 262144) (hfull : n % 4 = 0) :
    decode? [digit (n / 4096), digit (n / 64 % 64), digit (n % 64), '='] =
      some [UInt8.ofNat (n / 1024), UInt8.ofNat (n / 4)] := by
  have hsum : (n / 4096 * 64 + n / 64 % 64) * 64 + n % 64 = n := by omega
  rw [decode?, digitValue?_digit (by omega), digitValue?_digit (by omega),
    digitValue?_digit (by omega)]
  · simp [hsum, hfull]
  · exact digit_ne_filler (by omega)

theorem decode?_four {n : Nat} (hn : n < 16777216) (rest : List Char) :
    decode? (digit (n / 262144) :: digit (n / 4096 % 64) :: digit (n / 64 % 64) :: digit (n % 64)
        :: rest) =
      (decode? rest).map fun others =>
        UInt8.ofNat (n / 65536) :: UInt8.ofNat (n / 256) :: UInt8.ofNat n :: others := by
  have hsum : ((n / 262144 * 64 + n / 4096 % 64) * 64 + n / 64 % 64) * 64 + n % 64 = n := by omega
  have hlast : digit (n % 64) ≠ '=' := digit_ne_filler (by omega)
  rw [decode?, digitValue?_digit (by omega), digitValue?_digit (by omega),
    digitValue?_digit (by omega), digitValue?_digit (by omega)]
  · simp only [Option.bind_eq_bind, Option.bind_some, hsum]
    cases decode? rest <;> rfl
  · exact fun _ h _ => hlast h
  · exact fun h _ => hlast h

/-! ## Bytes -/

theorem ofNat_eq_of_mod {n : Nat} {a : UInt8} (h : n % 256 = a.toNat) : UInt8.ofNat n = a := by
  apply UInt8.toNat_inj.mp
  rw [UInt8.toNat_ofNat']
  exact h

/-- What bytes are written as is read as these bytes. -/
theorem decode?_encode : ∀ bytes : List UInt8, decode? (encode bytes) = some bytes
  | [] => rfl
  | [a] => by
      have ha := a.toNat_lt
      refine (decode?_two (n := a.toNat * 16) (by omega) (by omega)).trans ?_
      rw [ofNat_eq_of_mod (a := a) (by omega)]
  | [a, b] => by
      have ha := a.toNat_lt
      have hb := b.toNat_lt
      refine (decode?_three (n := (a.toNat * 256 + b.toNat) * 4) (by omega) (by omega)).trans ?_
      rw [ofNat_eq_of_mod (a := a) (by omega), ofNat_eq_of_mod (a := b) (by omega)]
  | a :: b :: c :: rest => by
      have ha := a.toNat_lt
      have hb := b.toNat_lt
      have hc := c.toNat_lt
      rw [encode_three, decode?_four (by omega), decode?_encode rest, Option.map_some,
        ofNat_eq_of_mod (a := a) (by omega), ofNat_eq_of_mod (a := b) (by omega),
        ofNat_eq_of_mod (a := c) (by omega)]

/-! ## Texts that are read -/

theorem toNat_between {first c last : Char}
    (h : (decide (first ≤ c) && decide (c ≤ last)) = true) :
    first.toNat ≤ c.toNat ∧ c.toNat ≤ last.toNat := by
  simpa [Char.le_def, UInt32.le_iff_toNat_le] using h

/-- A character that has a number is the one for that number. -/
theorem digit_of_digitValue? {c : Char} {n : Nat} (h : digitValue? c = some n) :
    n < 64 ∧ digit n = c := by
  have hself : ∀ {k : Nat}, k = c.toNat → Char.ofNat k = c := by
    rintro _ rfl
    exact Char.ofNat_toNat c
  have hcodes : 'A'.toNat = 65 ∧ 'Z'.toNat = 90 ∧ 'a'.toNat = 97 ∧ 'z'.toNat = 122 ∧
      '0'.toNat = 48 ∧ '9'.toNat = 57 := by decide
  unfold digitValue? at h
  split at h
  · rename_i hupper
    obtain ⟨hfirst, hlast⟩ := toNat_between hupper
    cases h
    refine ⟨by omega, ?_⟩
    rw [digit, if_pos (by omega)]
    exact hself (by omega)
  split at h
  · rename_i hlower
    obtain ⟨hfirst, hlast⟩ := toNat_between hlower
    cases h
    refine ⟨by omega, ?_⟩
    rw [digit, if_neg (by omega), if_pos (by omega)]
    exact hself (by omega)
  split at h
  · rename_i hdigit
    obtain ⟨hfirst, hlast⟩ : '0'.toNat ≤ c.toNat ∧ c.toNat ≤ '9'.toNat := toNat_between hdigit
    cases h
    refine ⟨by omega, ?_⟩
    rw [digit, if_neg (by omega), if_neg (by omega), if_pos (by omega)]
    exact hself (by omega)
  split at h
  · rename_i hplus
    cases h
    exact ⟨by decide, (beq_iff_eq.mp hplus).symm⟩
  split at h
  · rename_i hslash
    cases h
    exact ⟨by decide, (beq_iff_eq.mp hslash).symm⟩
  · cases h

theorem encode_one_ofNat {n : Nat} (hn : n < 4096) (hfull : n % 16 = 0) :
    encode [UInt8.ofNat (n / 16)] = [digit (n / 64), digit (n % 64), '=', '='] := by
  have hbyte : (UInt8.ofNat (n / 16)).toNat * 16 = n := by
    rw [UInt8.toNat_ofNat']
    omega
  rw [encode_one, hbyte]

theorem encode_two_ofNat {n : Nat} (hn : n < 262144) (hfull : n % 4 = 0) :
    encode [UInt8.ofNat (n / 1024), UInt8.ofNat (n / 4)]
      = [digit (n / 4096), digit (n / 64 % 64), digit (n % 64), '='] := by
  have hbytes : ((UInt8.ofNat (n / 1024)).toNat * 256 + (UInt8.ofNat (n / 4)).toNat) * 4 = n := by
    rw [UInt8.toNat_ofNat', UInt8.toNat_ofNat']
    omega
  rw [encode_two, hbytes]

theorem encode_three_ofNat {n : Nat} (hn : n < 16777216) (rest : List UInt8) :
    encode (UInt8.ofNat (n / 65536) :: UInt8.ofNat (n / 256) :: UInt8.ofNat n :: rest)
      = digit (n / 262144) :: digit (n / 4096 % 64) :: digit (n / 64 % 64) :: digit (n % 64)
        :: encode rest := by
  have hbytes : ((UInt8.ofNat (n / 65536)).toNat * 256 + (UInt8.ofNat (n / 256)).toNat) * 256
      + (UInt8.ofNat n).toNat = n := by
    rw [UInt8.toNat_ofNat', UInt8.toNat_ofNat', UInt8.toNat_ofNat']
    omega
  rw [encode_three, hbytes]

/-- A text that is read as bytes is what these bytes are written as. -/
theorem eq_encode_of_decode? {s : List Char} {bytes : List UInt8} (h : decode? s = some bytes) :
    s = encode bytes := by
  -- In each group the numbers of the characters are the digits of one number, and so are the bytes.
  fun_induction decode? s generalizing bytes with
  | case1 =>
      cases h
      rfl
  | case2 a b =>
      simp only [Option.bind_eq_bind, Option.bind_eq_some_iff] at h
      obtain ⟨x, ha, y, hb, h⟩ := h
      obtain ⟨hx, rfl⟩ := digit_of_digitValue? ha
      obtain ⟨hy, rfl⟩ := digit_of_digitValue? hb
      split at h
      · rename_i hfull
        cases h
        rw [encode_one_ofNat (by omega) hfull, show (x * 64 + y) / 64 = x by omega,
          show (x * 64 + y) % 64 = y by omega]
      · cases h
  | case3 a b c _ =>
      simp only [Option.bind_eq_bind, Option.bind_eq_some_iff] at h
      obtain ⟨x, ha, y, hb, z, hc, h⟩ := h
      obtain ⟨hx, rfl⟩ := digit_of_digitValue? ha
      obtain ⟨hy, rfl⟩ := digit_of_digitValue? hb
      obtain ⟨hz, rfl⟩ := digit_of_digitValue? hc
      generalize hn : (x * 64 + y) * 64 + z = n at h
      split at h
      · rename_i hfull
        cases h
        rw [encode_two_ofNat (by omega) hfull, show n / 4096 = x by omega,
          show n / 64 % 64 = y by omega, show n % 64 = z by omega]
      · cases h
  | case4 a b c d rest _ _ ih =>
      simp only [Option.bind_eq_bind, Option.bind_eq_some_iff] at h
      obtain ⟨x, ha, y, hb, z, hc, w, hd, others, hothers, h⟩ := h
      obtain ⟨hx, rfl⟩ := digit_of_digitValue? ha
      obtain ⟨hy, rfl⟩ := digit_of_digitValue? hb
      obtain ⟨hz, rfl⟩ := digit_of_digitValue? hc
      obtain ⟨hw, rfl⟩ := digit_of_digitValue? hd
      generalize hn : ((x * 64 + y) * 64 + z) * 64 + w = n at h
      cases h
      rw [encode_three_ofNat (by omega), show n / 262144 = x by omega,
        show n / 4096 % 64 = y by omega, show n / 64 % 64 = z by omega,
        show n % 64 = w by omega, ← ih hothers]
  | case5 => cases h

/-- Bytes are read from what they are written as, and from no other text. -/
theorem decode?_eq_some_iff {s : List Char} {bytes : List UInt8} :
    decode? s = some bytes ↔ s = encode bytes := by
  constructor
  · exact eq_encode_of_decode?
  · rintro rfl
    exact decode?_encode bytes

/-! ## Characters -/

/-- Whether a character may stand in what bytes are written as. -/
def isWritten (c : Char) : Bool := c == '=' || (digitValue? c).isSome

theorem isWritten_digit {n : Nat} (h : n < 64) : isWritten (digit n) = true := by
  rw [isWritten, digitValue?_digit h, Option.isSome_some, Bool.or_true]

theorem isWritten_of_mem_encode : ∀ {bytes : List UInt8}, ∀ c ∈ encode bytes, isWritten c = true
  | [] => fun c hc => absurd hc List.not_mem_nil
  | [a] => by
      have ha := a.toNat_lt
      rw [encode_one]
      simp only [List.forall_mem_cons]
      exact ⟨isWritten_digit (by omega), isWritten_digit (by omega), rfl, rfl,
        List.forall_mem_nil _⟩
  | [a, b] => by
      have ha := a.toNat_lt
      have hb := b.toNat_lt
      rw [encode_two]
      simp only [List.forall_mem_cons]
      exact ⟨isWritten_digit (by omega), isWritten_digit (by omega), isWritten_digit (by omega),
        rfl, List.forall_mem_nil _⟩
  | a :: b :: c :: rest => by
      have ha := a.toNat_lt
      have hb := b.toNat_lt
      have hc := c.toNat_lt
      rw [encode_three]
      simp only [List.forall_mem_cons]
      exact ⟨isWritten_digit (by omega), isWritten_digit (by omega), isWritten_digit (by omega),
        isWritten_digit (by omega), isWritten_of_mem_encode⟩

theorem not_mem_encode {c : Char} (h : isWritten c = false) (bytes : List UInt8) :
    c ∉ encode bytes := by
  intro hmem
  rw [isWritten_of_mem_encode c hmem] at h
  cases h

end Receipts.Base64
