import Receipts.Proofs.Template.Scan

/-!
# What blanking leaves

Blanking takes the placeholders out of a text and joins what stood around them. What it leaves can
contain a token that was not in the text before: one that was torn, with placeholders standing
inside it. For a key without a closing brace the tear can only be between the two closing braces,
since an opening before a placeholder would have been read as part of its name.
-/

namespace Receipts.Template

/-- The text without its placeholders. -/
abbrev blanked (s : List Char) : List Char :=
  fill (fun _ => []) s

/-- The characters of pieces that stand outside placeholders. -/
def bare (found : List (Text.Piece (List Char))) : List Char :=
  found.flatMap (Text.Piece.expand fun _ => [])

theorem blanked_eq_bare (s : List Char) : blanked s = bare (pieces s) := rfl

/-- Filling every placeholder with its own token gives the text back. -/
theorem fill_token_self (s : List Char) : fill token s = s := by
  induction s using fill_induction with
  | nil => rfl
  | plain c s h ih => rw [fill_cons token h, ih]
  | hit name s hname ih => rw [fill_token token hname, ih]

/-- A cut through the bare characters is a cut through the pieces. -/
theorem bare_eq_append {found : List (Text.Piece (List Char))} {a b : List Char}
    (h : bare found = a ++ b) :
    ∃ left right, found = left ++ right ∧ bare left = a ∧ bare right = b := by
  induction found generalizing a with
  | nil =>
      obtain ⟨rfl, rfl⟩ : a = [] ∧ b = [] := by simpa [bare] using h
      exact ⟨[], [], rfl, rfl, rfl⟩
  | cons piece found ih =>
      cases piece with
      | hit name =>
          obtain ⟨left, right, rfl, hleft, hright⟩ := ih (a := a) h
          exact ⟨.hit name :: left, right, rfl, hleft, hright⟩
      | plain c =>
          have hc : c :: bare found = a ++ b := h
          cases a with
          | nil => exact ⟨[], .plain c :: found, rfl, rfl, hc⟩
          | cons d a =>
              obtain ⟨rfl, hrest⟩ : c = d ∧ bare found = a ++ b := by simpa using hc
              obtain ⟨left, right, rfl, hleft, hright⟩ := ih hrest
              exact ⟨.plain c :: left, right, rfl, congrArg (c :: ·) hleft, hright⟩

/-- What stands in the blanked text is spelled by neighbouring pieces. -/
theorem infix_blanked_iff {w s : List Char} :
    w <:+: blanked s ↔ ∃ inside, inside <:+: pieces s ∧ bare inside = w := by
  constructor
  · rintro ⟨a, b, hab⟩
    rw [blanked_eq_bare, List.append_assoc] at hab
    obtain ⟨before, rest, hrest, -, hbare⟩ := bare_eq_append hab.symm
    obtain ⟨inside, after, rfl, hinside, -⟩ := bare_eq_append hbare
    exact ⟨inside, ⟨before, after, by rw [hrest, List.append_assoc]⟩, hinside⟩
  · rintro ⟨inside, ⟨before, after, h⟩, rfl⟩
    exact ⟨bare before, bare after, by rw [blanked_eq_bare, ← h]; simp [bare]⟩

/-- Pieces without placeholders spell what stands in the text. -/
theorem spelled_of_no_hit {inside : List (Text.Piece (List Char))} {s : List Char}
    (h : inside <:+: pieces s) (hplain : ∀ name, .hit name ∉ inside) : bare inside <:+: s := by
  obtain ⟨before, after, hpieces⟩ := h
  have hsame : inside.flatMap (Text.Piece.expand token) = bare inside := by
    refine List.flatMap_congr fun piece hm => ?_
    cases piece with
    | plain c => rfl
    | hit name => exact absurd hm (hplain name)
  refine ⟨before.flatMap (Text.Piece.expand token), after.flatMap (Text.Piece.expand token), ?_⟩
  have hs : (pieces s).flatMap (Text.Piece.expand token) = s := fill_token_self s
  rw [← hsame, ← List.flatMap_append, ← List.flatMap_append, hpieces, hs]

/-- A text is spliced from the pieces of another when they stand side by side there and a
placeholder is among them. -/
def Spliced (w s : List Char) : Prop :=
  ∃ inside, inside <:+: pieces s ∧ bare inside = w ∧ ∃ name, Text.Piece.hit name ∈ inside

/-- What was not in the text before is spliced. -/
theorem infix_blanked_iff_spliced {w s : List Char} (h : ¬ w <:+: s) :
    w <:+: blanked s ↔ Spliced w s := by
  rw [infix_blanked_iff]
  constructor
  · rintro ⟨inside, hin, rfl⟩
    by_contra hnone
    exact h (spelled_of_no_hit hin fun name hm => hnone ⟨inside, hin, rfl, name, hm⟩)
  · rintro ⟨inside, hin, hbare, -⟩
    exact ⟨inside, hin, hbare⟩

/-! ## Torn tokens -/

/-- A token with placeholders between its closing braces. -/
def torn (key : List Char) (names : List (List Char)) : List Char :=
  '{' :: '{' :: (key ++ '}' :: (tokens names ++ ['}']))

/-- A text in which a token is torn. -/
def HasTorn (key s : List Char) : Prop :=
  ∃ names, names ≠ [] ∧ (∀ name ∈ names, IsName name) ∧ torn key names <:+: s

theorem HasTorn.mono {key s t : List Char} (h : HasTorn key s) (hst : s <:+: t) :
    HasTorn key t := by
  obtain ⟨names, hne, hnames, hin⟩ := h
  exact ⟨names, hne, hnames, hin.trans hst⟩

theorem torn_nil (key : List Char) : torn key [] = token key := by
  simp [torn, tokens, token]

section Filling

variable {image : List Char → List Char}

/-- If no placeholder stands at the front, the first character that filling leaves is the first of
the text. -/
theorem cons_prefix_fill {d : Char} {y s : List Char}
    (h : ∀ name, IsName name → ¬ token name <+: s) (hp : d :: y <+: fill image s) :
    ∃ t, s = d :: t ∧ y <+: fill image t := by
  cases s with
  | nil => simp [fill_nil] at hp
  | cons c t =>
      rw [fill_cons _ h, List.cons_prefix_cons] at hp
      exact ⟨t, by rw [hp.1], hp.2⟩

/-- A placeholder behind an opening would have been read as part of the name. -/
theorem token_prefix_of_opening {x name s : List Char} (hx : '}' ∉ x) (hname : IsName name)
    (h : token name <+: s) :
    ∃ name', IsName name' ∧ token name' <+: '{' :: '{' :: (x ++ s) := by
  obtain ⟨rest, rfl⟩ := h
  refine ⟨x ++ '{' :: '{' :: name, ⟨by simp, by simp [hx, hname.2]⟩, rest, ?_⟩
  simp [token_append]

/-- Behind an opening that is not read as a placeholder, the text that filling leaves is up to the
next closing brace the text itself. -/
theorem prefix_fill_of_opening {x y s : List Char} (x₀ : List Char) (hx : '}' ∉ x)
    (hx₀ : '}' ∉ x₀)
    (hs : ∀ name, IsName name → ¬ token name <+: '{' :: '{' :: (x₀ ++ s))
    (hp : x ++ '}' :: y <+: fill image s) : ∃ t, s = x ++ '}' :: t ∧ y <+: fill image t := by
  induction x generalizing x₀ s with
  | nil =>
      refine cons_prefix_fill (fun name hname h => ?_) hp
      obtain ⟨name', hname', h'⟩ := token_prefix_of_opening hx₀ hname h
      exact hs name' hname' h'
  | cons d x ih =>
      obtain ⟨t, rfl, ht⟩ := cons_prefix_fill (fun name hname h => by
        obtain ⟨name', hname', h'⟩ := token_prefix_of_opening hx₀ hname h
        exact hs name' hname' h') hp
      obtain ⟨u, rfl, hu⟩ := ih (x₀ ++ [d]) (fun hm => hx (List.mem_cons_of_mem _ hm))
        (by simpa [hx₀] using fun hd => hx (by simp [← hd]))
        (by simpa using hs) ht
      exact ⟨u, rfl, hu⟩

/-- If no image begins with a closing brace, one that filling leaves at the front stood behind
placeholders with empty images. -/
theorem closing_prefix_fill (himage : ∀ name, '}' ∉ (image name).head?) {s : List Char}
    (h : ['}'] <+: fill image s) :
    ∃ names t, (∀ name ∈ names, IsName name ∧ image name = []) ∧ s = tokens names ++ '}' :: t := by
  induction s using fill_induction with
  | nil => simp [fill_nil] at h
  | plain c s hs _ =>
      rw [fill_cons _ hs, List.cons_prefix_cons] at h
      exact ⟨[], s, by simp, by simp [tokens, ← h.1]⟩
  | hit name s hname ih =>
      rw [fill_token _ hname] at h
      cases hempty : image name with
      | nil =>
          rw [hempty, List.nil_append] at h
          obtain ⟨names, t, hnames, rfl⟩ := ih h
          exact ⟨name :: names, t, by simpa using ⟨⟨hname, hempty⟩, hnames⟩, by simp [tokens]⟩
      | cons c w =>
          rw [hempty, List.cons_append, List.cons_prefix_cons] at h
          exact absurd (by rw [hempty, ← h.1]; rfl) (himage name)

/-- A token that filling leaves behind a character of the text was torn there, or stood there. -/
theorem torn_prefix_of_token_prefix_fill (himage : ∀ name, '}' ∉ (image name).head?)
    {key s : List Char} {c : Char} (hkey : '}' ∉ key)
    (hs : ∀ name, IsName name → ¬ token name <+: c :: s)
    (h : token key <+: c :: fill image s) :
    ∃ names, (∀ name ∈ names, IsName name ∧ image name = []) ∧ torn key names <+: c :: s := by
  rw [token, List.cons_prefix_cons] at h
  obtain ⟨rfl, h⟩ := h
  -- A placeholder right behind one opening brace would begin with that brace.
  obtain ⟨t, rfl, ht⟩ := cons_prefix_fill (fun name hname hp => by
    obtain ⟨rest, rfl⟩ := hp
    exact hs ('{' :: name) ⟨by simp, by simp [hname.2]⟩ ⟨rest, by simp [token_append]⟩) h
  obtain ⟨u, rfl, hu⟩ := prefix_fill_of_opening [] hkey (by simp) (by simpa using hs) ht
  obtain ⟨names, rest, hnames, rfl⟩ := closing_prefix_fill himage hu
  exact ⟨names, hnames, rest, by simp [torn]⟩

end Filling

/-- A token in the blanked text was torn, or is the empty token and was there before. -/
theorem hasTorn_of_token_infix {key s : List Char} (hkey : '}' ∉ key)
    (h : token key <:+: blanked s) : HasTorn key s ∨ (key = [] ∧ token [] <:+: s) := by
  induction s using fill_induction with
  | nil => simp [blanked, fill_nil, token] at h
  | hit name s hname ih =>
      rw [blanked, fill_token _ hname, List.nil_append] at h
      have hin : s <:+: token name ++ s := (List.suffix_append _ s).isInfix
      exact (ih h).imp (fun ht => ht.mono hin) fun ht => ⟨ht.1, ht.2.trans hin⟩
  | plain c s hs ih =>
      rw [blanked, fill_cons _ hs, List.infix_cons_iff] at h
      rcases h with h | h
      · obtain ⟨names, hnames, hfront⟩ :=
          torn_prefix_of_token_prefix_fill (by simp) hkey hs h
        by_cases hne : names = []
        · rw [hne, torn_nil] at hfront
          by_cases hempty : key = []
          · exact .inr ⟨hempty, hempty ▸ hfront.isInfix⟩
          · exact absurd hfront (hs key ⟨hempty, hkey⟩)
        · exact .inl ⟨names, hne, fun name hm => (hnames name hm).1, hfront.isInfix⟩
      · have hin : s <:+: c :: s := (List.suffix_cons c s).isInfix
        exact (ih h).imp (fun ht => ht.mono hin) fun ht => ⟨ht.1, ht.2.trans hin⟩

/-- No token reaches from the text before into a text whose first closing brace is followed by
another character. -/
theorem token_prefix_append {x y b name : List Char} {c : Char} (hx : x ≠ []) (hx' : '}' ∉ x)
    (hc : c ≠ '}') (hname : IsName name) (h : token name <+: b ++ (x ++ '}' :: c :: y)) :
    token name <+: b := by
  rcases List.prefix_or_prefix_of_prefix h (List.prefix_append b _) with hp | ⟨e, he⟩
  · exact hp
  · have hcut : e <+: x ++ '}' :: c :: y := by
      rw [← he, List.prefix_append_right_inj] at h
      exact h
    -- What reaches over is the end of the token, so it is `}` or has no `}` before its last two.
    rcases List.append_eq_append_iff.mp (he.trans (show token name
      = ('{' :: '{' :: name) ++ ['}', '}'] by simp [token])) with ⟨u, hu, hu'⟩ | ⟨u, hu, hu'⟩
    · obtain ⟨rest, hrest⟩ := hcut
      have hfree : '}' ∉ u := fun hm => by
        have : '}' ∈ '{' :: '{' :: name := hu ▸ List.mem_append_right _ hm
        simp [hname.2] at this
      have hright : u ++ '}' :: '}' :: rest = x ++ '}' :: c :: y := by
        rw [← hrest, hu', List.append_assoc]
        rfl
      have hdrop := congrArg (List.dropWhile (· != '}')) hright
      rw [Text.dropWhile_stop hfree, Text.dropWhile_stop hx'] at hdrop
      exact absurd (by simpa using hdrop : '}' = c ∧ rest = y).1.symm hc
    · cases e with
      | nil => exact ⟨[], by simpa using he.symm⟩
      | cons d e =>
          obtain ⟨a, x, rfl⟩ := List.exists_cons_of_ne_nil hx
          obtain ⟨rfl, -⟩ : d = a ∧ _ := by simpa [List.cons_prefix_cons] using hcut
          have : d ∈ ['}', '}'] := hu' ▸ by simp
          exact absurd (by simpa using this : d = '}') fun h => hx' (by simp [h])

/-- The text before an opening whose name breaks off at one closing brace is filled by itself. -/
theorem fill_append_opening (image : List Char → List Char) (a : List Char) {x y : List Char}
    {c : Char} (hx : x ≠ []) (hx' : '}' ∉ x) (hc : c ≠ '}') :
    fill image (a ++ (x ++ '}' :: c :: y)) = fill image a ++ fill image (x ++ '}' :: c :: y) := by
  induction a using fill_induction with
  | nil => simp [fill_nil]
  | plain d s hs ih =>
      have hs' : ∀ name, IsName name → ¬ token name <+: d :: (s ++ (x ++ '}' :: c :: y)) :=
        fun name hname h => hs name hname (token_prefix_append (b := d :: s) hx hx' hc hname h)
      rw [List.cons_append, fill_cons image hs', fill_cons image hs, ih, List.cons_append]
  | hit name s hname ih =>
      rw [List.append_assoc, fill_token image hname, fill_token image hname, ih,
        List.append_assoc]

/-- Such an opening stays as it is up to its closing brace. -/
theorem fill_opening (image : List Char → List Char) {x y : List Char} {c : Char}
    (hx' : '}' ∉ x) (hc : c ≠ '}') :
    fill image (x ++ '}' :: c :: y) = x ++ '}' :: fill image (c :: y) := by
  have hnone : ∀ b, b <:+ x ++ ['}'] → b ≠ [] → ∀ name, IsName name →
      ¬ token name <+: b ++ c :: y := by
    rintro b ⟨a, ha⟩ hne name hname hp
    rcases List.eq_nil_or_concat b with rfl | ⟨b, d, rfl⟩
    · exact hne rfl
    · obtain ⟨hxb, rfl⟩ : a ++ b = x ∧ d = '}' := by
        rw [List.concat_eq_append, ← List.append_assoc] at ha
        simpa using List.append_inj' ha rfl
      have hb : '}' ∉ b := fun hm => hx' (hxb ▸ List.mem_append_right _ hm)
      have hp' : token name <+: [] ++ (b ++ '}' :: c :: y) := by simpa using hp
      by_cases hnil : b = []
      · subst hnil
        simp [token] at hp
      · simpa [token] using token_prefix_append hnil hb hc hname hp'
  have := fill_append image (x ++ ['}']) (c :: y) hnone
  simpa using this

theorem blanked_tokens (names : List (List Char)) (hnames : ∀ name ∈ names, IsName name)
    (s : List Char) : blanked (tokens names ++ s) = blanked s := by
  induction names with
  | nil => rfl
  | cons name names ih =>
      have hrest := ih fun n hn => hnames n (List.mem_cons_of_mem _ hn)
      rw [← hrest, tokens, List.flatMap_cons, List.append_assoc, blanked,
        fill_token _ (hnames name List.mem_cons_self)]
      rfl

/-- Blanking puts a torn token together. -/
theorem token_infix_of_hasTorn {key s : List Char} (hkey : '}' ∉ key) (h : HasTorn key s) :
    token key <:+: blanked s := by
  obtain ⟨names, hne, hnames, a, b, rfl⟩ := h
  obtain ⟨name, names, rfl⟩ := List.exists_cons_of_ne_nil hne
  have hopen : '}' ∉ '{' :: '{' :: key := by simp [hkey]
  obtain ⟨y, hy⟩ : ∃ y, tokens (name :: names) ++ '}' :: b = '{' :: y :=
    ⟨_, by simp [tokens, token]; rfl⟩
  have hb : blanked ('}' :: b) = '}' :: blanked b :=
    fill_cons _ fun name _ hp => by simp [token] at hp
  have htorn : a ++ torn key (name :: names) ++ b
      = a ++ (('{' :: '{' :: key) ++ '}' :: '{' :: y) := by
    rw [← hy]
    simp [torn]
  rw [htorn, blanked, fill_append_opening _ _ (by simp) hopen (by decide),
    fill_opening _ hopen (by decide), ← hy]
  change token key <:+: blanked a ++ ('{' :: '{' :: key ++ '}' :: blanked _)
  rw [blanked_tokens _ hnames, hb]
  exact ⟨blanked a, blanked b, by simp [token]⟩

end Receipts.Template
