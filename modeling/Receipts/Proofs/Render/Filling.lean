import Receipts.Proofs.Render.SuppliedTokens
import Receipts.Proofs.Template.Fields

/-!
# Rendering and the scan

Rendering searches for one key after the other in a text that it has edited already, and the scan
reads placeholders from the left just once. With values for exactly the names that the scan finds,
and without braces in the values, both agree on what a placeholder is if no token is replaced inside
another, and if no token is put together by values that are empty. Neither condition can be left
out.
-/

namespace Receipts

open Template (IsName fill placeholder token tokens torn)
open Text (hits replaceAll)

/-- A text without braces. -/
def IsBraceless (w : List Char) : Prop :=
  '{' ∉ w ∧ '}' ∉ w

instance (w : List Char) : Decidable (IsBraceless w) :=
  inferInstanceAs (Decidable ('{' ∉ w ∧ '}' ∉ w))

theorem not_token_prefix_of_braceless {key w b rest : List Char} (hw : IsBraceless w)
    (hb : b <:+ w) (hne : b ≠ []) : ¬ token key <+: b ++ rest := by
  obtain ⟨c, b, rfl⟩ := List.exists_cons_of_ne_nil hne
  intro h
  obtain ⟨rfl, -⟩ : '{' = c ∧ _ := by simpa [token, List.cons_prefix_cons] using h
  exact hw.1 (hb.subset List.mem_cons_self)

/-! ## Placeholders filled key by key -/

section Images

variable {image : List Char → List Char}

/-- Images under which a filled text has its old placeholders and texts without braces. -/
def KeepsTokens (image : List Char → List Char) : Prop :=
  ∀ name, image name = token name ∨ IsBraceless (image name)

theorem KeepsTokens.head_ne (h : KeepsTokens image) (name : List Char) :
    '}' ∉ (image name).head? := by
  rcases h name with hname | hname
  · simp [hname, token]
  · exact fun hm => hname.2 (List.mem_of_mem_head? hm)

/-- No token is torn in a text between placeholders with empty images. -/
def LeavesWhole (image : List Char → List Char) (s : List Char) : Prop :=
  ∀ key names, IsName key → names ≠ [] → (∀ name ∈ names, IsName name ∧ image name = []) →
    ¬ torn key names <:+: s

theorem LeavesWhole.mono {s t : List Char} (h : LeavesWhole image t) (hst : s <:+: t) :
    LeavesWhole image s :=
  fun key names hkey hne hnames hin => h key names hkey hne hnames (hin.trans hst)

theorem LeavesWhole.not_token_prefix {key s : List Char} {c : Char}
    (h : LeavesWhole image (c :: s)) (himage : KeepsTokens image) (hkey : IsName key)
    (hs : ∀ name, IsName name → ¬ token name <+: c :: s) : ¬ token key <+: c :: fill image s := by
  intro hp
  obtain ⟨names, hnames, htorn⟩ :=
    Template.torn_prefix_of_token_prefix_fill himage.head_ne hkey.2 hs hp
  by_cases hne : names = []
  · rw [hne, Template.torn_nil] at htorn
    exact hs key hkey htorn
  · exact h key names hkey hne hnames htorn.isInfix

theorem LeavesWhole.not_token_infix {s : List Char} (h : LeavesWhole image s)
    (himage : ∀ name, IsBraceless (image name)) {key : List Char} (hkey : IsName key) :
    ¬ token key <:+: fill image s := by
  induction s using Template.fill_induction with
  | nil => simp [Template.fill_nil, token]
  | plain c s hs ih =>
      rw [Template.fill_cons image hs, List.infix_cons_iff]
      rintro (hp | hin)
      · exact h.not_token_prefix (fun name => .inr (himage name)) hkey hs hp
      · exact ih (h.mono (List.suffix_cons c s).isInfix) hin
  | hit name s hname ih =>
      rw [Template.fill_token image hname]
      intro hin
      exact ih (h.mono (List.suffix_append _ s).isInfix)
        (Text.infix_of_infix_append (himage name).1 hin)

/-- Replacing a token that is still in place fills its placeholders and changes nothing else, if it
ends no other token that is still in place. -/
theorem replaceAll_fill {s key : List Char} (value : List Char) (himage : KeepsTokens image)
    (hkey : IsName key) (hplace : image key = token key) (hwhole : LeavesWhole image s)
    (hends : ∀ name ∈ hits placeholder s, image name = token name →
      token key <:+ token name → name = key) :
    replaceAll (token key) value (fill image s)
      = fill (fun name => if name = key then value else image name) s := by
  have hne := Template.token_ne_nil key
  induction s using Template.fill_induction with
  | nil => exact Text.replaceAll_nil value hne
  | plain c s hs ih =>
      rw [Template.hits_cons hs] at hends
      rw [Template.fill_cons _ hs, Template.fill_cons _ hs,
        Text.replaceAll_cons value hne (hwhole.not_token_prefix himage hkey hs),
        ih (hwhole.mono (List.suffix_cons c s).isInfix) hends]
  | hit name s hname ih =>
      rw [Template.hits_token hname] at hends
      have hrest := ih (hwhole.mono (List.suffix_append _ s).isInfix)
        fun other hm => hends other (List.mem_cons_of_mem name hm)
      rw [Template.fill_token _ hname, Template.fill_token _ hname, ← hrest]
      by_cases heq : name = key
      · rw [if_pos heq, heq, hplace, Text.replaceAll_append_left value hne]
      · rw [if_neg heq]
        refine Text.replaceAll_append value hne _ _ fun b hb hb' hp => ?_
        rcases himage name with hsame | hfree
        · -- A token that begins inside the one still in place ends it.
          rw [hsame] at hb
          have hcut := Template.eq_token_of_prefix_append hname.2 hkey.2 hb hb' hp
          exact heq (hends name List.mem_cons_self hsame (hcut ▸ hb))
        · exact not_token_prefix_of_braceless hfree hb hb' hp

end Images

/-! ## A pass over the keys -/

variable {values : FormValues}

/-- Values without braces. -/
def FormValues.IsBraceless (values : FormValues) : Prop :=
  ∀ key value, values.get? key = some value → Receipts.IsBraceless value.toList

/-- The values are for exactly the names that a template asks for. -/
def FormValues.AreFor (values : FormValues) (template : String) : Prop :=
  ∀ key, values.contains key = true ↔ key ∈ (Form.ofHtml template).keys

/-- Of two tokens of which one ends the other, the longer one is replaced first. -/
def FormValues.OrdersNested (values : FormValues) : Prop :=
  ∀ key other, values.contains key = true → values.contains other = true →
    token key.toList <:+ token other.toList → other ≤ key

theorem FormValues.IsBraceless.image (h : values.IsBraceless) (name : List Char) :
    Receipts.IsBraceless (values.image name) := by
  rw [FormValues.image]
  cases hget : values.get? (String.ofList name) with
  | none => exact ⟨List.not_mem_nil, List.not_mem_nil⟩
  | some value => exact h _ value hget

/-- The values of the names, apart from some that still stand as tokens. -/
def FormValues.pending (values : FormValues) (keys : List (List Char)) (name : List Char) :
    List Char :=
  if name ∈ keys then token name else values.image name

theorem FormValues.IsBraceless.keepsTokens_pending (h : values.IsBraceless)
    (keys : List (List Char)) : KeepsTokens (values.pending keys) := by
  intro name
  rw [FormValues.pending]
  split
  · exact .inl rfl
  · exact .inr (h.image name)

theorem leavesWhole_pending {s : List Char} (h : LeavesWhole values.image s)
    (keys : List (List Char)) : LeavesWhole (values.pending keys) s := by
  refine fun key names hkey hne hnames => h key names hkey hne fun name hm => ?_
  obtain ⟨hname, hempty⟩ := hnames name hm
  rw [FormValues.pending] at hempty
  split at hempty
  · exact absurd hempty (Template.token_ne_nil name)
  · exact ⟨hname, hempty⟩

/-- Whether each key of some supplies comes before the others in key order. -/
def InKeyOrder (supplies : List Supply) : Prop :=
  supplies.Pairwise fun a b => String.ofList a.1 < String.ofList b.1

theorem FormValues.inKeyOrder_supplies (values : FormValues) : InKeyOrder values.supplies := by
  rw [InKeyOrder, FormValues.supplies, List.pairwise_map]
  simp only [String.ofList_toList]
  exact values.ascending

theorem FormValues.pending_cons (values : FormValues) {key : List Char} {keys : List (List Char)}
    (hnot : key ∉ keys) : (fun name => if name = key then values.image key
      else values.pending (key :: keys) name) = values.pending keys := by
  funext name
  by_cases heq : name = key
  · simp [FormValues.pending, heq, hnot]
  · simp [FormValues.pending, heq]

/-- A token that still stands belongs to a key that is not done yet. -/
theorem FormValues.IsBraceless.mem_of_pending_eq (h : values.IsBraceless)
    {keys : List (List Char)} {name : List Char} (hplace : values.pending keys name = token name) :
    name ∈ keys := by
  by_contra hnot
  rw [FormValues.pending, if_neg hnot] at hplace
  have hfree := h.image name
  rw [hplace] at hfree
  exact hfree.1 (by simp [token])

/-- A pass over keys in key order fills the placeholders of these keys. -/
theorem substitute_fill_pending {s : List Char} (hfree : values.IsBraceless)
    (hnested : values.OrdersNested) (hwhole : LeavesWhole values.image s) (supplies : List Supply)
    (horder : InKeyOrder supplies)
    (hsupplies : ∀ supply ∈ supplies, IsName supply.1 ∧
      values.get? (String.ofList supply.1) = some (String.ofList supply.2)) :
    substitute supplies (fill (values.pending (supplies.map Prod.fst)) s)
      = fill values.image s := by
  -- The keys that are left still stand as tokens, and the others have given way to their values.
  induction supplies with
  | nil => exact Template.fill_congr fun name _ => by simp [FormValues.pending]
  | cons supply supplies ih =>
      obtain ⟨hfirst, hlater⟩ := List.pairwise_cons.mp horder
      obtain ⟨hkey, hget⟩ := hsupplies supply List.mem_cons_self
      have hbehind : ∀ name ∈ supplies.map Prod.fst,
          String.ofList supply.1 < String.ofList name ∧
            values.contains (String.ofList name) = true := by
        intro name hm
        obtain ⟨other, hother, rfl⟩ := List.mem_map.mp hm
        exact ⟨hfirst other hother, FormValues.contains_iff_exists.mpr
          ⟨_, (hsupplies other (List.mem_cons_of_mem supply hother)).2⟩⟩
      have hends : ∀ name ∈ hits placeholder s,
          values.pending (supply.1 :: supplies.map Prod.fst) name = token name →
          token supply.1 <:+ token name → name = supply.1 := by
        intro name _ hplace hends
        refine (List.mem_cons.mp (hfree.mem_of_pending_eq hplace)).resolve_right fun hm => ?_
        -- The longer token would have been replaced before.
        obtain ⟨hlt, hother⟩ := hbehind name hm
        have hle := hnested _ _ (FormValues.contains_iff_exists.mpr ⟨_, hget⟩) hother
          (by simpa using hends)
        exact String.not_lt.mpr hle hlt
      have hnot : supply.1 ∉ supplies.map Prod.fst := fun hm =>
        String.lt_irrefl _ (hbehind supply.1 hm).1
      have himage : values.image supply.1 = supply.2 := by
        simpa using FormValues.image_eq hget
      have hstep := replaceAll_fill supply.2 (hfree.keepsTokens_pending _) hkey
        (by simp [FormValues.pending]) (leavesWhole_pending hwhole _) hends
      rw [← himage, values.pending_cons hnot, himage] at hstep
      rw [substitute, List.foldl_cons, List.map_cons, hstep]
      exact ih hlater fun other hm => hsupplies other (List.mem_cons_of_mem supply hm)

theorem FormValues.AreFor.contains_iff {template : String} (h : values.AreFor template)
    {name : List Char} :
    values.contains (String.ofList name) = true ↔ name ∈ hits placeholder template.toList := by
  rw [h, Form.keys, Form.ofHtml, List.mem_map]
  simp only [(sortByLabel_isSortOf _).mem_iff, List.mem_map]
  constructor
  · rintro ⟨field, ⟨found, hmem, rfl⟩, hkey⟩
    obtain rfl : found = String.ofList name := hkey
    simpa using mem_names_iff.mp hmem
  · intro hmem
    exact ⟨_, ⟨String.ofList name, mem_names_iff.mpr (by simpa using hmem), rfl⟩, rfl⟩

/-- One pass fills all placeholders of a template that asks for exactly these values. -/
theorem substitute_eq_fill {template : String} (hfor : values.AreFor template)
    (hfree : values.IsBraceless) (hnested : values.OrdersNested)
    (hwhole : LeavesWhole values.image template.toList) :
    substitute values.supplies template.toList = fill values.image template.toList := by
  have hsupplies : ∀ supply ∈ values.supplies, IsName supply.1 ∧
      values.get? (String.ofList supply.1) = some (String.ofList supply.2) := by
    intro supply hm
    have hget := FormValues.mem_supplies_iff.mp hm
    have hfound := hfor.contains_iff.mp (FormValues.contains_iff_exists.mpr ⟨_, hget⟩)
    exact ⟨(Template.isName_of_mem_hits hfound).1, hget⟩
  have hstart : fill (values.pending (values.supplies.map Prod.fst)) template.toList
      = template.toList := by
    refine Eq.trans (Template.fill_congr fun name hm => ?_) (Template.fill_token_self _)
    obtain ⟨value, hget⟩ := FormValues.contains_iff_exists.mp (hfor.contains_iff.mpr hm)
    have hmem : (name, value.toList) ∈ values.supplies :=
      FormValues.mem_supplies_iff.mpr (by simpa using hget)
    rw [FormValues.pending, if_pos (List.mem_map_of_mem (f := Prod.fst) hmem)]
  have hpass := substitute_fill_pending hfree hnested hwhole values.supplies
    values.inKeyOrder_supplies hsupplies
  rwa [hstart] at hpass

/-- Where the first pass leaves no supplied token, blanking its outcome renders. -/
theorem toList_render_of_pass {template : String} (out : List Char)
    (hpass : substitute values.supplies template.toList = out)
    (hnone : presentToken? values.supplies out = none) :
    (render template values).toList = blankPlaceholders out := by
  have hone : substituteRounds values.supplies 1 template.toList = out :=
    (substituteRounds_eq_iterate _ 1 _).trans hpass
  rw [toList_render_of_none (le_max_left 1 _) (hone ▸ hnone), hone]

theorem presentToken?_fill {template : String} (hfor : values.AreFor template)
    (hfree : values.IsBraceless) (hwhole : LeavesWhole values.image template.toList) :
    presentToken? values.supplies (fill values.image template.toList) = none := by
  rw [presentToken?_eq_none_iff]
  intro supply hm
  have hget := FormValues.mem_supplies_iff.mp hm
  have hfound := hfor.contains_iff.mp (FormValues.contains_iff_exists.mpr ⟨_, hget⟩)
  exact hwhole.not_token_infix hfree.image (Template.isName_of_mem_hits hfound).1

/-- With values without braces for exactly the names that the scan finds, a rendered template is the
template with each placeholder of the scan replaced by the value of its name, provided that nested
tokens are replaced from the outside and that empty values put no token together. -/
theorem render_eq_fill (template : String) (values : FormValues) (hfor : values.AreFor template)
    (hfree : values.IsBraceless) (hnested : values.OrdersNested)
    (hwhole : LeavesWhole values.image template.toList) :
    (render template values).toList = fill values.image template.toList := by
  rw [toList_render_of_pass _ (substitute_eq_fill hfor hfree hnested hwhole)
    (presentToken?_fill hfor hfree hwhole)]
  exact Template.fill_of_no_token _ fun name hname => hwhole.not_token_infix hfree.image hname

theorem FormValues.areFor_of_hits_eq {template : String}
    (h : hits placeholder template.toList = values.keys.map String.toList) :
    values.AreFor template := by
  intro key
  have hkeys : key ∈ values.keys ↔ key.toList ∈ values.keys.map String.toList :=
    (List.mem_map_of_injective fun _ _ h => String.toList_injective h).symm
  rw [Form.keys, Form.ofHtml, FormValues.contains_iff_mem_keys, hkeys, ← h, ← mem_names_iff,
    List.mem_map]
  simp only [(sortByLabel_isSortOf _).mem_iff, List.mem_map]
  constructor
  · intro hmem
    exact ⟨_, ⟨key, hmem, rfl⟩, rfl⟩
  · rintro ⟨field, ⟨found, hmem, rfl⟩, rfl⟩
    exact hmem

theorem FormValues.ordersNested_of_entries
    (h : ∀ a ∈ values.entries, ∀ b ∈ values.entries,
      token a.1.toList <:+ token b.1.toList → b.1 ≤ a.1) : values.OrdersNested := by
  intro key other hkey hother hends
  obtain ⟨value, hget⟩ := FormValues.contains_iff_exists.mp hkey
  obtain ⟨value', hget'⟩ := FormValues.contains_iff_exists.mp hother
  exact h _ (FormValues.get?_eq_some_iff.mp hget) _ (FormValues.get?_eq_some_iff.mp hget') hends

/-- Where no opening brace follows a closing one, no token is torn. -/
theorem leavesWhole_of_no_reopening {image : List Char → List Char} {s : List Char}
    (h : ¬ ['}', '{'] <:+: s) : LeavesWhole image s := by
  intro key names _ hne _ hin
  obtain ⟨name, names, rfl⟩ := List.exists_cons_of_ne_nil hne
  refine h (List.IsInfix.trans ?_ hin)
  exact ⟨'{' :: '{' :: key, '{' :: (name ++ '}' :: '}' :: (tokens names ++ ['}'])),
    by simp [torn, tokens, token]⟩

/-- A template in which one token ends another, and one begins with three opening braces. -/
def nestedTemplate : String :=
  "\x7b\x7bA\x7b\x7bB\x7d\x7d \x7b\x7bB\x7d\x7d, \x7b\x7b\x7bC\x7d\x7d!"

/-- Values for its names, the second of them empty. -/
def nestedValues : FormValues where
  entries := [("A\x7b\x7bB", "a"), ("B", ""), ("\x7bC", "c")]
  ascending := by decide +kernel

theorem render_nestedTemplate :
    nestedValues.AreFor nestedTemplate ∧ nestedValues.IsBraceless ∧ nestedValues.OrdersNested ∧
    LeavesWhole nestedValues.image nestedTemplate.toList ∧
    render nestedTemplate nestedValues = "a , c!" := by
  have hfor : nestedValues.AreFor nestedTemplate :=
    FormValues.areFor_of_hits_eq (by decide +kernel)
  have hfree : nestedValues.IsBraceless := FormValues.forall_get?_iff.mpr (by decide +kernel)
  have hnested : nestedValues.OrdersNested :=
    FormValues.ordersNested_of_entries (by decide +kernel)
  have hwhole : LeavesWhole nestedValues.image nestedTemplate.toList :=
    leavesWhole_of_no_reopening (by decide +kernel)
  refine ⟨hfor, hfree, hnested, hwhole, String.toList_injective ?_⟩
  rw [render_eq_fill nestedTemplate nestedValues hfor hfree hnested hwhole]
  decide +kernel

/-! ## Both conditions are needed -/

/-- Whether rendering fills the placeholders of the scan wherever a condition holds. -/
def FillsWhere (condition : String → FormValues → Prop) : Prop :=
  ∀ (template : String) (values : FormValues), values.AreFor template → values.IsBraceless →
    condition template values → (render template values).toList = fill values.image template.toList

/-- The inner of two nested tokens comes first in key order, and is replaced inside the outer. -/
def innerFirstTemplate : String :=
  "\x7b\x7bB\x7d\x7d \x7b\x7bZ\x7b\x7bB\x7d\x7d"

/-- Values for its names. -/
def innerFirstValues : FormValues where
  entries := [("B", "b"), ("Z\x7b\x7bB", "z")]
  ascending := by decide +kernel

/-- An empty value for the name between the closing braces of a token. -/
def emptyValue : FormValues where
  entries := [("B", "")]
  ascending := by decide

theorem not_fillsWhere :
    ¬ FillsWhere (fun _ _ => True) ∧
    ¬ FillsWhere (fun template values => LeavesWhole values.image template.toList) ∧
    ¬ FillsWhere (fun _ values => values.OrdersNested) := by
  have hinner : ∀ condition, condition innerFirstTemplate innerFirstValues →
      ¬ FillsWhere condition := by
    intro condition hcondition h
    have hfill := h _ _ (FormValues.areFor_of_hits_eq (by decide +kernel))
      (FormValues.forall_get?_iff.mpr (by decide +kernel)) hcondition
    rw [toList_render_of_pass "b \x7b\x7bZb".toList (by decide +kernel)
      (by decide +kernel)] at hfill
    exact absurd hfill (by decide +kernel)
  have hempty : ∀ condition, condition tornTemplate emptyValue → ¬ FillsWhere condition := by
    intro condition hcondition h
    have hfill := h _ _ (FormValues.areFor_of_hits_eq (by decide +kernel))
      (FormValues.forall_get?_iff.mpr (by decide +kernel)) hcondition
    rw [toList_render_of_pass "\x7b\x7bA\x7d\x7d".toList (by decide +kernel)
      (by decide +kernel)] at hfill
    exact absurd hfill (by decide +kernel)
  refine ⟨hinner _ trivial, hinner _ (leavesWhole_of_no_reopening (by decide +kernel)), hempty _ ?_⟩
  exact FormValues.ordersNested_of_entries (by decide +kernel)

end Receipts
