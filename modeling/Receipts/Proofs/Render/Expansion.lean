import Mathlib.Data.Finset.Card
import Mathlib.Logic.Relation
import Receipts.Proofs.Render.Phases
import Receipts.Proofs.Template.WellFormed

/-!
# Rendering is recursive expansion

`Expands` says what a well-formed text stands for when every token is replaced by the expansion of
its value. When no value refers to itself, directly or through others, rendering computes exactly
that: as many rounds as there are keys suffice, in whatever order the keys are taken, and no token
is left for removal. Values that refer to each other in a cycle have no expansion and are not
treated here.
-/

namespace Receipts

open Template (IsKey IsPlain WellFormed Chunk token written put fill)
open Text (replaceAll)

namespace FormValues

/-- One key refers to another when its value contains the token of the other. -/
def Refers (values : FormValues) (key other : String) : Prop :=
  ∃ value, values.get? key = some value ∧ values.contains other = true ∧
    token other.toList <:+: value.toList

/-- No key refers to itself, directly or through others. -/
def Acyclic (values : FormValues) : Prop :=
  ∀ key, ¬ Relation.TransGen values.Refers key key

/-- Keys are names without braces, and values are well formed. -/
structure IsWellFormed (values : FormValues) : Prop where
  keys : ∀ key, values.contains key = true → IsKey key.toList
  values : ∀ key value, values.get? key = some value → WellFormed value.toList

end FormValues

/-- The full recursive expansion of a text: plain stretches stay, the token of a supplied key
becomes the expansion of its value, and any other token becomes empty. -/
inductive Expands (values : FormValues) : List Char → List Char → Prop
  | plain {s : List Char} : IsPlain s → Expands values s s
  | supplied {key value : String} {out : List Char} : IsKey key.toList →
      values.get? key = some value → Expands values value.toList out →
      Expands values (token key.toList) out
  | unsupplied {name : String} : IsKey name.toList → values.get? name = none →
      Expands values (token name.toList) []
  | append {a b a' b' : List Char} : Expands values a a' → Expands values b b' →
      Expands values (a ++ b) (a' ++ b')

variable {values : FormValues} {text out : List Char}

theorem Expands.wellFormed (h : Expands values text out) : WellFormed text := by
  induction h with
  | plain hs => exact Template.wellFormed_of_chunk (.plain _) hs
  | supplied hkey _ _ _ => exact Template.wellFormed_of_chunk (.slot _) hkey
  | unsupplied hname _ => exact Template.wellFormed_of_chunk (.slot _) hname
  | append _ _ iha ihb => exact iha.append ihb

/-! ## A text has at most one expansion -/

/-- Expansion down to a depth, below which every placeholder becomes empty. -/
def expandTo (values : FormValues) : Nat → List Char → List Char
  | 0, text => fill (fun _ => []) text
  | depth + 1, text => fill (fun name =>
      match values.get? (String.ofList name) with
      | some value => expandTo values depth value.toList
      | none => []) text

theorem expandTo_eq_fill (values : FormValues) (depth : Nat) :
    ∃ image, ∀ text, expandTo values depth text = fill image text := by
  cases depth with
  | zero => exact ⟨_, fun _ => rfl⟩
  | succ depth => exact ⟨_, fun _ => rfl⟩

theorem fill_append_of_wellFormed (image : List Char → List Char) {a b : List Char}
    (ha : WellFormed a) (hb : WellFormed b) :
    fill image (a ++ b) = fill image a ++ fill image b := by
  obtain ⟨as, has, rfl⟩ := ha
  obtain ⟨bs, hbs, rfl⟩ := hb
  rw [← Template.written_append, Template.fill_written image has, Template.fill_written image hbs,
    Template.fill_written image fun c hc => (List.mem_append.mp hc).elim (has c) (hbs c),
    List.flatMap_append]

theorem fill_of_isPlain (image : List Char → List Char) {s : List Char} (h : IsPlain s) :
    fill image s = s := by
  have hproper : ∀ chunk ∈ [Chunk.plain s], chunk.Proper := by simpa [Chunk.Proper] using h
  have hs := Template.fill_written image hproper
  simpa [written, Chunk.text, Chunk.fill] using hs

theorem fill_of_isKey (image : List Char → List Char) {name : List Char} (h : IsKey name) :
    fill image (token name) = image name := by
  have hs := Template.fill_token image h.isName []
  simpa [Template.fill_nil] using hs

/-- Expansion down to any great enough depth is the expansion. -/
theorem Expands.expandTo_eq (h : Expands values text out) :
    ∃ least, ∀ depth, least ≤ depth → expandTo values depth text = out := by
  induction h with
  | plain hs =>
      refine ⟨0, fun depth _ => ?_⟩
      obtain ⟨image, himage⟩ := expandTo_eq_fill values depth
      rw [himage, fill_of_isPlain image hs]
  | supplied hkey hvalue _ ih =>
      obtain ⟨least, hleast⟩ := ih
      refine ⟨least + 1, fun depth hdepth => ?_⟩
      obtain ⟨depth, rfl⟩ : ∃ d, depth = d + 1 := ⟨depth - 1, by omega⟩
      rw [expandTo, fill_of_isKey _ hkey, String.ofList_toList, hvalue]
      exact hleast depth (by omega)
  | unsupplied hname hnone =>
      refine ⟨0, fun depth _ => ?_⟩
      cases depth with
      | zero => exact fill_of_isKey _ hname
      | succ depth => rw [expandTo, fill_of_isKey _ hname, String.ofList_toList, hnone]
  | append ha hb iha ihb =>
      obtain ⟨leastA, hleastA⟩ := iha
      obtain ⟨leastB, hleastB⟩ := ihb
      refine ⟨max leastA leastB, fun depth hdepth => ?_⟩
      obtain ⟨image, himage⟩ := expandTo_eq_fill values depth
      rw [himage, fill_append_of_wellFormed image ha.wellFormed hb.wellFormed, ← himage, ← himage,
        hleastA depth (by omega), hleastB depth (by omega)]

theorem Expands.unique {out' : List Char} (h : Expands values text out)
    (h' : Expands values text out') : out = out' := by
  obtain ⟨least, hleast⟩ := h.expandTo_eq
  obtain ⟨least', hleast'⟩ := h'.expandTo_eq
  rw [← hleast (max least least') (by omega), hleast' (max least least') (by omega)]

/-! ## Without cycles every text has an expansion -/

/-- Without cycles the keys have ranks that fall along references. A key's rank counts the keys it
leads to, and no key leads to itself. -/
theorem FormValues.Acyclic.exists_rank (h : values.Acyclic) : ∃ rank : String → Nat,
    (∀ key, values.contains key = true → rank key < values.size) ∧
    ∀ key other, values.Refers key other → rank other < rank key := by
  classical
  let reached (key : String) : Finset String :=
    values.keys.toFinset.filter (Relation.TransGen values.Refers key)
  have hreached : ∀ key other, other ∈ reached key
      ↔ values.contains other = true ∧ Relation.TransGen values.Refers key other := by
    intro key other
    rw [Finset.mem_filter, List.mem_toFinset, FormValues.contains_iff_mem_keys]
  refine ⟨fun key => (reached key).card, fun key hkey => ?_, fun key other hrefers => ?_⟩
  · have hsub : reached key ⊂ values.keys.toFinset := by
      refine (Finset.ssubset_iff_of_subset (Finset.filter_subset _ _)).mpr ⟨key, ?_, ?_⟩
      · exact List.mem_toFinset.mpr (FormValues.contains_iff_mem_keys.mp hkey)
      · exact fun hm => h key ((hreached key key).mp hm).2
    calc (reached key).card < values.keys.toFinset.card := Finset.card_lt_card hsub
      _ ≤ values.keys.length := values.keys.toFinset_card_le
      _ = values.size := by simp [FormValues.keys, FormValues.size]
  · obtain ⟨_, _, hother, _⟩ := id hrefers
    refine Finset.card_lt_card ((Finset.ssubset_iff_of_subset fun k hk => ?_).mpr ⟨other, ?_, ?_⟩)
    · obtain ⟨hk, hpath⟩ := (hreached other k).mp hk
      exact (hreached key k).mpr ⟨hk, .head hrefers hpath⟩
    · exact (hreached key other).mpr ⟨hother, .single hrefers⟩
    · exact fun hm => h other ((hreached other other).mp hm).2

/-- Every supplied token of a text has a rank below a bound. -/
def Below (values : FormValues) (rank : String → Nat) (bound : Nat) (text : List Char) : Prop :=
  ∀ key, values.contains key = true → token key.toList <:+: text → rank key < bound

/-- A text expands when each of its chunks does. -/
theorem exists_expands_written {chunks : List Chunk}
    (h : ∀ chunk ∈ chunks, ∃ out, Expands values chunk.text out) :
    ∃ out, Expands values (written chunks) out := by
  induction chunks with
  | nil => exact ⟨[], .plain Template.isPlain_nil⟩
  | cons chunk chunks ih =>
      obtain ⟨out, hout⟩ := h chunk List.mem_cons_self
      obtain ⟨rest, hrest⟩ := ih fun c hc => h c (List.mem_cons_of_mem _ hc)
      exact ⟨out ++ rest, .append hout hrest⟩

/-- Where references fall in rank, every well-formed text has an expansion. The induction is on a
bound for the ranks of its tokens: the tokens of a value lie below the key of the value. -/
theorem exists_expands (hv : values.IsWellFormed) {rank : String → Nat}
    (hrank : ∀ key other, values.Refers key other → rank other < rank key) (bound : Nat) :
    ∀ text, WellFormed text → Below values rank bound text → ∃ out, Expands values text out := by
  induction bound using Nat.strong_induction_on with
  | h bound ih =>
      rintro text ⟨chunks, hchunks, rfl⟩ hbelow
      refine exists_expands_written fun chunk hmem => ?_
      have hproper := hchunks chunk hmem
      cases chunk with
      | plain s => exact ⟨s, .plain hproper⟩
      | slot name =>
          have hname : IsKey (String.ofList name).toList := by
            rw [String.toList_ofList]
            exact hproper
          have htext : Chunk.text (.slot name) = token (String.ofList name).toList := by
            simp [Chunk.text]
          rw [htext]
          cases hget : values.get? (String.ofList name) with
          | none => exact ⟨[], .unsupplied hname hget⟩
          | some value =>
              have hlt : rank (String.ofList name) < bound := by
                refine hbelow _ (FormValues.contains_iff_exists.mpr ⟨value, hget⟩) ?_
                rw [Template.token_infix_written_iff hname hchunks, String.toList_ofList]
                exact hmem
              obtain ⟨out, hout⟩ := ih _ hlt value.toList (hv.values _ _ hget)
                fun other hother hin => hrank _ _ ⟨value, hget, hother, hin⟩
              exact ⟨out, .supplied hname hget hout⟩

/-! ## What a replacement does to the expansion -/

/-- The supplies are the values, in some order. -/
def SuppliesOf (values : FormValues) (supplies : List Supply) : Prop :=
  ∀ key value, (key, value) ∈ supplies
    ↔ values.get? (String.ofList key) = some (String.ofList value)

/-- Every well-formed text has an expansion. -/
def AllExpand (values : FormValues) : Prop :=
  ∀ text, WellFormed text → ∃ out, Expands values text out

/-- A text and the text with a token replaced by its value have an expansion in common. -/
theorem exists_expands_put (hall : AllExpand values) {key : String} {value : String}
    (hkey : IsKey key.toList) (hget : values.get? key = some value) {inserted : List Chunk}
    (hvalue : value.toList = written inserted) (hinserted : ∀ chunk ∈ inserted, chunk.Proper)
    {chunks : List Chunk} (hchunks : ∀ chunk ∈ chunks, chunk.Proper) :
    ∃ out, Expands values (written chunks) out ∧
      Expands values (written (put key.toList inserted chunks)) out := by
  induction chunks with
  | nil => exact ⟨[], .plain Template.isPlain_nil, .plain Template.isPlain_nil⟩
  | cons chunk chunks ih =>
      obtain ⟨rest, hrest, hrest'⟩ := ih fun c hc => hchunks c (List.mem_cons_of_mem _ hc)
      rw [Template.written_cons, put, List.flatMap_cons, Template.written_append, ← put]
      by_cases heq : chunk = .slot key.toList
      · obtain ⟨out, hout⟩ := hall (written inserted) ⟨inserted, hinserted, rfl⟩
        rw [if_pos heq, heq, Chunk.text]
        exact ⟨out ++ rest, .append (.supplied hkey hget (hvalue ▸ hout)) hrest,
          .append hout hrest'⟩
      · obtain ⟨out, hout⟩ := hall chunk.text
          (Template.wellFormed_of_chunk _ (hchunks chunk List.mem_cons_self))
        rw [if_neg heq, Template.written_cons, show written [] = [] from rfl, List.append_nil]
        exact ⟨out ++ rest, .append hout hrest, .append hout hrest'⟩

theorem expands_of_replaceAll (hv : values.IsWellFormed) (hall : AllExpand values)
    {key value : String} (hget : values.get? key = some value) (ht : WellFormed text)
    (h : Expands values (replaceAll (token key.toList) value.toList text) out) :
    Expands values text out := by
  have hkey := hv.keys key (FormValues.contains_iff_exists.mpr ⟨value, hget⟩)
  obtain ⟨inserted, hinserted, hvalue⟩ := hv.values key value hget
  obtain ⟨chunks, hchunks, rfl⟩ := ht
  rw [hvalue, Template.replaceAll_written hkey inserted hchunks] at h
  obtain ⟨common, hcommon, hcommon'⟩ :=
    exists_expands_put hall hkey hget hvalue hinserted hchunks
  rwa [h.unique hcommon']

/-- A text without supplied tokens expands to the text with its placeholders blanked. -/
theorem expands_blankPlaceholders (ht : WellFormed text)
    (h : ∀ key, values.contains key = true → ¬ token key.toList <:+: text) :
    Expands values text (blankPlaceholders text) := by
  obtain ⟨chunks, hchunks, rfl⟩ := ht
  rw [blankPlaceholders, Template.fill_written _ hchunks]
  induction chunks with
  | nil => exact .plain Template.isPlain_nil
  | cons chunk chunks ih =>
      have hproper := hchunks chunk List.mem_cons_self
      have hin : ∀ s, s <:+: written chunks → s <:+: written (chunk :: chunks) := fun s hs =>
        hs.trans (List.suffix_append chunk.text (written chunks)).isInfix
      refine .append ?_ (ih (fun c hc => hchunks c (List.mem_cons_of_mem _ hc))
        fun key hkey hs => h key hkey (hin _ hs))
      cases chunk with
      | plain s => exact .plain hproper
      | slot name =>
          have hname : IsKey (String.ofList name).toList := by
            rw [String.toList_ofList]
            exact hproper
          have hnone : values.get? (String.ofList name) = none := by
            by_contra hsome
            refine h (String.ofList name) (Option.isSome_iff_ne_none.mpr hsome) ?_
            rw [String.toList_ofList]
            exact (List.prefix_append (token name) (written chunks)).isInfix
          have hout := Expands.unsupplied hname hnone
          rwa [String.toList_ofList] at hout

/-! ## As many rounds as keys suffice -/

variable {supplies : List Supply} {rank : String → Nat}

/-- After a pass over some keys, the tokens of greatest rank that are left belong to other keys. -/
theorem below_pass (hv : values.IsWellFormed)
    (hrank : ∀ key other, values.Refers key other → rank other < rank key) {bound : Nat}
    (hsupplies : ∀ key value, (key, value) ∈ supplies →
      values.get? (String.ofList key) = some (String.ofList value))
    (ht : WellFormed text) (hbelow : Below values rank (bound + 1) text) :
    WellFormed (substitute supplies text) ∧
    ∀ key, values.contains key = true → token key.toList <:+: substitute supplies text →
      rank key < bound + 1 ∧ (rank key < bound ∨ key.toList ∉ supplies.map Prod.fst) := by
  induction supplies using List.reverseRecOn with
  | nil => exact ⟨ht, fun key hkey hin => ⟨hbelow key hkey hin, .inr (by simp)⟩⟩
  | append_singleton supplies supply ih =>
      obtain ⟨hwf, hleft⟩ := ih fun k v hm => hsupplies k v (List.mem_append_left _ hm)
      have hget := hsupplies supply.1 supply.2 (by simp)
      have hcontains := FormValues.contains_iff_exists.mpr ⟨_, hget⟩
      have hsupply := hv.keys _ hcontains
      have hvalue := hv.values _ _ hget
      rw [String.toList_ofList] at hsupply hvalue
      have hpass : substitute (supplies ++ [supply]) text
          = replaceAll (token supply.1) supply.2 (substitute supplies text) := by
        simp [substitute, List.foldl_append]
      rw [hpass]
      refine ⟨hwf.replaceAll hsupply hvalue, fun key hkey hin => ?_⟩
      rcases Template.token_infix_replaceAll hsupply (hv.keys key hkey) hwf hvalue hin with
        ⟨hold, hne⟩ | ⟨hold, hnew⟩
      · obtain ⟨hlt, hcase⟩ := hleft key hkey hold
        refine ⟨hlt, hcase.imp id fun hnot => ?_⟩
        simp only [List.map_append, List.map_cons, List.map_nil, List.mem_append,
          List.mem_singleton, not_or]
        exact ⟨hnot, hne⟩
      · have hin' : token (String.ofList supply.1).toList <:+: substitute supplies text := by
          rwa [String.toList_ofList]
        have hlt := (hleft _ hcontains hin').1
        have hfall := hrank _ key ⟨_, hget, hkey, by rwa [String.toList_ofList]⟩
        exact ⟨by omega, .inl (by omega)⟩

/-- A round over all keys lowers the greatest rank that is left. -/
theorem below_substitute (hv : values.IsWellFormed)
    (hrank : ∀ key other, values.Refers key other → rank other < rank key) {bound : Nat}
    (hsupplies : SuppliesOf values supplies) (ht : WellFormed text)
    (hbelow : Below values rank (bound + 1) text) :
    WellFormed (substitute supplies text) ∧ Below values rank bound (substitute supplies text) := by
  obtain ⟨hwf, hleft⟩ := below_pass hv hrank (fun k v hm => (hsupplies k v).mp hm) ht hbelow
  refine ⟨hwf, fun key hkey hin => ?_⟩
  obtain ⟨value, hget⟩ := FormValues.contains_iff_exists.mp hkey
  have hmem : (key.toList, value.toList) ∈ supplies := (hsupplies _ _).mpr (by simpa using hget)
  rcases (hleft key hkey hin).2 with hlt | hnot
  · exact hlt
  · exact absurd (List.mem_map_of_mem (f := Prod.fst) hmem) hnot

theorem presentToken?_of_below_zero (hsupplies : SuppliesOf values supplies)
    (hbelow : Below values rank 0 text) : presentToken? supplies text = none := by
  refine presentToken?_eq_none_iff.mpr fun supply hm hin => ?_
  have hget := (hsupplies supply.1 supply.2).mp hm
  have hlt := hbelow _ (FormValues.contains_iff_exists.mpr ⟨_, hget⟩) (by simpa using hin)
  omega

/-- When every supplied token has a rank below the number of rounds, the rounds leave none. -/
theorem presentToken?_substituteRounds (hv : values.IsWellFormed)
    (hrank : ∀ key other, values.Refers key other → rank other < rank key)
    (hsupplies : SuppliesOf values supplies) (bound : Nat) :
    ∀ text, WellFormed text → Below values rank bound text → ∀ rounds, bound ≤ rounds →
      presentToken? supplies (substituteRounds supplies rounds text) = none := by
  induction bound with
  | zero =>
      intro text _ hbelow rounds _
      have hnone := presentToken?_of_below_zero hsupplies hbelow
      rw [substituteRounds_of_none hnone, hnone]
  | succ bound ih =>
      intro text ht hbelow rounds hrounds
      obtain ⟨rounds, rfl⟩ : ∃ n, rounds = n + 1 := ⟨rounds - 1, by omega⟩
      obtain ⟨hwf, hnext⟩ := below_substitute hv hrank hsupplies ht hbelow
      rw [substituteRounds]
      split
      · exact ih _ hwf hnext rounds (by omega)
      · rename_i hnone
        simpa using hnone

/-- The rounds keep the expansion. -/
theorem expands_of_substituteRounds (hv : values.IsWellFormed) (hall : AllExpand values)
    (hsupplies : SuppliesOf values supplies) (ht : WellFormed text) (rounds : Nat) :
    WellFormed (substituteRounds supplies rounds text) ∧
    ∀ out, Expands values (substituteRounds supplies rounds text) out →
      Expands values text out := by
  refine substituteRounds_invariant
    (P := fun t => WellFormed t ∧ ∀ out, Expands values t out → Expands values text out)
    (fun supply hm t ⟨hwf, hback⟩ => ?_) rounds ⟨ht, fun _ h => h⟩
  have hget := (hsupplies supply.1 supply.2).mp hm
  have hkey := hv.keys _ (FormValues.contains_iff_exists.mpr ⟨_, hget⟩)
  have hvalue := hv.values _ _ hget
  rw [String.toList_ofList] at hkey hvalue
  refine ⟨hwf.replaceAll hkey hvalue, fun out hout => hback out ?_⟩
  exact expands_of_replaceAll hv hall hget hwf (by simpa using hout)

/-- After enough rounds, in any order of the keys, no supplied token is left, and blanking what is
left gives the expansion. -/
theorem expands_rounds (hv : values.IsWellFormed) (hacyclic : values.Acyclic)
    (ht : WellFormed text) (hsupplies : SuppliesOf values supplies) {rounds : Nat}
    (hrounds : values.size ≤ rounds) :
    presentToken? supplies (substituteRounds supplies rounds text) = none ∧
    Expands values text (blankPlaceholders (substituteRounds supplies rounds text)) := by
  obtain ⟨rank, hlt, hrank⟩ := hacyclic.exists_rank
  have hbelow : ∀ t, Below values rank values.size t := fun t key hkey _ => hlt key hkey
  have hall : AllExpand values := fun t ht => exists_expands hv hrank values.size t ht (hbelow t)
  have hnone := presentToken?_substituteRounds hv hrank hsupplies values.size text ht (hbelow text)
    rounds hrounds
  obtain ⟨hwf, hback⟩ := expands_of_substituteRounds hv hall hsupplies ht rounds
  refine ⟨hnone, hback _ (expands_blankPlaceholders hwf fun key hkey hin => ?_)⟩
  obtain ⟨value, hget⟩ := FormValues.contains_iff_exists.mp hkey
  have hmem : (key.toList, value.toList) ∈ supplies := (hsupplies _ _).mpr (by simpa using hget)
  exact presentToken?_eq_none_iff.mp hnone _ hmem hin

/-- A rendered template is an expansion of the template. -/
theorem expands_render {template : String} (htemplate : WellFormed template.toList)
    (hvalues : values.IsWellFormed) (hacyclic : values.Acyclic) :
    Expands values template.toList (render template values).toList := by
  have hown : SuppliesOf values values.supplies := fun _ _ => FormValues.mem_supplies_iff
  have hmax : values.size ≤ max 1 values.supplies.length := by
    rw [FormValues.length_supplies]
    exact le_max_right _ _
  obtain ⟨hnone, hexpands⟩ := expands_rounds hvalues hacyclic htemplate hown hmax
  rwa [toList_render, unblanked, removeTokens_of_none hnone]

/-- Rendering a well-formed template with values that do not refer to each other in a cycle is its
full recursive expansion. In any order of the keys, as many rounds as there are keys leave no
supplied token, so there is nothing to remove, and they give the same text. -/
theorem render_eq_expansion (template : String) (values : FormValues)
    (htemplate : WellFormed template.toList) (hvalues : values.IsWellFormed)
    (hacyclic : values.Acyclic) :
    (∀ out, Expands values template.toList out ↔ out = (render template values).toList) ∧
    ∀ order : List Supply, order.Perm values.supplies → ∀ rounds, values.size ≤ rounds →
      presentToken? order (substituteRounds order rounds template.toList) = none ∧
      removeTokens order (substituteRounds order rounds template.toList)
        = substituteRounds order rounds template.toList ∧
      blankPlaceholders (substituteRounds order rounds template.toList)
        = (render template values).toList := by
  have hrender := expands_render htemplate hvalues hacyclic
  refine ⟨fun out => ⟨fun h => h.unique hrender, fun h => h ▸ hrender⟩, ?_⟩
  intro order horder rounds hrounds
  have hsupplies : SuppliesOf values order := fun key value =>
    horder.mem_iff.trans FormValues.mem_supplies_iff
  obtain ⟨hnone, hexpands⟩ := expands_rounds hvalues hacyclic htemplate hsupplies hrounds
  exact ⟨hnone, removeTokens_of_none hnone, hexpands.unique hrender⟩

/-- Values in which the first key is referred to by both others, and the third by the second. -/
def linkedValues : FormValues where
  entries :=
    [("A", "a\x7bx"), ("B", "<\x7b\x7bC\x7d\x7d\x7b\x7bA\x7d\x7d>"),
     ("C", "[\x7b\x7bA\x7d\x7d]")]
  ascending := by decide

/-- A template that uses two of the values above and a name without a value. -/
def linkedTemplate : String :=
  "Hi \x7b\x7bB\x7d\x7d, \x7b\x7bA\x7d\x7d\x7b\x7bNONE\x7d\x7d!"

theorem linkedTemplate_wellFormed : WellFormed linkedTemplate.toList :=
  ⟨[.plain ['H', 'i', ' '], .slot ['B'], .plain [',', ' '], .slot ['A'], .slot ['N', 'O', 'N', 'E'],
    .plain ['!']], by decide +kernel, by decide +kernel⟩

theorem linkedValues_isWellFormed : linkedValues.IsWellFormed where
  keys key h := by
    have hkeys : ∀ k ∈ linkedValues.keys, IsKey k.toList := by decide +kernel
    exact hkeys key (FormValues.contains_iff_mem_keys.mp h)
  values key value h := by
    simp only [FormValues.get?_eq_some_iff, linkedValues, List.mem_cons, Prod.mk.injEq,
      List.not_mem_nil, or_false] at h
    rcases h with ⟨_, rfl⟩ | ⟨_, rfl⟩ | ⟨_, rfl⟩
    · exact ⟨[.plain ['a', '{', 'x']], by decide +kernel, by decide +kernel⟩
    · exact ⟨[.plain ['<'], .slot ['C'], .slot ['A'], .plain ['>']],
        by decide +kernel, by decide +kernel⟩
    · exact ⟨[.plain ['['], .slot ['A'], .plain [']']],
        by decide +kernel, by decide +kernel⟩

/-- Along a reference the value gets shorter, so there is no way back. -/
theorem linkedValues_acyclic : linkedValues.Acyclic := by
  have hpairs : ∀ p ∈ linkedValues.entries, ∀ q ∈ linkedValues.entries,
      token q.1.toList <:+: p.2.toList → q.2.length < p.2.length := by decide +kernel
  have hpath : ∀ key other, Relation.TransGen linkedValues.Refers key other →
      ∃ value value', linkedValues.get? key = some value ∧ linkedValues.get? other = some value' ∧
        value'.length < value.length := by
    have hstep : ∀ key other, linkedValues.Refers key other →
        ∃ value value', linkedValues.get? key = some value ∧
          linkedValues.get? other = some value' ∧ value'.length < value.length := by
      rintro key other ⟨value, hget, hother, hin⟩
      obtain ⟨value', hget'⟩ := FormValues.contains_iff_exists.mp hother
      exact ⟨value, value', hget, hget', hpairs _ (FormValues.get?_eq_some_iff.mp hget) _
        (FormValues.get?_eq_some_iff.mp hget') hin⟩
    intro key other h
    induction h with
    | single h => exact hstep _ _ h
    | tail _ h ih =>
        obtain ⟨value, middle, hget, hmiddle, hlt⟩ := ih
        obtain ⟨middle', value', hmiddle', hget', hlt'⟩ := hstep _ _ h
        obtain rfl : middle = middle' := Option.some.inj (hmiddle.symm.trans hmiddle')
        exact ⟨value, value', hget, hget', hlt'.trans hlt⟩
  intro key h
  obtain ⟨value, value', hget, hget', hlt⟩ := hpath key key h
  obtain rfl : value = value' := Option.some.inj (hget.symm.trans hget')
  exact lt_irrefl _ hlt

theorem render_linkedTemplate :
    WellFormed linkedTemplate.toList ∧ linkedValues.IsWellFormed ∧ linkedValues.Acyclic ∧
    Expands linkedValues linkedTemplate.toList (render linkedTemplate linkedValues).toList ∧
    render linkedTemplate linkedValues = "Hi <[a\x7bx]a\x7bx>, a\x7bx!" := by
  have h := render_eq_expansion linkedTemplate linkedValues linkedTemplate_wellFormed
    linkedValues_isWellFormed linkedValues_acyclic
  refine ⟨linkedTemplate_wellFormed, linkedValues_isWellFormed, linkedValues_acyclic,
    (h.1 _).mpr rfl, String.toList_injective ?_⟩
  rw [← (h.2 linkedValues.supplies (List.Perm.refl _) 3 (by decide +kernel)).2.2]
  decide +kernel

end Receipts
