import Receipts.FormValues
import Receipts.Text.Replace

/-!
# Rendering

Rendering runs in three phases. Every supplied token is replaced by its value,
key by key, in rounds; a value may bring in another supplied token, so there is
a round for each key unless no supplied token is left earlier. Tokens that are
then still present stand in values that refer to each other in a cycle: they
are removed, one key at a time, until none is left. Placeholders of other names
are blanked last.

Removal joins the text on both sides, so the phases do not commute.
-/

namespace Receipts

open Text (occurs replaceAll)

/-- A key with the characters of its value. -/
abbrev Supply := List Char × List Char

/-- Replaces the token of each key in turn. -/
def substitute (supplies : List Supply) (text : List Char) : List Char :=
  supplies.foldl (fun text supply => replaceAll (Template.token supply.1) supply.2 text) text

/-- The first supplied token that occurs in a text. -/
def presentToken? (supplies : List Supply) (text : List Char) : Option (List Char) :=
  (supplies.map fun supply => Template.token supply.1).find? fun token => occurs token text

/-- Rounds of substitution, at most `n` and no more once no supplied token is left. -/
def substituteRounds (supplies : List Supply) : Nat → List Char → List Char
  | 0, text => text
  | n + 1, text =>
      let next := substitute supplies text
      if (presentToken? supplies next).isSome then substituteRounds supplies n next else next

theorem presentToken?_spec {supplies : List Supply} {text token : List Char}
    (h : presentToken? supplies text = some token) : token ≠ [] ∧ occurs token text = true := by
  have hocc : occurs token text = true := by simpa using List.find?_some h
  have hmem := List.mem_of_find?_eq_some h
  obtain ⟨supply, _, rfl⟩ := List.mem_map.mp hmem
  exact ⟨Template.token_ne_nil _, hocc⟩

/-- Removes supplied tokens until none is left. Each removal shortens the text. -/
def removeTokens (supplies : List Supply) (text : List Char) : List Char :=
  match _h : presentToken? supplies text with
  | none => text
  | some token => removeTokens supplies (replaceAll token [] text)
termination_by text.length
decreasing_by
  exact Text.replaceAll_nil_length_lt (presentToken?_spec _h).1 (presentToken?_spec _h).2

/-- Blanks every placeholder. -/
def blankPlaceholders (text : List Char) : List Char :=
  Template.fill (fun _ => []) text

/-- The entries of a set of values as characters, in key order. -/
def FormValues.supplies (values : FormValues) : List Supply :=
  values.entries.map fun entry => (entry.1.toList, entry.2.toList)

/-- The characters of a rendered template. -/
def renderChars (template : List Char) (supplies : List Supply) : List Char :=
  blankPlaceholders
    (removeTokens supplies (substituteRounds supplies (max 1 supplies.length) template))

/-- The template with its placeholders replaced by values. Unused keys change nothing, and
placeholders without a value become empty. -/
def render (template : String) (values : FormValues) : String :=
  String.ofList (renderChars template.toList values.supplies)

end Receipts
