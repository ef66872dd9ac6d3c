/-!
# Media types

A media type names a type and a subtype, perhaps with a suffix after a plus sign,
and parameters. In normal form everything is in lower case but the values of
parameters other than the charset.
-/

namespace Receipts.Web

/-- A media type in normal form. -/
structure MediaType where
  type : List Char
  subtype : List Char
  suffix : Option (List Char)
  parameters : List (List Char × List Char)
  text : List Char
  deriving DecidableEq, Repr

namespace MediaType

/-- A character of a name. -/
def isToken (c : Char) : Bool :=
  c.isAlphanum ||
    ['!', '#', '$', '%', '&', '\x27', '*', '+', '-', '.', '^', '_', '\x60', '|', '~'].contains c

/-- A character of a quoted value. -/
def isQuotable (c : Char) : Bool := 31 < c.toNat && c.toNat != 127

/-- A value in quotes after the opening one, with blanks after it, and the rest from the next
semicolon on. The first character may be a quote. -/
def quotedValue? : List Char → Option (List Char × List Char × List Char)
  | [] => none
  | first :: s =>
      let value := first :: s.takeWhile (· != '"')
      match s.dropWhile (· != '"') with
      | [] => none
      | _ :: after =>
          let rest := after.dropWhile (· == ' ')
          if !value.all isQuotable then none
          else if rest.isEmpty || rest.head? == some ';' then
            some (value, after.takeWhile (· == ' '), rest)
          else none

/-- A value without quotes, and the rest from the next semicolon on. -/
def bareValue? (s : List Char) : Option (List Char × List Char) :=
  let value := s.takeWhile isToken
  match s.dropWhile isToken with
  | [] => some (value, [])
  | ';' :: rest => if value.isEmpty then none else some (value, ';' :: rest)
  | _ => none

/-- The value of a parameter in normal form. -/
def normalValue (name value : List Char) : List Char :=
  if name == "charset".toList then value.map Char.toLower else value

/-- Reads parameters, at most `fuel` characters of them. What was read is kept latest first: the
text in normal form, and the parameters. -/
def parametersFrom : Nat → List Char → List (List Char × List Char) → List Char →
    Option (List Char × List (List Char × List Char))
  | 0, _, _, _ => none
  | fuel + 1, written, found, s =>
      let next := fun (written name value rest : List Char) =>
        let found := (name, value) :: found
        match rest with
        | ';' :: rest => parametersFrom fuel (';' :: written) found rest
        | _ => some (written.reverse, found.reverse)
      match s with
      | [] => some (written.reverse, found.reverse)
      | ' ' :: s => parametersFrom fuel (' ' :: written) found s
      | s =>
          let name := (s.takeWhile isToken).map Char.toLower
          let named := '=' :: (name.reverse ++ written)
          if name.isEmpty then none
          else
            match s.dropWhile isToken with
            | '=' :: '"' :: s =>
                match quotedValue? s with
                | none => none
                | some (value, blanks, rest) =>
                    let value := normalValue name value
                    next (blanks ++ '"' :: (value.reverse ++ '"' :: named)) name value rest
            | '=' :: s =>
                match bareValue? s with
                | none => none
                | some (value, rest) =>
                    let value := normalValue name value
                    next (value.reverse ++ named) name value rest
            | _ => none

/-- The subtype before the last plus sign, and the suffix after it. A plus sign at the start is part
of the subtype. -/
def splitSuffix (s : List Char) : List Char × Option (List Char) :=
  let suffix := (s.reverse.takeWhile (· != '+')).reverse
  let before := s.take (s.length - suffix.length - 1)
  if suffix.length = s.length || before.isEmpty then (s, none) else (before, some suffix)

/-- Reads a media type. -/
def ofText? (s : List Char) : Option MediaType :=
  let type := (s.takeWhile isToken).map Char.toLower
  match s.dropWhile isToken with
  | '/' :: s =>
      let full := (s.takeWhile isToken).map Char.toLower
      let (subtype, suffix) := splitSuffix full
      let essence := type ++ '/' :: full
      if type.isEmpty then none
      else
        match s.dropWhile isToken with
        | [] => some ⟨type, subtype, suffix, [], essence⟩
        | ';' :: s =>
            if full.isEmpty then none
            else
              match parametersFrom (s.length + 1) [';'] [] s with
              | none => none
              | some (_, []) => some ⟨type, subtype, suffix, [], essence⟩
              | some (written, parameters) =>
                  some ⟨type, subtype, suffix, parameters, essence ++ written⟩
        | _ => none
  | _ => none

/-- Whether documents of this type are JSON. -/
def isJson (type : MediaType) : Bool :=
  type.type == "application".toList &&
    (type.subtype == "json".toList || type.suffix == some "json".toList)

/-- The boundary between the parts of a form, if the type is that of a form with files. -/
def boundary? (type : MediaType) : Option String :=
  if type.type == "multipart".toList && type.subtype == "form-data".toList then
    (type.parameters.lookup "boundary".toList).map String.ofList
  else none

end MediaType

end Receipts.Web
