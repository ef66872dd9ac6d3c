import Receipts.Json.Read

/-!
# Shapes of documents

A shape says what kind of document is wanted. Reading a document against a shape
stops at the first fault, be it one of form or of kind, and gives a value that
has the shape.

A record is an object with known members; others are passed over. It may also
be written as a list of its members in their order. A member may be required,
it may be left out of an object only, or it may be left out of both forms. The
value read is always an object that holds just the members that were present.

A tagged record names one of several variants by its first member. It is read
as a whole before its members are looked at.
-/

namespace Receipts.Json

/-- Whether a member may be left out. -/
inductive Presence where
  | required
  | nullable
  | optional
  deriving DecidableEq, Repr

/-- A variant of a tagged record: the name in its tag, its title in messages, and its members, which
are texts, each with what it is called when something else stands there. -/
structure Variant where
  name : String
  title : String
  members : List (String × String)
  deriving DecidableEq, Repr

mutual

/-- What a document should be. A text says what it is called when something else stands there. -/
inductive Shape where
  | text (expected : String)
  | bool
  | choice (names : List String)
  | option (shape : Shape)
  | list (shape : Shape)
  | map
  | record (title : String) (members : Members)
  | tagged (title tag : String) (variants : List Variant)

/-- The members of a record in their order. -/
inductive Members where
  | none
  | more (name : String) (presence : Presence) (shape : Shape) (rest : Members)

end

namespace Members

/-- The members of a list. -/
def ofList : List (String × Presence × Shape) → Members
  | [] => none
  | (name, presence, shape) :: rest => more name presence shape (ofList rest)

/-- The number of members. -/
def count : Members → Nat
  | none => 0
  | more _ _ _ rest => rest.count + 1

/-- The first required member that is missing. -/
def missing? (read : List (String × Json)) : Members → Option String
  | none => .none
  | more name presence _ rest =>
      if presence == .required && (read.lookup name).isNone then some name
      else rest.missing? read

end Members

/-- The number of members in words. -/
def elementsText (n : Nat) : String :=
  toString n ++ (if n = 1 then " element" else " elements")

/-- What stands in a value that was read as a whole. -/
def foundIn : Json → Found
  | .null => .null
  | .bool b => .bool b
  | .number n => .number n
  | .text s => .text s
  | .list _ => .list
  | .object _ => .object

/-- The members of a variant given as an object; each is a text and has to be there. -/
def variantOfObject (read : List (String × Json)) (wanted : List (String × String)) :
    Except Cause (List (String × Json)) := do
  let known ← read.foldlM (fun known (key, json) =>
    match wanted.lookup key with
    | none => pure known
    | some expected =>
        if (known.lookup key).isSome then .error (.repeatedMember key)
        else
          match json with
          | .text s => pure ((key, .text s) :: known)
          | json => .error (.wrongKind (foundIn json) expected)) []
  match wanted.find? fun member => (known.lookup member.1).isNone with
  | some member => .error (.missingMember member.1)
  | none => pure known

/-- The members of a variant given as a list after its tag. -/
def variantOfList (title : String) (all : List (String × String)) :
    Nat → List (String × String) → List Json → Except Cause (List (String × Json))
  | n, [], rest =>
      if rest.isEmpty then .ok []
      else .error (.wrongLength (n + rest.length) (elementsText n ++ " in sequence"))
  | n, _ :: _, [] =>
      .error (.wrongLength n
        ("struct variant " ++ title ++ " with " ++ elementsText all.length))
  | n, (name, _) :: wanted, .text s :: rest =>
      (variantOfList title all (n + 1) wanted rest).map ((name, .text s) :: ·)
  | _, (_, expected) :: _, json :: _ => .error (.wrongKind (foundIn json) expected)

/-- Reads the name of a variant. -/
def variantName (names : List String) (s : Input) : Outcome String :=
  match Scan.skipSpace s with
  | [] => fault .endInValue
  | some '"' :: s =>
      match Scan.text s with
      | .error cause => fault cause
      | .ok (name, s) =>
          if names.contains name then .ok (name, s) else fault (.unknownChoice name names)
  | s => Read.mismatch "variant identifier" s

/-- Reads null where nothing else may stand. -/
def unit (s : Input) : Outcome Unit :=
  match Scan.skipSpace s with
  | [] => fault .endInValue
  | some 'n' :: s => here ((Scan.word ['u', 'l', 'l'] s).map fun s => ((), s))
  | s => Read.mismatch "unit" s

/-- Reads a choice, written as its name or as an object with null under its name. -/
def readChoice (names : List String) (depth : Nat) (s : Input) : Outcome Json :=
  match Scan.skipSpace s with
  | [] => fault .endInValue
  | some '"' :: _ => (variantName names s).map fun (name, s) => (.text name, s)
  | some '{' :: s =>
      if depth = 0 then fault .tooDeep
      else
        match variantName names s with
        | .error f => .error f
        | .ok (name, s) =>
            match here (Read.colon s) with
            | .error f => .error f
            | .ok s =>
                match unit s with
                | .error f => .error f
                | .ok (_, s) =>
                    match Scan.skipSpace s with
                    | [] => fault .endInObject
                    | some '}' :: s => .ok (.text name, s)
                    | _ => fault .expectedValue
  | _ => fault .expectedValue

/-- What is read of a tagged object: its variant, and its other members, latest first. -/
abbrev TaggedParts := Option String × List (String × Json)

/-- Reads one member of a tagged object. -/
def taggedMember (tag : String) (names : List String) (depth : Nat) (read : TaggedParts)
    (key : String) : Except Cause (Input → Outcome TaggedParts) :=
  if key = tag then
    if read.1.isSome then .error (.repeatedMember tag)
    else .ok fun s => (variantName names s).map fun (name, s) => ((some name, read.2), s)
  else .ok fun s => (Read.value depth s).map fun (json, s) => ((read.1, (key, json) :: read.2), s)

/-- The record of a variant, once its members are known. -/
def taggedRecord (tag name : String) (members : Except Cause (List (String × Json))) (s : Input) :
    Outcome Json :=
  here (members.map fun members => (.object ((tag, .text name) :: members), s))

/-- Reads a tagged record. -/
def readTagged (title tag : String) (variants : List Variant) (depth : Nat) (s : Input) :
    Outcome Json :=
  let names := variants.map Variant.name
  let variant? := fun name => variants.find? fun variant => variant.name == name
  let wanted := fun name => ((variant? name).map Variant.members).getD []
  match Scan.skipSpace s, depth with
  | [], _ => fault .endInValue
  | some '{' :: _, 0 => fault .tooDeep
  | some '[' :: _, 0 => fault .tooDeep
  | some '{' :: s, depth + 1 =>
      match Read.members (taggedMember tag names depth) (.none, []) s with
      | .error f => .error f
      | .ok ((.none, _), _) => fault (.missingMember tag)
      | .ok ((some name, rest), s) =>
          taggedRecord tag name (variantOfObject rest.reverse (wanted name)) s
  | some '[' :: s, depth + 1 =>
      match Read.nextItem true s with
      | .error cause => fault cause
      | .ok .none => fault (.missingMember tag)
      | .ok (some s) =>
          match variantName names s with
          | .error f => .error f
          | .ok (name, s) =>
              match Read.itemsFrom (Read.value depth) (s.length + 1) [.null] s with
              | .error f => .error f
              | .ok (items, s) =>
                  taggedRecord tag name
                    (variantOfList (((variant? name).map Variant.title).getD name) (wanted name) 0
                      (wanted name) (items.drop 1)) s
  | s, _ => Read.mismatch ("internally tagged enum " ++ title) s

mutual

/-- Reads a value of a shape; `depth` more containers may be opened. -/
def Shape.readAt : Shape → Nat → Input → Outcome Json
  | .text expected, _, s =>
      match Scan.skipSpace s with
      | [] => fault .endInValue
      | some '"' :: s => here ((Scan.text s).map fun (t, s) => (.text t, s))
      | s => Read.mismatch expected s
  | .bool, _, s =>
      match Scan.skipSpace s with
      | [] => fault .endInValue
      | some 't' :: s => here ((Scan.word ['r', 'u', 'e'] s).map fun s => (.bool true, s))
      | some 'f' :: s => here ((Scan.word ['a', 'l', 's', 'e'] s).map fun s => (.bool false, s))
      | s => Read.mismatch "a boolean" s
  | .choice names, depth, s => readChoice names depth s
  | .option shape, depth, s =>
      match Scan.skipSpace s with
      | some 'n' :: s => here ((Scan.word ['u', 'l', 'l'] s).map fun s => (.null, s))
      | s => shape.readAt depth s
  | .list shape, depth, s =>
      match Scan.skipSpace s with
      | [] => fault .endInValue
      | some '[' :: s =>
          match depth with
          | 0 => fault .tooDeep
          | depth + 1 =>
              (Read.items (shape.readAt depth) s).map fun (items, s) => (.list items, s)
      | s => Read.mismatch "a sequence" s
  | .map, depth, s =>
      match Scan.skipSpace s with
      | [] => fault .endInValue
      | some '{' :: s =>
          match depth with
          | 0 => fault .tooDeep
          | depth + 1 =>
              (Read.membersOf (Read.value depth) s).map fun (members, s) => (.object members, s)
      | s => Read.mismatch "a map" s
  | .record title members, depth, s =>
      match Scan.skipSpace s, depth with
      | [], _ => fault .endInValue
      | some '{' :: _, 0 => fault .tooDeep
      | some '[' :: _, 0 => fault .tooDeep
      | some '{' :: s, depth + 1 =>
          match Read.members (fun read key =>
              match members.reader? depth key with
              | some value =>
                  if (read.lookup key).isSome then .error (.repeatedMember key)
                  else .ok fun s => (value s).map fun (json, s) => ((key, json) :: read, s)
              | none => .ok fun s => here ((Read.skipValue s).map fun s => (read, s))) [] s with
          | .error f => .error f
          | .ok (read, s) =>
              match members.missing? read with
              | some name => fault (.missingMember name)
              | none => .ok (.object read.reverse, s)
      | some '[' :: s, depth + 1 =>
          members.readList depth ("struct " ++ title ++ " with " ++ elementsText members.count)
            [] 0 s
      | s, _ => Read.mismatch ("struct " ++ title) s
  | .tagged title tag variants, depth, s => readTagged title tag variants depth s

/-- The reader of the member with this key. -/
def Members.reader? : Members → Nat → String → Option (Input → Outcome Json)
  | .none, _, _ => .none
  | .more name _ shape rest, depth, key =>
      if key = name then some (fun s => shape.readAt depth s) else rest.reader? depth key

/-- Reads the members in their order after the opening bracket of a list. -/
def Members.readList : Members → Nat → String → List (String × Json) → Nat → Input → Outcome Json
  | .none, _, _, read, _, s =>
      here ((Read.endList s).map fun s => (.object read.reverse, s))
  | .more name presence shape rest, depth, expected, read, n, s =>
      match Read.nextItem (n == 0) s with
      | .error cause => fault cause
      | .ok .none =>
          if presence == .optional then rest.readList depth expected read (n + 1) s
          else fault (.wrongLength n expected)
      | .ok (some s) =>
          match within (.item n) (shape.readAt depth s) with
          | .error f => .error f
          | .ok (json, s) => rest.readList depth expected ((name, json) :: read) (n + 1) s

end

/-- Reads a document of a shape. -/
def Shape.parse (shape : Shape) (s : Input) : Except Fault Json :=
  Read.complete (shape.readAt Read.maxDepth s)

end Receipts.Json
