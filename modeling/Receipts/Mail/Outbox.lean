import Receipts.Mail.Error

/-!
# Outboxes

An outbox is a directory that mail is written into, one file a mail. The
directories are part of a tree below some root; a path is walked from the root,
and a path that leads above the root is not followed further.

Making an outbox makes the directories that are missing on its way. A plain file
in the way is an error, except that one which bears the whole path counts as
there.
-/

namespace Receipts.Mail

/-- A place in the tree: below the root by these names, the root first, or elsewhere. -/
inductive Place where
  | inside (names : List String)
  | outside
  deriving DecidableEq, Repr

/-- The directories below a root, its plain files, and the places where mail was written. -/
structure Tree where
  directories : List (List String) := []
  files : List (List String) := []
  mails : List Place := []
  deriving DecidableEq, Repr

namespace Tree

/-- Whether a place is a directory. -/
def isDirectory (tree : Tree) : Place → Bool
  | .outside => true
  | .inside names => names.isEmpty || tree.directories.contains names

/-- Whether a place is a plain file. -/
def isFile (tree : Tree) : Place → Bool
  | .outside => false
  | .inside names => tree.files.contains names

/-- The place one step further on a path. -/
def stepTo (name : String) : Place → Place
  | .outside => .outside
  | .inside names =>
      if name == ".." then if names.isEmpty then .outside else .inside names.dropLast
      else .inside (names ++ [name])

/-- The names on a path. -/
def names (path : String) : List String :=
  ((List.splitOn '/' path.toList).map String.ofList).filter fun name => name != "" && name != "."

/-- Where a walk ends: at a place, before a name that is not there, or at a file in the way. -/
inductive Walk where
  | at (place : Place)
  | missing
  | blocked (atEnd : Bool)
  deriving DecidableEq, Repr

/-- Walks from a place along names. -/
def walk (tree : Tree) : Place → List String → Walk
  | place, [] => .at place
  | place, name :: rest =>
      if !tree.isDirectory place then .blocked false
      else
        let next := stepTo name place
        if tree.isDirectory next then walk tree next rest
        else if tree.isFile next then if rest.isEmpty then .at next else .blocked false
        else .missing

/-- Where a path leads. A plain file is in the way when its name is not the last thing written. -/
def find (tree : Tree) (path : String) : Walk :=
  match tree.walk (.inside []) (names path) with
  | .at place =>
      if tree.isFile place then
        match (List.splitOn '/' path.toList).getLast? with
        | some [] => .blocked true
        | some ['.'] => .blocked false
        | _ => .at place
      else .at place
  | other => other

/-- Makes the directories along names that are not there. -/
def make (tree : Tree) : Place → List String → Tree × Option StorageDefect
  | _, [] => (tree, none)
  | place, name :: rest =>
      let next := stepTo name place
      if tree.isDirectory next then make tree next rest
      else if tree.isFile next then (tree, some .alreadyThere)
      else if 255 < name.utf8ByteSize then (tree, some .nameTooLong)
      else
        match next with
        | .outside => make tree next rest
        | .inside names => make { tree with directories := tree.directories ++ [names] } next rest

/-- Makes the outbox of a path. -/
def prepare (tree : Tree) (path : String) : Tree × Option StorageDefect :=
  if path.toList.any fun c => c.toNat = 0 then (tree, some .zeroByte)
  else
    match tree.find path with
    | .at _ => (tree, none)
    | .blocked atEnd => (tree, some (if atEnd then .alreadyThere else .notADirectory))
    | .missing => tree.make (.inside []) (names path)

/-- Writes a mail into the outbox of a path. -/
def write (tree : Tree) (path : String) : Except StorageDefect Tree :=
  match tree.find path with
  | .at place =>
      if tree.isDirectory place then .ok { tree with mails := tree.mails ++ [place] }
      else .error .notADirectory
  | _ => .error .notADirectory

/-- The directories with the number of mails in each. -/
def counts (tree : Tree) : List (String × Nat) :=
  tree.directories.map fun names =>
    ("/".intercalate names, tree.mails.count (.inside names))

end Tree

end Receipts.Mail
