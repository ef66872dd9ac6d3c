import Receipts.Http.Host

/-!
# URLs

A written URL is read into its parts in normal form: scheme and host in lower
case, dot segments resolved, the usual port left out, and characters that may
not stand in a part written by percent signs.

A URL of a web scheme has a host. A file may have one. Another URL may have one
after two slashes, and else is a plain path.
-/

namespace Receipts.Http

/-- The parts of a URL in normal form. What has no place for a host has none; the host may be empty.
-/
structure Url where
  scheme : List Char
  user : List Char
  password : Option (List Char)
  host : Option (List Char)
  port : Option Nat
  path : List Char
  query : Option (List Char)
  fragment : Option (List Char)
  deriving DecidableEq, Repr

namespace Url

/-- The usual ports of the web schemes. -/
def usualPorts : List (List Char × Nat) :=
  [("http".toList, 80), ("https".toList, 443), ("ws".toList, 80), ("wss".toList, 443),
   ("ftp".toList, 21)]

/-- What is required of the parts of a URL. -/
inductive Kind where
  | web
  | file
  | other
  deriving DecidableEq, Repr

/-- The kind of the URLs of a scheme. -/
def kind (scheme : List Char) : Kind :=
  if (usualPorts.lookup scheme).isSome then .web
  else if scheme == "file".toList then .file
  else .other

/-- Whether a character separates the segments of a path. -/
def Kind.isSlash (kind : Kind) (c : Char) : Bool := c == '/' || (kind != .other && c == '\\')

/-- A written URL without the controls and spaces at its ends and without tabs and line ends. -/
def cleaned (s : List Char) : List Char :=
  let isOuter := fun (c : Char) => c.toNat ≤ 0x20
  let inner := ((s.dropWhile isOuter).reverse.dropWhile isOuter).reverse
  inner.filter fun c => c != '\t' && c != '\n' && c != '\r'

/-- The scheme in lower case, and what follows its colon. -/
def scheme? (s : List Char) : Option (List Char × List Char) :=
  let isPart := fun (c : Char) => c.isAlphanum || c == '+' || c == '-' || c == '.'
  match s.takeWhile isPart, s.dropWhile isPart with
  | c :: word, ':' :: rest => if c.isAlpha then some ((c :: word).map Char.toLower, rest) else none
  | _, _ => none

/-- The text before a character, and the text after it if the character is there. -/
def cut (c : Char) (s : List Char) : List Char × Option (List Char) :=
  match s.dropWhile (· != c) with
  | [] => (s, none)
  | _ :: rest => (s.takeWhile (· != c), some rest)

/-- The characters of a path that are written by percent signs. -/
def pathSet : List Char := [' ', '"', '<', '>', '\x60', '#', '?', '\x7b', '\x7d']

/-- The characters of a user name or password that are written by percent signs. -/
def userSet : List Char := pathSet ++ ['/', ':', ';', '=', '@', '[', '\\', ']', '^', '|']

/-- What stands after two slashes. -/
structure Authority where
  user : List Char := []
  password : Option (List Char) := none
  host : List Char := []
  port : Option Nat := none
  deriving DecidableEq, Repr

/-- User name and password. An empty password counts as none. -/
def userOf (s : List Char) : List Char × Option (List Char) :=
  let (user, password) := cut ':' s
  (percentEncode userSet user, (password.filter (!·.isEmpty)).map (percentEncode userSet))

/-- The port after its colon, and what follows its digits. The usual port of a scheme is left out,
and so is an empty one. -/
def port? (scheme s : List Char) : Option (Option Nat × List Char) :=
  let digits := s.takeWhile Char.isDigit
  let rest := s.dropWhile Char.isDigit
  let n := digits.foldl (fun n c => n * 10 + (c.toNat - '0'.toNat)) 0
  if 65535 < n || rest.head?.any (· != '\\') then none
  else if digits.isEmpty || usualPorts.lookup scheme == some n then some (none, rest)
  else some (some n, rest)

/-- The text before a colon outside of brackets, and the text after it if there is one. -/
def atPort : Bool → List Char → List Char → List Char × Option (List Char)
  | _, host, [] => (host.reverse, none)
  | inBrackets, host, c :: s =>
      if c == ':' && !inBrackets then (host.reverse, some s)
      else
        let inBrackets := if c == '[' then true else if c == ']' then false else inBrackets
        atPort inBrackets (c :: host) s

/-- Reads what stands after two slashes, with what follows the port. The user part ends at the last
at sign, and then there has to be a host. -/
def authority? (scheme s : List Char) : Option (Authority × List Char) := do
  let place := (s.reverse.takeWhile (· != '@')).reverse
  let userPart := (s.take (s.length - place.length)).dropLast
  let (user, password) := userOf userPart
  let (written, portPart) := atPort false [] place
  let host ← if kind scheme = .web then Host.ofWritten? written else Host.ofPlain? written
  let mustHaveHost :=
    portPart.isSome || !user.isEmpty || password.isSome
      || (place.isEmpty && s.head? == some '@' && userPart.isEmpty)
  if host.isEmpty && mustHaveHost then none
  else
    let (port, rest) ← port? scheme (portPart.getD [])
    some (⟨user, password, host, port⟩, rest)

/-- Whether a segment of a path means the place it stands in. -/
def isHere (segment : List Char) : Bool :=
  let lowered := segment.map Char.toLower
  lowered == ['.'] || lowered == ['%', '2', 'e']

/-- Whether a segment of a path means the place above. -/
def isAbove (segment : List Char) : Bool :=
  let lowered := segment.map Char.toLower
  [['.', '.'], ['.', '%', '2', 'e'], ['%', '2', 'e', '.'],
    ['%', '2', 'e', '%', '2', 'e']].contains lowered

/-- Whether a segment of a path is the letter of a drive, with a colon or a bar. -/
def isDrive (segment : List Char) : Bool :=
  match segment with
  | [letter, mark] => letter.isAlpha && (mark == ':' || mark == '|')
  | _ => false

/-- The segments above, given latest first. There is nothing above a drive. -/
def above (done : List (List Char)) : List (List Char) :=
  match done with
  | [] => []
  | last :: rest => if isDrive last then last :: rest else rest

/-- The segments of a path with dot segments resolved; `done` holds those so far, latest first. -/
def resolve : List (List Char) → List (List Char) → List (List Char)
  | done, [] => done.reverse
  | done, segment :: segments =>
      let isLast := segments.isEmpty
      if isAbove segment then resolve (if isLast then [] :: above done else above done) segments
      else if isHere segment then resolve (if isLast then [] :: done else done) segments
      else resolve (segment :: done) segments

/-- The segments of a path, without the slash it starts with. -/
def segments (kind : Kind) (s : List Char) : List (List Char) :=
  let s := s.map fun c => if kind.isSlash c then '/' else c
  (List.splitOn '/' (if s.head? == some '/' then s.drop 1 else s)).map (percentEncode pathSet)

/-- The text of a path. -/
def pathText (segments : List (List Char)) : List Char :=
  '/' :: ['/'].intercalate segments

/-- The path of a URL that is no file. Only a web address always has one. -/
def pathOf (kind : Kind) (s : List Char) : List Char :=
  if s.isEmpty && kind = .other then [] else pathText (resolve [] (segments kind s))

/-- The segments of a path with a drive in front, whose bar becomes a colon, if there is one. -/
def withDrive? (segments : List (List Char)) : Option (List (List Char)) :=
  match segments with
  | first :: rest => if isDrive first then some ((first.take 1 ++ [':']) :: rest) else none
  | [] => none

/-- The path of a file. It does not start with several slashes. -/
def filePath (segments : List (List Char)) : List Char :=
  '/' :: (pathText (resolve [] segments)).dropWhile (· == '/')

/-- Host and path of a file. A drive in front of the path stands for itself after a slash, and takes
the place of a host. The local host is none. -/
def fileParts? (s : List Char) : Option (List Char × List Char) :=
  let isSlash := Kind.file.isSlash
  let pathHere := fun (s : List Char) =>
    if s.head?.any isSlash then filePath (segments .file s)
    else filePath ((withDrive? (segments .file s)).getD (segments .file s))
  match s with
  | a :: b :: s =>
      if isSlash a && isSlash b then
        let written := s.takeWhile (!isSlash ·)
        let rest := s.dropWhile (!isSlash ·)
        if written.isEmpty then some ([], pathHere rest)
        else if isDrive written then some ([], pathHere s)
        else
          match Host.ofWritten? written with
          | none => none
          | some host =>
              if host == "localhost".toList then some ([], pathHere rest)
              else
                match withDrive? (segments .file rest) with
                | some segments => some ([], filePath segments)
                | none => some (host, filePath (segments .file rest))
      else some ([], pathHere (a :: b :: s))
  | s => some ([], pathHere s)

/-- Reads a written URL. -/
def ofWritten? (written : String) : Option Url := do
  let (scheme, rest) ← scheme? (cleaned written.toList)
  let (rest, fragment) := cut '#' rest
  let (rest, query) := cut '?' rest
  let kind := kind scheme
  let quote := if kind = .other then [] else ['\x27']
  let query := query.map (percentEncode ([' ', '"', '#', '<', '>'] ++ quote))
  let fragment := fragment.map (percentEncode [' ', '"', '<', '>', '\x60'])
  let afterSlashes := fun (s : List Char) => do
    let (authority, inPath) ← authority? scheme (s.takeWhile (!kind.isSlash ·))
    let path := pathOf kind (inPath ++ s.dropWhile (!kind.isSlash ·))
    return { authority with scheme, path, query, fragment, host := some authority.host : Url }
  let plain := fun (host : Option (List Char)) (path : List Char) =>
    (⟨scheme, [], none, host, none, path, query, fragment⟩ : Url)
  match kind with
  | .web => afterSlashes (rest.dropWhile kind.isSlash)
  | .file => (fileParts? rest).map fun (host, path) => plain (some host) path
  | .other =>
      if ['/', '/'].isPrefixOf rest then afterSlashes (rest.drop 2)
      else if rest.head? == some '/' then some (plain none (pathOf kind rest))
      else some (plain none (percentEncode [] rest))

/-- Whether a URL names a host. -/
def hasHost (url : Url) : Bool := url.host.any (!·.isEmpty)

/-- The path and the query. -/
def target (url : Url) : String :=
  String.ofList (url.path ++ (url.query.map ('?' :: ·)).getD [])

/-- The user name and the password with an at sign, if there are any. -/
def userText (url : Url) : List Char :=
  let password := (url.password.map (':' :: ·)).getD []
  if url.user.isEmpty && password.isEmpty then [] else url.user ++ password ++ ['@']

/-- The URL as it is written. A path that starts with two slashes is not taken for a host. -/
def text (url : Url) : String :=
  let authority :=
    match url.host with
    | none => if ['/', '/'].isPrefixOf url.path then ['/', '.'] else []
    | some host =>
        ['/', '/'] ++ url.userText ++ host
          ++ (url.port.map fun n => ':' :: (toString n).toList).getD []
  String.ofList (url.scheme ++ ':' :: authority) ++ url.target
    ++ String.ofList ((url.fragment.map ('#' :: ·)).getD [])

/-- The text that percent signs stand for. -/
def decoded? (s : List Char) : Option String := Text.ofUtf8? (percentDecode s)

/-- The URL without its user name and password. They stay if the name is no text, and so does a
password that is none without a name. -/
def withoutUser (url : Url) : Url :=
  let isText := (decoded? url.user).isSome
  if isText && (!url.user.isEmpty || (url.password.bind decoded?).isSome) then
    { url with user := [], password := none }
  else url

/-- The length of the longest URL that a call can be made to. -/
def greatestLength : Nat := 65534

/-- Whether a call can be made to a URL. Some characters may stand in a host, but not in the host of
a call. -/
def isCallable (url : Url) : Bool :=
  !(url.host.getD []).any ['"', '\x60', '\x7b', '\x7d'].contains
    && url.text.utf8ByteSize ≤ greatestLength

end Url

end Receipts.Http
