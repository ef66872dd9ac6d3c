import Receipts.Text.BreakTable
import Receipts.Text.Case
import Receipts.Text.CharSet
import Receipts.Text.PropertyTable
import Receipts.Text.RecordedSets

/-!
# Properties of characters

A property is asked for by name, or by the name of the property and that of one
of its values. In a name, letter case, blanks, hyphens and underscores do not
count, nor does `is` at its beginning. The answer is the set of the characters
that have the property; a name that stands for nothing has none. All properties
are those of one version of the standard, and characters added later have none
of them.
-/

namespace Receipts.Text

/-- Code points that share a value of a property. -/
structure PropertyRun where
  value : String
  first : Nat
  last : Nat
  deriving DecidableEq, Repr

/-- Runs that are being read: the letters of the current value and the digits of its length, latest
first, the first code point of the current run, and the finished runs, latest first. -/
structure RunsSoFar where
  letters : List Char := []
  size : Nat := 0
  first : Nat := 0
  finished : List PropertyRun := []

namespace RunsSoFar

/-- Finishes the current run if there is one. -/
def close (runs : RunsSoFar) : RunsSoFar :=
  if runs.letters.isEmpty then runs
  else
    let next := runs.first + max 1 runs.size
    { first := next
      finished := ⟨String.ofList runs.letters.reverse, runs.first, next - 1⟩ :: runs.finished }

/-- Reads one character more. -/
def read (runs : RunsSoFar) (c : Char) : RunsSoFar :=
  if c.isDigit then { runs with size := runs.size * 10 + (c.toNat - '0'.toNat) }
  else if c.isUpper then { runs.close with letters := [c] }
  else { runs with letters := c :: runs.letters }

end RunsSoFar

/-- Reads runs. -/
def readRuns (written : String) : List PropertyRun :=
  (written.toList.foldl RunsSoFar.read {}).close.finished.reverse

/-- The code points of the runs whose value passes a test. -/
def setOf (test : String → Bool) (written : String) : CharSet :=
  .ofRanges (((readRuns written).filter fun run => test run.value).map fun run =>
    (run.first, run.last))

/-- The set recorded under a name. -/
def recorded (name : String) : CharSet :=
  match recordedSets.lookup name with
  | some written => .ofHex written
  | none => .nothing

/-- A name without what does not count in it. -/
def plainName (name : List Char) : List Char :=
  let lowered := name.map Char.toLower
  let rest := if ['i', 's'].isPrefixOf lowered then lowered.drop 2 else lowered
  let plain := rest.filter fun c => c.toNat < 0x80 && c != ' ' && c != '-' && c != '_'
  if plain == ['c'] && rest.length < lowered.length then "isc".toList else plain

/-- The long names of general categories and of groups of them, with their short names. -/
def categoryNames : List (String × String) :=
  [("other", "C"), ("control", "Cc"), ("cntrl", "Cc"), ("format", "Cf"), ("unassigned", "Cn"),
   ("privateuse", "Co"), ("letter", "L"), ("casedletter", "LC"), ("lowercaseletter", "Ll"),
   ("modifierletter", "Lm"), ("otherletter", "Lo"), ("titlecaseletter", "Lt"),
   ("uppercaseletter", "Lu"), ("mark", "M"), ("combiningmark", "M"), ("spacingmark", "Mc"),
   ("enclosingmark", "Me"), ("nonspacingmark", "Mn"), ("number", "N"), ("decimalnumber", "Nd"),
   ("digit", "Nd"), ("letternumber", "Nl"), ("othernumber", "No"), ("punctuation", "P"),
   ("punct", "P"), ("connectorpunctuation", "Pc"), ("dashpunctuation", "Pd"),
   ("closepunctuation", "Pe"), ("finalpunctuation", "Pf"), ("initialpunctuation", "Pi"),
   ("otherpunctuation", "Po"), ("openpunctuation", "Ps"), ("symbol", "S"),
   ("currencysymbol", "Sc"), ("modifiersymbol", "Sk"), ("mathsymbol", "Sm"),
   ("othersymbol", "So"), ("separator", "Z"), ("lineseparator", "Zl"),
   ("paragraphseparator", "Zp"), ("spaceseparator", "Zs")]

/-- The short name of a category or a group of them. -/
def categoryCode? (name : String) : Option String :=
  (categoryNames.lookup name).or
    ((categoryNames.map Prod.snd).find? fun code => code.map Char.toLower == name)

/-- Whether a category belongs to a group, or is the one meant. -/
def inCategory (code category : String) : Bool :=
  if code == "LC" then ["Lu", "Ll", "Lt"].contains category
  else code.toList.isPrefixOf category.toList

/-- The characters of any of the categories or groups. -/
def ofCategories (codes : List String) : CharSet :=
  setOf (fun category => codes.any fun code => inCategory code category) categoryRuns

/-- The characters of a category or a group of them. -/
def category? (name : String) : Option CharSet :=
  match name with
  | "any" => some .any
  | "ascii" => some .ascii
  | "assigned" => some (ofCategories ["Cn"]).compl
  | name => (categoryCode? name).map fun code => ofCategories [code]

/-- The characters of a script. -/
def script? (name : String) : Option CharSet :=
  (scriptNames.lookup name).map fun code => setOf (· == code) scriptRuns

/-- The characters that a script uses, those it shares with others among them. -/
def scriptUse? (name : String) : Option CharSet :=
  (scriptNames.lookup name).map fun code =>
    let uses := fun (scripts : String) => (scripts.toList.splitOn ' ').contains code.toList
    let shared := sharedScripts.map fun entry => (uses entry.1, CharSet.ofHex entry.2)
    let every := shared.foldl (fun set entry => set.union entry.2) .nothing
    let used := (shared.filter Prod.fst).foldl (fun set entry => set.union entry.2) .nothing
    ((setOf (· == code) scriptRuns).diff every).union used

/-- The characters that existed in a version of the standard. A version may be written as a number
with a point, or as the letter `v` and its digits. -/
def age? (version : String) : Option CharSet :=
  let same := fun (entry : String × String) =>
    entry.1 == version || 'v' :: entry.1.toList.filter (· != '.') == version.toList
  if ageTable.any same then
    let later := (ageTable.dropWhile fun entry => !same entry).length - 1
    some ((ageTable.take (ageTable.length - later)).foldl
      (fun set entry => set.union (.ofHex entry.2)) .nothing)
  else none

/-- The value of a property in a list of values, each with its short and its long name. -/
def partOf? (written : String) (names : List (String × String × String)) (name : String) :
    Option CharSet :=
  (names.find? fun entry => entry.2.1 == name || entry.2.2 == name).map fun entry =>
    setOf (· == entry.1) written

/-- The parts in the division into words. -/
def wordBreak? : String → Option CharSet :=
  partOf? wordBreakRuns
    [("Cr", "cr", "cr"), ("Lf", "lf", "lf"), ("Nl", "nl", "newline"), ("Dq", "dq", "doublequote"),
     ("Sq", "sq", "singlequote"), ("Hl", "hl", "hebrewletter"), ("Le", "le", "aletter"),
     ("Ka", "ka", "katakana"), ("Nu", "nu", "numeric"), ("Ex", "ex", "extendnumlet"),
     ("Extend", "extend", "extend"), ("Fo", "fo", "format"), ("Mb", "mb", "midnumlet"),
     ("Ml", "ml", "midletter"), ("Mn", "mn", "midnum"), ("Ri", "ri", "regionalindicator"),
     ("Wsegspace", "wsegspace", "wsegspace"), ("Zwj", "zwj", "zwj")]

/-- The parts in the division into sentences. -/
def sentenceBreak? : String → Option CharSet :=
  partOf? sentenceBreakRuns
    [("Cr", "cr", "cr"), ("Lf", "lf", "lf"), ("Ex", "ex", "extend"), ("Se", "se", "sep"),
     ("Fo", "fo", "format"), ("Sp", "sp", "sp"), ("Lo", "lo", "lower"), ("Up", "up", "upper"),
     ("Le", "le", "oletter"), ("Nu", "nu", "numeric"), ("At", "at", "aterm"),
     ("Sc", "sc", "scontinue"), ("St", "st", "sterm"), ("Cl", "cl", "close")]

/-- The composed Hangul syllables with a final consonant, or those without one. -/
def syllables (final : Bool) : CharSet :=
  .ofRanges ((List.range 399).map fun k =>
    let first := 0xAC00 + 28 * k
    if final then (first + 1, first + 27) else (first, first))

/-- The parts in the division into user-perceived characters. -/
def graphemeBreak? (name : String) : Option CharSet :=
  match name with
  | "lv" => some (syllables false)
  | "lvt" => some (syllables true)
  | name =>
      partOf? graphemeBreakRuns
        [("Cr", "cr", "cr"), ("Lf", "lf", "lf"), ("Cn", "cn", "control"), ("Ex", "ex", "extend"),
         ("Pp", "pp", "prepend"), ("Ri", "ri", "regionalindicator"),
         ("Sm", "sm", "spacingmark"), ("L", "l", "l"), ("V", "v", "v"), ("T", "t", "t"),
         ("Zwj", "zwj", "zwj")] name

/-- The lower-case characters. -/
def lowercase : CharSet := (ofCategories ["Ll"]).union (recorded "other lowercase")

/-- The upper-case characters. -/
def uppercase : CharSet := (ofCategories ["Lu"]).union (recorded "other uppercase")

/-- The alphabetic characters. -/
def alphabetic : CharSet :=
  (((ofCategories ["L", "Nl"]).union lowercase).union uppercase).union
    (recorded "other alphabetic")

/-- The characters that extend the one before them. -/
def graphemeExtend : CharSet :=
  (ofCategories ["Me", "Mn"]).union (recorded "other grapheme extend")

/-- The characters that names may start with. -/
def idStart : CharSet :=
  ((ofCategories ["L", "Nl"]).union (recorded "other id start")).diff
    ((recorded "pattern syntax").union (recorded "pattern white space"))

/-- The characters that names may go on with. -/
def idContinue : CharSet :=
  (idStart.union (ofCategories ["Mn", "Mc", "Nd", "Pc"])).union (recorded "other id continue")

/-- The assigned characters from which a map of characters leads to other assigned ones. -/
def movedBy (map : Char → List Char) (runs : List (Nat × Nat × Nat × Nat)) (more : List Nat) :
    CharSet :=
  let unassigned := ofCategories ["Cn"]
  let known := fun (n : Nat) => !unassigned.holdsCode n
  let codes := runs.flatMap fun (first, last, step, _) =>
    (List.range ((last - first) / step + 1)).map fun k => first + k * step
  .ofRanges (((codes ++ more).filter fun n =>
      known n && map (Char.ofNat n) != [Char.ofNat n] &&
        (map (Char.ofNat n)).all fun c => known c.toNat).map fun n => (n, n))

/-- The characters that lowering changes. -/
def lowerChanges : CharSet :=
  (movedBy lowerChar lowerRuns [0x130]).union (.range 'A' 'Z')

/-- The characters that raising changes. -/
def upperChanges : CharSet :=
  (movedBy upperChar upperRuns (upperExpansions.map Prod.fst)).union (.range 'a' 'z')

/-- The characters that writing as the beginning of a title changes. -/
def titleChanges : CharSet :=
  let georgian := CharSet.ofHex "10D0-10FA 10FD-10FF"
  let digraphs := CharSet.ofHex "1C4 1C7 1CA 1F1"
  ((upperChanges.diff (ofCategories ["Lt"])).diff georgian).union digraphs

/-- The characters that folding into one or more characters changes. -/
def foldChanges : CharSet :=
  ((CharSet.ofRanges (CharSet.foldPairs.map fun pair => (pair.1, pair.1))).diff
    (.ofHex "1FBE 1FD3 1FE3")).union (recorded "changes when fully folded")

/-- The characters that are not shown unless a device knows them. -/
def defaultIgnorable : CharSet :=
  (((ofCategories ["Cf"]).union (recorded "variation selector")).diff
      ((CharSet.blank.union (.ofHex "FFF9-FFFB 13430-13440")).union
        (recorded "prepended concatenation mark"))).union
    (recorded "other default ignorable")

/-- The characters that take room of their own. -/
def graphemeBase : CharSet :=
  ((ofCategories ["C", "Zl", "Zp"]).union graphemeExtend).compl

/-- The names of the properties that are recorded as sets, with the names of the sets. -/
def recordedNames : List (String × String) :=
  [("ahex", "ascii hex digit"), ("asciihexdigit", "ascii hex digit"), ("bidic", "bidi control"),
   ("bidicontrol", "bidi control"), ("bidim", "bidi mirrored"), ("bidimirrored", "bidi mirrored"),
   ("dash", "dash"), ("dep", "deprecated"), ("deprecated", "deprecated"), ("dia", "diacritic"),
   ("diacritic", "diacritic"), ("emoji", "emoji"), ("ecomp", "emoji component"),
   ("emojicomponent", "emoji component"), ("emod", "emoji modifier"),
   ("emojimodifier", "emoji modifier"), ("ebase", "emoji modifier base"),
   ("emojimodifierbase", "emoji modifier base"), ("epres", "emoji presentation"),
   ("emojipresentation", "emoji presentation"), ("extpict", "extended pictographic"),
   ("extendedpictographic", "extended pictographic"), ("ext", "extender"),
   ("extender", "extender"), ("grlink", "grapheme link"), ("graphemelink", "grapheme link"),
   ("hex", "hex digit"), ("hexdigit", "hex digit"), ("hyphen", "hyphen"),
   ("idsb", "ids binary operator"), ("idsbinaryoperator", "ids binary operator"),
   ("idst", "ids trinary operator"), ("idstrinaryoperator", "ids trinary operator"),
   ("idsu", "ids unary operator"), ("idsunaryoperator", "ids unary operator"),
   ("idcompatmathstart", "id compat math start"),
   ("idcompatmathcontinue", "id compat math continue"), ("ideo", "ideographic"),
   ("ideographic", "ideographic"), ("joinc", "join control"), ("joincontrol", "join control"),
   ("loe", "logical order exception"), ("logicalorderexception", "logical order exception"),
   ("mcm", "modifier combining mark"), ("modifiercombiningmark", "modifier combining mark"),
   ("nchar", "noncharacter code point"), ("noncharactercodepoint", "noncharacter code point"),
   ("oalpha", "other alphabetic"), ("otheralphabetic", "other alphabetic"),
   ("odi", "other default ignorable"),
   ("otherdefaultignorablecodepoint", "other default ignorable"),
   ("ogrext", "other grapheme extend"), ("othergraphemeextend", "other grapheme extend"),
   ("oidc", "other id continue"), ("otheridcontinue", "other id continue"),
   ("oids", "other id start"), ("otheridstart", "other id start"),
   ("olower", "other lowercase"), ("otherlowercase", "other lowercase"),
   ("omath", "other math"), ("othermath", "other math"), ("oupper", "other uppercase"),
   ("otheruppercase", "other uppercase"), ("patsyn", "pattern syntax"),
   ("patternsyntax", "pattern syntax"), ("patws", "pattern white space"),
   ("patternwhitespace", "pattern white space"), ("pcm", "prepended concatenation mark"),
   ("prependedconcatenationmark", "prepended concatenation mark"), ("qmark", "quotation mark"),
   ("quotationmark", "quotation mark"), ("radical", "radical"), ("ri", "regional indicator"),
   ("regionalindicator", "regional indicator"), ("sterm", "sentence terminal"),
   ("sentenceterminal", "sentence terminal"), ("sd", "soft dotted"),
   ("softdotted", "soft dotted"), ("term", "terminal punctuation"),
   ("terminalpunctuation", "terminal punctuation"), ("uideo", "unified ideograph"),
   ("unifiedideograph", "unified ideograph"), ("vs", "variation selector"),
   ("variationselector", "variation selector")]

/-- The characters of a property that they have or have not. -/
def binary? (name : String) : Option CharSet :=
  match name with
  | "alphabetic" | "alpha" => some alphabetic
  | "lowercase" | "lower" => some lowercase
  | "uppercase" | "upper" => some uppercase
  | "cased" => some ((lowercase.union uppercase).union (ofCategories ["Lt"]))
  | "caseignorable" | "ci" =>
      some ((ofCategories ["Mn", "Me", "Cf", "Lm", "Sk"]).union (recorded "other case ignorable"))
  | "changeswhenlowercased" | "cwl" => some lowerChanges
  | "changeswhenuppercased" | "cwu" => some upperChanges
  | "changeswhentitlecased" | "cwt" => some titleChanges
  | "changeswhencasemapped" | "cwcm" =>
      some ((lowerChanges.union upperChanges).union titleChanges)
  | "changeswhencasefolded" | "cwcf" => some foldChanges
  | "defaultignorablecodepoint" | "di" => some defaultIgnorable
  | "graphemebase" | "grbase" => some graphemeBase
  | "graphemeextend" | "grext" => some graphemeExtend
  | "idstart" | "ids" => some idStart
  | "idcontinue" | "idc" => some idContinue
  | "xidstart" | "xids" => some (idStart.diff (recorded "id start not xid"))
  | "xidcontinue" | "xidc" => some (idContinue.diff (recorded "id continue not xid"))
  | "math" => some ((ofCategories ["Sm"]).union (recorded "other math"))
  | "whitespace" | "wspace" | "space" => some .blank
  | name => (recordedNames.lookup name).map recorded

/-- The characters that have a property. -/
def property? (name : List Char) : Option CharSet :=
  let name := String.ofList (plainName name)
  ((binary? name).or (category? name)).or (script? name)

/-- The characters with a value of a property that has many. -/
def propertyValue? (property value : List Char) : Option CharSet :=
  let value := String.ofList (plainName value)
  match String.ofList (plainName property) with
  | "gc" | "generalcategory" => category? value
  | "sc" | "script" => script? value
  | "scx" | "scriptextensions" => scriptUse? value
  | "age" => age? value
  | "wb" | "wordbreak" => wordBreak? value
  | "sb" | "sentencebreak" => sentenceBreak? value
  | "gcb" | "graphemeclusterbreak" => graphemeBreak? value
  | _ => none

end Receipts.Text
