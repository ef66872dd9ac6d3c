/-!
# Arguments of the server

The server takes the address to listen on and a base path for its routes. An
argument wins over a variable, and a variable over the default. Arguments are read
from the left, and the first one that asks for help or is misused decides.
-/

namespace Receipts.Server

/-- What the server was told on its command line. -/
structure Given where
  bind : Option String := none
  basePath : Option String := none
  deriving DecidableEq, Repr

/-- Why a command line does not start a server. -/
inductive Interruption where
  | help
  | version
  | misuse
  deriving DecidableEq, Repr

/-- Whether an argument looks like a flag, so that it is no value of the flag before it. -/
def looksLikeFlag (argument : String) : Bool :=
  match argument.toList with
  | '-' :: _ :: _ => true
  | _ => false

/-- The value in an argument that is a flag, an equals sign and a value. -/
def inlineValue? (flag argument : String) : Option String :=
  let start := flag.toList ++ ['=']
  if start.isPrefixOf argument.toList then
    some (String.ofList (argument.toList.drop start.length))
  else none

namespace Given

/-- Sets the address, which must not be set yet. -/
def setBind (given : Given) (value : String) : Except Interruption Given :=
  if given.bind.isSome then .error .misuse else .ok { given with bind := some value }

/-- Sets the base path, which must not be set yet. -/
def setBasePath (given : Given) (value : String) : Except Interruption Given :=
  if given.basePath.isSome then .error .misuse else .ok { given with basePath := some value }

/-- Reads arguments. -/
def read : Given → List String → Except Interruption Given
  | given, [] => .ok given
  | given, ["--"] => .ok given
  | given, argument :: rest =>
      if argument == "--bind" || argument == "--base-path" then
        match rest with
        | [] => .error .misuse
        | value :: rest =>
            if looksLikeFlag value then .error .misuse
            else
              match if argument == "--bind" then given.setBind value
                else given.setBasePath value with
              | .ok given => read given rest
              | .error interruption => .error interruption
      else
        match inlineValue? "--bind" argument, inlineValue? "--base-path" argument with
        | some value, _ =>
            match given.setBind value with
            | .ok given => read given rest
            | .error interruption => .error interruption
        | none, some value =>
            match given.setBasePath value with
            | .ok given => read given rest
            | .error interruption => .error interruption
        | none, none =>
            if argument == "--help" then .error .help
            else if argument == "--version" then .error .version
            else
              match argument.toList with
              | '-' :: 'h' :: _ => .error .help
              | '-' :: 'V' :: _ => .error .version
              | _ => .error .misuse

end Given

/-- What the server is told in all. -/
structure Options where
  bind : String
  basePath : Option String
  deriving DecidableEq, Repr

/-- The options in arguments and variables. -/
def Options.ofArguments (arguments : List String) (environment : String → Option String) :
    Except Interruption Options := do
  let given ← Given.read {} arguments
  return {
    bind := (given.bind.or (environment "RECEIPT_BIND")).getD "0.0.0.0:3000"
    basePath := given.basePath.or (environment "RECEIPT_BASE_PATH") }

end Receipts.Server
