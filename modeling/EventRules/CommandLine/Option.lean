import EventRules.Text.Search

/-!
# Options and positional arguments

The arguments of a command are read from left to right: options with two dashes, with their values as the next
argument or after an equals sign, and positional arguments between them. After two dashes alone all arguments are
positional. The first argument that does not fit ends the reading, and so does an option that asks for help.
-/

namespace EventRules.CommandLine

/-- Why the reading of arguments ends early. -/
inductive Stop where
  | help
  | version
  /-- The arguments do not fit the command. -/
  | misuse
  deriving DecidableEq, Repr

/-- What an option does with a value. -/
inductive OptionKind where
  /-- The option stands alone. -/
  | flag
  /-- The value is a text. -/
  | text
  /-- The value is the path of a file, not an empty text. -/
  | path
  /-- The value is a name and a value with an equals sign between them; the option may come several times. -/
  | binding
  /-- The option stands alone and ends the reading; it also has a short form of one dash and a letter. -/
  | stop (reason : Stop) (letter : Char)
  deriving DecidableEq, Repr

/-- An option of a command. -/
structure OptionInfo where
  name : String
  kind : OptionKind
  deriving DecidableEq, Repr

namespace OptionInfo

/-- Whether the option may come several times. -/
def isRepeatable (o : OptionInfo) : Bool :=
  o.kind = .binding

/-- Whether the option takes the value. -/
def accepts (o : OptionInfo) (value : String) : Bool :=
  match o.kind with
  | .path => !value.isEmpty
  | .binding => Text.contains value "="
  | _ => true

/-- The reason to end the reading that the option gives by a letter. -/
def stopOf? (letter : Char) (o : OptionInfo) : Option Stop :=
  match o.kind with
  | .stop reason l => if l = letter then some reason else none
  | _ => none

end OptionInfo

/-- What a command takes, and what has been read of its arguments. -/
structure Scan where
  options : List OptionInfo
  /-- How many positional arguments there may be, where there is a bound. -/
  most : Option Nat
  /-- The options that were given, with their values. -/
  given : List (String × String) := []
  positionals : List String := []
  /-- An option that waits for its value. -/
  pending : Option OptionInfo := none
  onlyPositionals : Bool := false
  deriving Repr

namespace Scan

/-- Notes an option with its value. -/
def give (s : Scan) (o : OptionInfo) (value : String) : Except Stop Scan :=
  if !o.accepts value || (!o.isRepeatable && (s.given.lookup o.name).isSome) then .error .misuse
  else .ok { s with given := s.given ++ [(o.name, value)], pending := none }

/-- Notes a positional argument. -/
def place (s : Scan) (arg : String) : Except Stop Scan :=
  match s.most with
  | some most =>
    if s.positionals.length < most then .ok { s with positionals := s.positionals ++ [arg] } else .error .misuse
  | none => .ok { s with positionals := s.positionals ++ [arg] }

/-- Takes in an option, written without its dashes. -/
def long (s : Scan) (text : String) : Except Stop Scan :=
  let (name, value) := match Text.splitOnce? text "=" with
    | some (name, value) => (name, some value)
    | none => (text, none)
  match s.options.find? (·.name = name) with
  | none => .error .misuse
  | some o =>
    match o.kind, value with
    | .stop reason _, none => .error reason
    | .flag, none => s.give o ""
    | .stop .., some _ | .flag, some _ => .error .misuse
    | _, some value => s.give o value
    | _, none => .ok { s with pending := some o }

/-- Takes in letters after a single dash: the first has to be that of an option that ends the reading. -/
def short (s : Scan) (letters : List Char) : Except Stop Scan :=
  .error ((letters.head?.bind fun letter => s.options.findSome? (OptionInfo.stopOf? letter)).getD .misuse)

/-- Whether an argument is a value or positional argument by its looks; a single dash is. -/
def isPlain (arg : String) : Bool :=
  !Text.startsWith arg "-" || arg = "-"

/-- Takes in an argument. -/
def step (s : Scan) (arg : String) : Except Stop Scan :=
  match s.pending with
  | some o => if isPlain arg then s.give o arg else .error .misuse
  | none =>
    if s.onlyPositionals || isPlain arg then s.place arg
    else
      match arg.toList with
      | ['-', '-'] => .ok { s with onlyPositionals := true }
      | '-' :: '-' :: rest => s.long (String.ofList rest)
      | letters => s.short (letters.drop 1)

/-- What has been read, if no option waits for its value. -/
def finish (s : Scan) : Except Stop Scan :=
  if s.pending.isSome then .error .misuse else .ok s

/-- Reads all arguments. -/
def readAll (s : Scan) (args : List String) : Except Stop Scan := do
  (← args.foldlM step s).finish

/-- Reads the options before the first positional argument, which is given with the rest. -/
def readLeading (s : Scan) : List String → Except Stop (Scan × List String)
  | [] => do return (← s.finish, [])
  | arg :: rest =>
    if s.pending.isNone && !s.onlyPositionals && isPlain arg then .ok (s, arg :: rest)
    else do readLeading (← s.step arg) rest

/-- The value of an option that comes at most once. -/
def value? (s : Scan) (name : String) : Option String :=
  s.given.lookup name

/-- The values of an option that may come several times. -/
def values (s : Scan) (name : String) : List String :=
  (s.given.filter (·.1 = name)).map (·.2)

end Scan

end EventRules.CommandLine
