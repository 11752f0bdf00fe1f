/-!
# Command line arguments

Options with a long name and perhaps a letter, with or without a value. A value follows its option
as the next argument or is attached to it; letters may be put together behind one dash. No option is
given twice, and there are no arguments besides options. A request for help or for the version
counts as soon as it is reached.
-/

namespace TamperWatch.Arguments

/-- What an option takes. -/
inductive Arity where
  | flag
  /-- A value, which may be empty. -/
  | text
  /-- The path of a file, which is not empty. -/
  | path
  deriving DecidableEq, Repr

/-- An option that a tool knows. -/
structure Known where
  name : String
  letter : Option Char
  arity : Arity
  deriving DecidableEq, Repr

/-- The options given so far with their values; flags have an empty value. -/
abbrev Given := List (String × String)

/-- What a command line asks for. -/
inductive Request (α : Type) where
  /-- It breaks the rules. -/
  | rejected
  | help
  | version
  | run (options : α)
  deriving DecidableEq, Repr

/-- How reading goes on after a part of an argument. -/
inductive Step where
  /-- With the next argument. -/
  | go (given : Given)
  /-- With the next argument as a value. -/
  | await (option : Known) (given : Given)
  | stop (request : Request Given)

/-- Gives an option a value. -/
def record (option : Known) (value : String) (given : Given) : Step :=
  if (given.lookup option.name).isSome then .stop .rejected
  else if option.arity = .path ∧ value = "" then .stop .rejected
  else .go (given ++ [(option.name, value)])

/-- An argument that begins with two dashes, without these. -/
def longStep (known : List Known) (cs : List Char) (given : Given) : Step :=
  let name := String.ofList (cs.takeWhile (· ≠ '='))
  let attached := (cs.dropWhile (· ≠ '=')).tail?
  match known.find? (·.name == name), attached with
  | some option, none =>
    if option.arity = .flag then record option "" given else .await option given
  | some option, some value =>
    if option.arity = .flag then .stop .rejected else record option (String.ofList value) given
  | none, none =>
    if name = "version" then .stop .version
    else if name = "help" then .stop .help
    else .stop .rejected
  | none, some _ => .stop .rejected

/-- Letters behind one dash. The first that takes a value has the rest attached to it. -/
def letterSteps (known : List Known) (given : Given) : List Char → Step
  | [] => .go given
  | c :: cs =>
    match known.find? (·.letter == some c) with
    | some option =>
      if option.arity = .flag then
        match record option "" given with
        | .go given => letterSteps known given cs
        | step => step
      else
        match cs with
        | [] => .await option given
        | '=' :: value => record option (String.ofList value) given
        | value => record option (String.ofList value) given
    | none =>
      if c = 'V' then .stop .version
      else if c = 'h' then .stop .help
      else .stop .rejected

/-- One argument that is not a value, when `more` arguments follow it. -/
def step (known : List Known) (given : Given) (argument : String) (more : Nat) : Step :=
  match argument.toList with
  | ['-', '-'] => if more = 0 then .go given else .stop .rejected
  | '-' :: '-' :: cs => longStep known cs given
  | '-' :: c :: cs => letterSteps known given (c :: cs)
  | _ => .stop .rejected

/-- An argument that stands as a value may begin with a dash only if it is that dash. -/
def isValue (argument : String) : Bool :=
  argument = "-" || argument.toList.head? ≠ some '-'

/-- Reads arguments; `awaited` is the option whose value comes next. -/
def readFrom (known : List Known) (given : Given) (awaited : Option Known) :
    List String → Request Given
  | [] => if awaited.isSome then .rejected else .run given
  | argument :: rest =>
    let next := match awaited with
      | some option => if isValue argument then record option argument given else .stop .rejected
      | none => step known given argument rest.length
    match next with
    | .go given => readFrom known given none rest
    | .await option given => readFrom known given (some option) rest
    | .stop request => request

/-- Reads the arguments of a command line. -/
def read (known : List Known) (arguments : List String) : Request Given :=
  readFrom known [] none arguments

def Given.has (given : Given) (name : String) : Bool :=
  (given.lookup name).isSome

end TamperWatch.Arguments
