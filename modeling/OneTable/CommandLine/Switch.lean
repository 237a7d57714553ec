/-!
# Options and their values

Behind the name of a command there are options. An option is named by a word behind two
dashes or by a letter behind one. Its value is attached to the word with an equals sign, or
to the letter with or without one, or it is the argument that follows; there may be several
arguments that follow if the option takes many values. An argument with a dash at its front
is never a value, but a dash alone is.

* `OneTable.CommandLine.Switch` – an option there is;
* `OneTable.CommandLine.Given` – an option with its values, as it was given;
* `OneTable.CommandLine.givenIn` – the options in a list of arguments.
-/

namespace OneTable.CommandLine

/-- Why no command is run. -/
inductive Stop
  | help
  | version
  | misuse
deriving DecidableEq

/-- How many values an option takes. -/
inductive Takes
  | nothing
  | one
  | many
deriving DecidableEq

/-- An option there is. -/
structure Switch where
  word : String
  letter : Option Char := none
  takes : Takes := .one
deriving DecidableEq

/-- An option with its values, as it was given. -/
structure Given where
  word : String
  values : List String
deriving DecidableEq

/-! ### From arguments to options -/

/-- The options so far, and the one whose values are being read. -/
structure Progress where
  given : List Given := []
  current : Option (Switch × List String) := none
  /-- A pair of dashes has ended the options. -/
  ended : Bool := false
deriving DecidableEq

namespace Progress

/-- Ends the option whose values are being read. It needs at least one. -/
def close (p : Progress) : Except Stop Progress :=
  match p.current with
  | none => .ok p
  | some (_, []) => .error .misuse
  | some (s, values) => .ok { p with given := p.given ++ [⟨s.word, values⟩], current := none }

/-- Begins an option, maybe with a value attached. -/
def start (p : Progress) (s : Switch) (attached : Option String) : Except Stop Progress :=
  match p.close with
  | .error stop => .error stop
  | .ok p =>
    match s.takes, attached with
    | .nothing, none => .ok { p with given := p.given ++ [⟨s.word, []⟩] }
    | .nothing, some _ => .error .misuse
    | _, some value => .ok { p with given := p.given ++ [⟨s.word, [value]⟩] }
    | _, none => .ok { p with current := some (s, []) }

/-- An argument that is a value. -/
def addValue (p : Progress) (value : String) : Except Stop Progress :=
  match p.current with
  | none => .error .misuse
  | some (s, values) =>
    if s.takes = .many ∨ values = [] then .ok { p with current := some (s, values ++ [value]) }
    else .error .misuse

/-- A word, with what is attached to it. -/
def addWord (switches : List Switch) (p : Progress) (cs : List Char) : Except Stop Progress :=
  let word := String.ofList (cs.takeWhile (· ≠ '='))
  let attached : Option String :=
    match cs.dropWhile (· ≠ '=') with
    | [] => none
    | _ :: value => some (String.ofList value)
  if word = "help" then
    match attached, p.close with
    | none, .ok _ => .error .help
    | _, _ => .error .misuse
  else
    match switches.find? fun s => s.word = word with
    | some s => p.start s attached
    | none => .error .misuse

/-- Letters, the last of which may have a value attached. -/
def addLetters (switches : List Switch) (p : Progress) : List Char → Except Stop Progress
  | [] => .ok p
  | 'h' :: _ => p.close.bind fun _ => .error .help
  | c :: rest =>
    match switches.find? fun s => s.letter = some c with
    | none => .error .misuse
    | some s =>
      if s.takes = .nothing then (p.start s none).bind fun p => addLetters switches p rest
      else
        match rest with
        | [] => p.start s none
        | '=' :: value => p.start s (some (String.ofList value))
        | value => p.start s (some (String.ofList value))

/-- **One argument.** -/
def add (switches : List Switch) (p : Progress) (argument : String) : Except Stop Progress :=
  if p.ended then .error .misuse
  else
    match argument.toList with
    | ['-', '-'] => .ok { p with ended := true }
    | '-' :: '-' :: cs => p.addWord switches cs
    | ['-'] => p.addValue argument
    | '-' :: cs => p.addLetters switches cs
    | _ => p.addValue argument

end Progress

/-- **The options in a list of arguments.** -/
def givenIn (switches : List Switch) (arguments : List String) : Except Stop (List Given) :=
  ((arguments.foldlM (Progress.add switches) {}).bind Progress.close).map Progress.given

/-! ### Looking options up -/

/-- The values of an option, for each time it was given. -/
def valuesOf (word : String) (given : List Given) : List (List String) :=
  (given.filter fun g => g.word = word).map Given.values

/-- The value of an option that may be given once. -/
def valueOf (word : String) (given : List Given) : Except Stop (Option String) :=
  match valuesOf word given with
  | [] => .ok none
  | [[value]] => .ok (some value)
  | _ => .error .misuse

/-- Whether an option is given, which it may be once. -/
def isGiven (word : String) (given : List Given) : Except Stop Bool :=
  match valuesOf word given with
  | [] => .ok false
  | [_] => .ok true
  | _ => .error .misuse

/-- A value that has to be there. -/
def required {α : Type} : Option α → Except Stop α
  | some a => .ok a
  | none => .error .misuse

end OneTable.CommandLine
