import ActionTree.Text.Numeral
import ActionTree.Text.Split

/-!
# ActionTree.CommandLine.Arguments

The arguments of a command: options with their values, and operands.

1. an option is two hyphens and a word, or one hyphen and a letter; letters may
   share a hyphen, and the last one may be followed by its value;
2. a value stands behind an equals sign or is the next argument, which then starts
   with no hyphen unless it is a hyphen alone;
3. an argument of two hyphens ends the options, and all that follow are operands;
4. an option is given once unless it may be repeated.

A request for help counts if nothing in front of it is a misuse.
-/

namespace ActionTree.CommandLine

open Text

/-! ## What may be given -/

/-- What an option or an operand has to look like. -/
inductive Shape where
  | text
  /-- A text that is not empty. -/
  | path
  /-- The numeral of a number below a limit. -/
  | natural (limit : Nat)
deriving DecidableEq, Repr

/-- Whether a text has a shape. -/
def Shape.fits (s : Shape) (value : String) : Bool :=
  match s with
  | text => true
  | path => value != ""
  | natural limit => (readNatChars value.toList).any fun n => n < limit

/-- An option; without a shape it takes no value. -/
structure Switch where
  word : String
  letter : Option Char := none
  shape : Option Shape := none
  repeats : Bool := false
deriving DecidableEq, Repr

/-- Which operands a command takes. -/
inductive Operands where
  | none
  | one (s : Shape)
  | any
  /-- The operands are a command with arguments of its own. -/
  | command
deriving DecidableEq, Repr

/-- The options and operands of a command. -/
structure Usage where
  switches : List Switch
  operands : Operands
deriving DecidableEq, Repr

/-- The option that every command has. -/
def helpSwitch : Switch := ⟨"help", some 'h', none, false⟩

namespace Usage

/-- The option of a word. -/
def findWord? (u : Usage) (word : String) : Option Switch :=
  (helpSwitch :: u.switches).find? fun s => s.word == word

/-- The option of a letter. -/
def findLetter? (u : Usage) (letter : Char) : Option Switch :=
  (helpSwitch :: u.switches).find? fun s => s.letter == some letter

end Usage

/-! ## What was given -/

/-- Options with their values in the order in which they were given, and operands. -/
structure Given where
  options : List (String × String) := []
  operands : List String := []
deriving DecidableEq, Repr

namespace Given

/-- Whether an option was given. -/
def has (g : Given) (word : String) : Bool := g.options.any fun o => o.1 == word

/-- The values of an option. -/
def values (g : Given) (word : String) : List String :=
  (g.options.filter fun o => o.1 == word).map Prod.snd

/-- The value of an option, or another text if the option was not given. -/
def valueOr (g : Given) (word other : String) : String := ((g.values word).head?).getD other

end Given

/-- Why arguments are no command. -/
inductive Refusal where
  | misuse
  | help
deriving DecidableEq, Repr

/-! ## Reading -/

/-- How an argument looks by itself. -/
inductive Look where
  | separator
  | word (name : String) (value : Option String)
  | letters (cs : List Char)
  | plain
deriving DecidableEq, Repr

/-- The look of an argument. -/
def lookOf (argument : String) : Look :=
  match argument.toList with
  | ['-', '-'] => .separator
  | '-' :: '-' :: cs =>
    match cutChars '=' cs with
    | some (name, value) => .word (String.ofList name) (some (String.ofList value))
    | none => .word (String.ofList cs) none
  | '-' :: c :: cs => .letters (c :: cs)
  | _ => .plain

/-- What was given, and one option more. -/
def Given.put (g : Given) (s : Switch) (value : String) : Except Refusal Given :=
  if s.word == helpSwitch.word then .error .help
  else if g.has s.word && !s.repeats then .error .misuse
  else if s.shape.all fun shape => shape.fits value then
    .ok { g with options := g.options ++ [(s.word, value)] }
  else .error .misuse

/-- What was given, and the options of some letters; the option at their end may
lack a value. -/
def readLetters (u : Usage) (g : Given) : List Char → Except Refusal (Given × Option Switch)
  | [] => .ok (g, none)
  | c :: cs =>
    match u.findLetter? c with
    | none => .error .misuse
    | some s =>
      match s.shape, cs with
      | none, cs => do readLetters u (← g.put s "") cs
      | some _, [] => .ok (g, some s)
      | some _, '=' :: value => do return (← g.put s (String.ofList value), none)
      | some _, value => do return (← g.put s (String.ofList value), none)

/-- What was given, and the option of a word; it may lack a value. -/
def readWord (u : Usage) (g : Given) (name : String) (value : Option String) :
    Except Refusal (Given × Option Switch) :=
  match u.findWord? name with
  | none => .error .misuse
  | some s =>
    match s.shape, value with
    | none, none => do return (← g.put s "", none)
    | none, some _ => .error .misuse
    | some _, none => .ok (g, some s)
    | some _, some v => do return (← g.put s v, none)

/-- Whether one operand more is allowed. -/
def Operands.allow (os : Operands) (before : List String) (operand : String) : Bool :=
  match os with
  | none => false
  | one s => before.isEmpty && s.fits operand
  | any => true
  | command => false

/-- What was given, and one operand more. -/
def Given.putOperand (g : Given) (u : Usage) (operand : String) : Except Refusal Given :=
  if u.operands.allow g.operands operand then .ok { g with operands := g.operands ++ [operand] }
  else .error .misuse

/-- What was given, and operands alone. -/
def readOperands (u : Usage) (g : Given) : List String → Except Refusal Given
  | [] => .ok g
  | a :: as => do readOperands u (← g.putOperand u a) as

/-- Reads arguments behind what was given; `lacking` is an option that still needs
its value.  A command among the operands is left with all that follows it. -/
def readArguments (u : Usage) (g : Given) (lacking : Option Switch) :
    List String → Except Refusal (Given × List String)
  | [] => if lacking.isSome then .error .misuse else .ok (g, [])
  | a :: as =>
    match lookOf a, lacking with
    | .plain, some s => do readArguments u (← g.put s a) none as
    | .plain, none =>
      if u.operands = .command then .ok (g, a :: as)
      else do readArguments u (← g.putOperand u a) none as
    | _, some _ => .error .misuse
    | .separator, none => do return (← readOperands u g as, [])
    | .word name value, none => do
      let (g, lacking) ← readWord u g name value
      readArguments u g lacking as
    | .letters cs, none => do
      let (g, lacking) ← readLetters u g cs
      readArguments u g lacking as

namespace Usage

/-- What arguments give to a command that has none below it. -/
def read (u : Usage) (arguments : List String) : Except Refusal Given :=
  (readArguments u {} none arguments).bind fun (g, _) =>
    match u.operands, g.operands with
    | .one _, [] => .error .misuse
    | _, _ => .ok g

/-- What arguments give to a command that has others below it, the name of the one
below, and its arguments. -/
def readAbove (u : Usage) (arguments : List String) :
    Except Refusal (Given × String × List String) :=
  (readArguments u {} none arguments).bind fun
    | (g, name :: rest) => .ok (g, name, rest)
    | (_, []) => .error .misuse

end Usage

end ActionTree.CommandLine
