import ScopeComposer.Text.Split

/-!
# Arguments of a command line

An argument is an option with a long name, possibly with its value after an equals sign, a letter
after a dash, the separator `--`, or a plain word. Whether an option takes a value and what it does
with it is part of a grammar. The value of an option is the next argument if it is not attached;
then it has to be a plain word. After the separator every argument is an operand.
-/

namespace ScopeComposer.CommandLine

/-- The form of an argument. -/
inductive Argument where
  /-- Two dashes. -/
  | separator
  /-- A name after two dashes, and what stands after an equals sign. -/
  | long (name : String) (value : Option String)
  /-- The first letter after a single dash. -/
  | short (letter : Char)
  /-- Anything else; a dash alone belongs here. -/
  | plain
deriving DecidableEq, Repr

/-- The form of an argument. -/
def Argument.ofText (text : String) : Argument :=
  match text.toList with
  | ['-', '-'] => .separator
  | '-' :: '-' :: rest =>
    let (name, value) := Text.cutChars '=' rest
    .long (String.ofList name) (value.map String.ofList)
  | '-' :: letter :: _ => .short letter
  | _ => .plain

/-- What an option does to the flags that were given before it; none if it may not stand there. -/
inductive Action (σ : Type) where
  /-- It stands alone. -/
  | alone (apply : σ → Option σ)
  /-- It takes a value. -/
  | valued (apply : String → σ → Option σ)

namespace Action

variable {σ τ α : Type}

/-- An option without a value, which may be given once. -/
def flag (given : σ → Bool) (put : σ → σ) : Action σ :=
  .alone fun s => if given s then none else some (put s)

/-- An option with a value, which may be given once and has to be readable. -/
def once (read : String → Option α) (given : σ → Option α) (put : α → σ → σ) : Action σ :=
  .valued fun text s =>
    match given s with
    | some _ => none
    | none => (read text).map (put · s)

/-- The same action on a part of the flags. -/
def within (get : τ → σ) (put : σ → τ → τ) : Action σ → Action τ
  | .alone apply => .alone fun t => (apply (get t)).map (put · t)
  | .valued apply => .valued fun text t => (apply text (get t)).map (put · t)

end Action

/-- What may stand on a command line, or on the part of one that belongs to a command. -/
structure Grammar (σ : Type) where
  /-- The options by their long names. -/
  options : List (String × Action σ)
  /-- The number of operands. -/
  operands : Nat := 0
  /-- The names of commands, one of which hands the rest over to a grammar of its own. -/
  commands : List String := []
  /-- Whether the version of the program can be asked for. -/
  hasVersion : Bool := false

/-- Why a command line is not carried out. -/
inductive Stop where
  /-- Help was asked for. -/
  | help
  /-- The version of the program was asked for. -/
  | version
  /-- The command line breaks the grammar. -/
  | misuse
deriving DecidableEq, Repr

/-- What was found on a command line. -/
structure Scanned (σ : Type) where
  /-- The flags. -/
  flags : σ
  /-- The operands in order. -/
  operands : List String
  /-- The command with the arguments after it, if there is one. -/
  command : Option (String × List String)

namespace Grammar

variable {σ : Type}

/-- Takes all arguments as operands. -/
def takeOperands (g : Grammar σ) (flags : σ) (operands args : List String) :
    Except Stop (Scanned σ) :=
  let all := operands ++ args
  if all.length ≤ g.operands then .ok ⟨flags, all, none⟩ else .error .misuse

/-- What an option that the grammar does not have asks for. -/
def unknownOption (g : Grammar σ) (name : String) : Stop :=
  if name = "help" then .help
  else if name = "version" ∧ g.hasVersion then .version
  else .misuse

/-- What a letter asks for. -/
def letterOption (g : Grammar σ) (letter : Char) : Stop :=
  if letter = 'h' then .help
  else if letter = 'V' ∧ g.hasVersion then .version
  else .misuse

/-- Goes through arguments after some flags and operands. -/
def scanFrom (g : Grammar σ) (flags : σ) (operands : List String) :
    List String → Except Stop (Scanned σ)
  | [] => .ok ⟨flags, operands, none⟩
  | arg :: rest =>
    match Argument.ofText arg with
    | .separator => g.takeOperands flags operands rest
    | .short letter => .error (g.letterOption letter)
    | .plain =>
      if g.commands.contains arg then .ok ⟨flags, operands, some (arg, rest)⟩
      else if operands.length < g.operands then scanFrom g flags (operands ++ [arg]) rest
      else .error .misuse
    | .long name value =>
      match g.options.lookup name, value, rest with
      | some (.alone apply), none, rest =>
        match apply flags with
        | some flags => scanFrom g flags operands rest
        | none => .error .misuse
      | some (.valued apply), some text, rest =>
        match apply text flags with
        | some flags => scanFrom g flags operands rest
        | none => .error .misuse
      | some (.valued apply), none, next :: rest =>
        if Argument.ofText next = .plain then
          match apply next flags with
          | some flags => scanFrom g flags operands rest
          | none => .error .misuse
        else .error .misuse
      | none, none, _ => .error (g.unknownOption name)
      | _, _, _ => .error .misuse

/-- Goes through all arguments. -/
def scan (g : Grammar σ) (flags : σ) (args : List String) : Except Stop (Scanned σ) :=
  g.scanFrom flags [] args

end Grammar

end ScopeComposer.CommandLine
